import Mathlib
import QuadraticTrials.Proofs.InteriorPoint.Boundary
import QuadraticTrials.Proofs.InteriorPoint.Search

/-!
Tried lengths over an ordered field. All of them end before the boundary of their direction, which
keeps slacks and inequality duals positive, and forty-eight halvings leave no length that is still
long enough.
-/

namespace QuadraticTrials

variable {K : Type} [Field K] [LinearOrder K] [IsStrictOrderedRing K] {n m p : Nat}

namespace Program

variable {prog : Program K n m p} {fraction : K} {r : Record K n m p}
  {dir : Direction K n m p} {length : K}

omit [IsStrictOrderedRing K] in
theorem minStep_eq : (minStep : K) = 1 / 10 ^ 14 := by
  simp [minStep, Scalar.decimal_eq_div]

theorem minStep_pos : (0 : K) < minStep := by
  rw [minStep_eq]
  positivity

/-- Each halving multiplies by one half, by induction on their number. -/
theorem halve_eq (halvings : Nat) (length : K)
    : halve halvings length = length * (1 / 2) ^ halvings := by
  induction halvings generalizing length with
  | zero => simp [halve_zero]
  | succ halvings ih =>
      rw [halve_succ, ih, Scalar.ratio_eq_div, Nat.cast_one, Nat.cast_ofNat, pow_succ']
      ring

/-- The first length of a step is at most one, whatever the fraction is. -/
theorem firstLength_le_one : firstLength fraction r dir ≤ 1 := by
  unfold firstLength Direction.fractionLength
  split
  · split
    · simp
    · exact le_rfl
  · simp

/-- The first length from an interior point stays before the boundary, of which it is at most the
fraction.
-/
theorem inside_firstLength (dir : Direction K n m p) (interior : r.iterate.Interior)
    (fraction_pos : 0 < fraction) (fraction_lt_one : fraction < 1)
    : dir.Inside r.iterate (firstLength fraction r dir) := by
  have before : ∀ limit ∈ dir.boundary r.iterate, firstLength fraction r dir < limit :=
    Direction.lt_boundary_of_le_fractionLength interior fraction_lt_one le_rfl
  rw [Direction.forall_mem_boundary_iff fun _ _ le before => before.trans_le le] at before
  obtain ⟨slack, dual⟩ := before
  exact ⟨Direction.fractionLength_pos interior fraction_pos, slack, dual⟩

theorem halve_pos (halvings : Nat) (positive : 0 < length) : 0 < halve halvings length := by
  rw [halve_eq]
  positivity

/-- Further halvings shorten a length, since the factors are at most one. -/
theorem halve_le {fewer halvings : Nat} (le : fewer ≤ halvings) (positive : 0 < length)
    : halve halvings length ≤ halve fewer length := by
  rw [halve_eq, halve_eq]
  refine mul_le_mul_of_nonneg_left ?_ positive.le
  exact pow_le_pow_of_le_one (by norm_num) (by norm_num) le

/-- A halved length stays before a boundary that the length itself stays before. -/
theorem inside_halve {it : Iterate K n m p} (inside : dir.Inside it length) (halvings : Nat)
    : dir.Inside it (halve halvings length) := by
  have shorter : halve halvings length ≤ length := halve_le (Nat.zero_le _) inside.pos
  exact ⟨halve_pos halvings inside.pos,
    fun crossing slack => shorter.trans_lt (inside.slack crossing slack),
    fun crossing dual => shorter.trans_lt (inside.dual crossing dual)⟩

/-- Every tried length from an interior point stays before the boundary. -/
theorem Tries.inside (tried : prog.Tries fraction r dir length) (interior : r.iterate.Interior)
    (fraction_pos : 0 < fraction) (fraction_lt_one : fraction < 1)
    : dir.Inside r.iterate length := by
  have first := inside_firstLength dir interior fraction_pos fraction_lt_one
  cases tried with
  | corrected found => exact first
  | damped found halvings => exact inside_halve first halvings

/-- Forty-eight halvings of a length of at most one leave less than the shortest step. -/
theorem halve_lt_minStep {halvings : Nat} (many : maxTrials ≤ halvings) (le_one : length ≤ 1)
    : halve halvings length < minStep := by
  calc
    halve halvings length = length * (1 / 2) ^ halvings := halve_eq halvings length
    _ ≤ (1 / 2) ^ halvings := mul_le_of_le_one_left (by positivity) le_one
    _ ≤ (1 / 2) ^ maxTrials := pow_le_pow_of_le_one (by norm_num) (by norm_num) many
    _ < minStep := by norm_num [maxTrials, minStep_eq]

/-- A stalled move leaves no tried step that is acceptable, however many halvings are made: the
bound on their number only leaves out lengths that are too short.
-/
theorem not_acceptable_of_stalled (stalled : prog.move fraction r = .stalled)
    (tried : prog.Tries fraction r dir length)
    : ¬prog.Acceptable r dir length := by
  rintro ⟨long, improving⟩
  have searches := prog.move_searches fraction r
  rw [stalled] at searches
  cases searches with
  | short bounded found improves short =>
      cases tried with
      | corrected found' =>
          obtain ⟨rfl, rfl⟩ := found.unique found'
          exact long.not_gt short
      | damped found' halvings =>
          cases found' with
          | found found' refusal damped =>
              obtain ⟨rfl, rfl⟩ := found.unique found'
              exact refusal improves
  | exhausted bounded found searched =>
      cases tried with
      | corrected found' =>
          cases found with
          | found found refusal damped =>
              obtain ⟨rfl, rfl⟩ := found.unique found'
              exact refusal improving
      | damped found' halvings =>
          -- A length that is still long enough was reached within the trials, and every length
          -- before it was longer, so backtracking has refused it.
          obtain rfl := found.unique found'
          have few : halvings < maxTrials := by
            by_contra many
            exact long.not_gt (halve_lt_minStep (not_lt.mp many) firstLength_le_one)
          have positive : 0 < firstLength fraction r dir := by
            have halved := minStep_pos.trans_le long
            rw [halve_eq] at halved
            exact pos_of_mul_pos_left halved (by positivity)
          refine backtrack_eq_none searched few (fun earlier le => ?_) improving
          exact long.trans (halve_le le positive)

omit [IsStrictOrderedRing K] in
/-- A search that finds its directions and no acceptable step stalls. -/
theorem stalled_of_not_acceptable (bounded : 0 < m) (regular : prog.Regular fraction r)
    (refused : ∀ dir length, prog.Tries fraction r dir length → ¬prog.Acceptable r dir length)
    : prog.move fraction r = .stalled := by
  cases moved : prog.move fraction r with
  | stalled => rfl
  | singular => exact absurd regular (not_regular_of_singular moved)
  | advance next length =>
      obtain ⟨dir, taken, -⟩ := takes_of_advance moved
      cases taken with
      | full free found => exact absurd free bounded.ne'
      | searched bounded tried acceptable => exact absurd acceptable (refused _ _ tried)

end Program

end QuadraticTrials

import Mathlib
import QuadraticTrials.Proofs.InteriorPoint.Descent
import QuadraticTrials.Proofs.InteriorPoint.NewtonSystem

/-!
Centering directions. Along each of them the merit falls sufficiently for all lengths that are short
against the products of its changes of slacks and inequality duals. A run therefore stalls only
where the way to the boundary is too short or where these products are large against the merit.
-/

namespace QuadraticTrials

open Matrix

variable {K : Type} [Field K] [LinearOrder K] [IsStrictOrderedRing K] {n m p : Nat}

-----------------------------------------------------------------------------------------
-- The merit along a centering direction
-----------------------------------------------------------------------------------------

/-- The target that leaves a part of the mean complementarity in every row. -/
def Iterate.centeringTarget (it : Iterate K n m p) (sigma : K) : Vector K m :=
  Vec.minus (Vec.times it.s it.z) (Vector.replicate m (sigma * Program.meanGap m it.gap))

theorem Residuals.merit_scale (res : Residuals K n m p) {factor : K} (nonneg : 0 ≤ factor)
    (gap : K)
    : (res.scale factor).merit gap = factor * res.merit 0 + gap := by
  simp only [merit_eq, scale, Vec.get_scale, maxNorm_smul nonneg, ← mul_max_of_nonneg _ _ nonneg]
  ring

namespace Program

variable {prog : Program K n m p} {it : Iterate K n m p} {dir : Direction K n m p}
  {sigma length : K}

theorem sum_centeringTarget (bounded : 0 < m) (it : Iterate K n m p) (sigma : K)
    : ∑ i, (it.centeringTarget sigma).get i = (1 - sigma) * it.gap := by
  have rows : (m : K) ≠ 0 := Nat.cast_ne_zero.mpr bounded.ne'
  have products : ∑ i, it.s.get i * it.z.get i = it.gap := (Vec.dot_eq_dotProduct _ _).symm
  simp only [Iterate.centeringTarget, Vec.get_minus, Vec.get_times, Vec.get_replicate,
    Pi.sub_apply, Pi.mul_apply, Finset.sum_sub_distrib, products, Finset.sum_const,
    Finset.card_univ, Fintype.card_fin, nsmul_eq_mul, meanGap, if_pos bounded]
  field_simp

/-- Up to a full step the merit falls by the part of the length that centering does not leave,
apart from a quadratic term.
-/
theorem meritAt_advance_le (bounded : 0 < m) (interior : it.Interior) (sigma_nonneg : 0 ≤ sigma)
    (found : prog.direction? it (prog.residuals it) (it.centeringTarget sigma) = some dir)
    (length_nonneg : 0 ≤ length) (length_le_one : length ≤ 1)
    : prog.meritAt (it.advance dir length)
      ≤ (1 - length * (1 - sigma)) * prog.meritAt it
        + length ^ 2 * (dir.ds.get ⬝ᵥ dir.dz.get) := by
  have solves := ((direction?_eq_some_iff fun i => (interior.slack_pos i).ne').mp found).2
  have gap := solves.gap_advance length
  rw [sum_centeringTarget bounded] at gap
  rw [meritAt, residuals_advance solves.toRemoves, Residuals.merit_scale _ (by linarith), gap,
    meritAt, Residuals.merit_eq_add _ it.gap]
  have kept := mul_nonneg (mul_nonneg length_nonneg sigma_nonneg)
    (Residuals.merit_zero_nonneg (prog.residuals it))
  linarith

/-- A length is improving when its quadratic term is small against the merit: centering by at most
one half leaves room for 49 of the 50 hundredths.
-/
theorem decreasesMerit_centering (bounded : 0 < m) (interior : it.Interior)
    (sigma_nonneg : 0 ≤ sigma) (sigma_le : sigma ≤ 1 / 2)
    (found : prog.direction? it (prog.residuals it) (it.centeringTarget sigma) = some dir)
    (length_pos : 0 < length) (length_le_one : length ≤ 1)
    (small : length * (dir.ds.get ⬝ᵥ dir.dz.get) ≤ 49 / 100 * prog.meritAt it)
    : prog.decreasesMerit it (prog.meritAt it) dir length = true := by
  have merit_nonneg : 0 ≤ prog.meritAt it := (meritAt_pos bounded interior).le
  have falls := meritAt_advance_le bounded interior sigma_nonneg found length_pos.le length_le_one
  have centered : length * sigma * prog.meritAt it ≤ length * (1 / 2) * prog.meritAt it :=
    mul_le_mul_of_nonneg_right (mul_le_mul_of_nonneg_left sigma_le length_pos.le) merit_nonneg
  have quadratic := mul_le_mul_of_nonneg_left small length_pos.le
  rw [decreasesMerit, decide_eq_true_eq, sufficientDecrease, Scalar.ratio_eq_div]
  change prog.meritAt (it.advance dir length) ≤ _
  push_cast
  linarith

-----------------------------------------------------------------------------------------
-- Halving
-----------------------------------------------------------------------------------------

/-- Enough halvings bring any length below a positive bound, and further ones keep it there. -/
theorem exists_halve_le [Archimedean K] (length_pos : 0 < length) {bound : K}
    (bound_pos : 0 < bound)
    : ∃ fewest, ∀ halvings ≥ fewest, halve halvings length ≤ bound := by
  obtain ⟨fewest, small⟩ :=
    exists_pow_lt_of_lt_one (div_pos bound_pos length_pos) (show (1 / 2 : K) < 1 by norm_num)
  refine ⟨fewest, fun halvings many => (halve_le many length_pos).trans ?_⟩
  rw [halve_eq, ← le_div_iff₀' length_pos]
  exact small.le

/-- Without a shortest step halving any length would come to improving ones, and to no others from
there on.
-/
theorem exists_decreasesMerit_halve [Archimedean K] (bounded : 0 < m) (interior : it.Interior)
    (sigma_nonneg : 0 ≤ sigma) (sigma_le : sigma ≤ 1 / 2)
    (found : prog.direction? it (prog.residuals it) (it.centeringTarget sigma) = some dir)
    (length_pos : 0 < length)
    : ∃ fewest, ∀ halvings ≥ fewest,
        prog.decreasesMerit it (prog.meritAt it) dir (halve halvings length) = true := by
  have room : 0 < 49 / 100 * prog.meritAt it :=
    mul_pos (by norm_num) (meritAt_pos bounded interior)
  -- A length is short enough for a full step and for the quadratic term, whatever its sign.
  have steep : 0 < max (dir.ds.get ⬝ᵥ dir.dz.get) 1 := lt_max_of_lt_right one_pos
  obtain ⟨fewest, short⟩ :=
    exists_halve_le length_pos (lt_min one_pos (div_pos room steep))
  refine ⟨fewest, fun halvings many => ?_⟩
  obtain ⟨le_one, below⟩ := le_min_iff.mp (short halvings many)
  have halved_pos := halve_pos halvings length_pos
  refine decreasesMerit_centering bounded interior sigma_nonneg sigma_le found halved_pos le_one ?_
  calc
    halve halvings length * (dir.ds.get ⬝ᵥ dir.dz.get)
        ≤ halve halvings length * max (dir.ds.get ⬝ᵥ dir.dz.get) 1 :=
      mul_le_mul_of_nonneg_left (le_max_left _ _) halved_pos.le
    _ ≤ 49 / 100 * prog.meritAt it := (le_div_iff₀ steep).mp below

/-- A length that is long enough has a last halving that is, less than twice the shortest step. -/
theorem exists_last_halve (long : minStep ≤ length) (le_one : length ≤ 1)
    : ∃ halvings, halve halvings length ∈ Set.Ico minStep (2 * minStep) := by
  by_contra endless
  push Not at endless
  have reached (halvings : Nat) : minStep ≤ halve halvings length := by
    induction halvings with
    | zero => exact long
    | succ halvings ih =>
        have twice : 2 * minStep ≤ halve halvings length :=
          not_lt.mp fun last => endless halvings ⟨ih, last⟩
        rw [halve_eq] at twice
        rw [halve_eq, pow_succ]
        linarith
  exact (reached maxTrials).not_gt (halve_lt_minStep le_rfl le_one)

/-- The merit falls sufficiently along a direction for all lengths up to a full step that are short
against its quadratic term, so that halving any length comes to improving ones and to no others
from there on.
-/
structure DescentDirection (prog : Program K n m p) (it : Iterate K n m p)
    (dir : Direction K n m p)
    : Prop where
  short
    : ∀ length, 0 < length → length ≤ 1 →
      length * (dir.ds.get ⬝ᵥ dir.dz.get) ≤ 49 / 100 * prog.meritAt it →
      prog.decreasesMerit it (prog.meritAt it) dir length = true
  halved
    : ∀ [Archimedean K] (length : K), 0 < length →
      ∃ fewest, ∀ halvings ≥ fewest,
        prog.decreasesMerit it (prog.meritAt it) dir (halve halvings length) = true

theorem descentDirection_centering (bounded : 0 < m) (interior : it.Interior)
    (sigma_nonneg : 0 ≤ sigma) (sigma_le : sigma ≤ 1 / 2)
    (found : prog.direction? it (prog.residuals it) (it.centeringTarget sigma) = some dir)
    : prog.DescentDirection it dir where
  short _ := decreasesMerit_centering bounded interior sigma_nonneg sigma_le found
  halved _ := exists_decreasesMerit_halve bounded interior sigma_nonneg sigma_le found

-----------------------------------------------------------------------------------------
-- Stalls
-----------------------------------------------------------------------------------------

variable {fraction : K} {r : Record K n m p}

/-- Why a move stalls: the part of the way to the boundary is too short along the direction in use,
the corrected or the damped one, or the damped direction has a large quadratic term.
-/
inductive StallCause (prog : Program K n m p) (fraction : K) (r : Record K n m p) : Prop
  | corrected {affine dir : Direction K n m p} (found : prog.Corrected r affine dir)
      (improving : prog.improves r dir (firstLength fraction r dir))
      (short : firstLength fraction r dir < 1 / 10 ^ 14)
  | damped {dir : Direction K n m p} (found : prog.Damped fraction r dir)
      (short : firstLength fraction r dir < 1 / 10 ^ 14)
  | curved {dir : Direction K n m p} (found : prog.Damped fraction r dir)
      (steep
        : 49 / 100 * prog.meritAt r.iterate < 2 / 10 ^ 14 * (dir.ds.get ⬝ᵥ dir.dz.get))

omit [IsStrictOrderedRing K] in
theorem minCentering_eq : (minCentering : K) = 1 / 10 := by
  simp [minCentering, Scalar.ratio_eq_div]

omit [IsStrictOrderedRing K] in
theorem maxCentering_eq : (maxCentering : K) = 1 / 2 := by
  simp [maxCentering, Scalar.ratio_eq_div]

/-- A damped direction centers by a tenth up to one half. -/
theorem Damped.exists_centering (found : prog.Damped fraction r dir)
    (recorded : r = prog.record r.index r.step r.iterate)
    : ∃ sigma ∈ Set.Icc (1 / 10 : K) (1 / 2),
        prog.direction? r.iterate (prog.residuals r.iterate) (r.iterate.centeringTarget sigma)
          = some dir := by
  cases found with
  | @found affine refused dir corrected refusal damped =>
      have ordered : (minCentering : K) ≤ maxCentering := by
        rw [minCentering_eq, maxCentering_eq]
        norm_num
      have clamped := Scalar.clamp_mem_Icc (centering r.iterate affine (meanGap m r.gap)) ordered
      rw [minCentering_eq, maxCentering_eq] at clamped
      refine ⟨_, clamped, ?_⟩
      rw [dampedDirection?, minCentering_eq, maxCentering_eq] at damped
      rw [recorded] at damped ⊢
      exact damped

/-- A refused length along a damped direction has a large quadratic term. -/
theorem Damped.steep_of_refused (found : prog.Damped fraction r dir) (bounded : 0 < m)
    (recorded : r = prog.record r.index r.step r.iterate) (interior : r.iterate.Interior)
    (length_pos : 0 < length) (length_le_one : length ≤ 1)
    (refused : ¬prog.improves r dir length)
    : 49 / 100 * prog.meritAt r.iterate < length * (dir.ds.get ⬝ᵥ dir.dz.get) := by
  obtain ⟨sigma, ⟨sigma_ge, sigma_le⟩, centered⟩ := found.exists_centering recorded
  refine not_le.mp fun small => refused ?_
  have improving := decreasesMerit_centering bounded interior (by linarith) sigma_le centered
    length_pos length_le_one small
  rw [recorded]
  exact improving

/-- A stalled move has a cause. A first length along the damped direction that is long enough has a
last halving that is, which was refused for its quadratic term.
-/
theorem stallCause_of_stalled (recorded : r = prog.record r.index r.step r.iterate)
    (interior : r.iterate.Interior) (stalled : prog.move fraction r = .stalled)
    : prog.StallCause fraction r := by
  have searches := prog.move_searches fraction r
  rw [stalled] at searches
  cases searches with
  | short bounded found improving short =>
      rw [minStep_eq] at short
      exact .corrected found improving short
  | @exhausted dir bounded found searched =>
      by_cases long : minStep ≤ firstLength fraction r dir
      case neg =>
        rw [minStep_eq, not_le] at long
        exact .damped found long
      obtain ⟨halvings, halved_long, last⟩ := exists_last_halve long firstLength_le_one
      have halved_pos := minStep_pos.trans_le halved_long
      have halved_le_one : halve halvings (firstLength fraction r dir) ≤ 1 :=
        (halve_le (Nat.zero_le _) (minStep_pos.trans_le long)).trans firstLength_le_one
      have refused : ¬prog.improves r dir (halve halvings (firstLength fraction r dir)) :=
        fun improving => not_acceptable_of_stalled stalled (.damped found halvings)
          ⟨halved_long, improving⟩
      have steep :=
        found.steep_of_refused bounded recorded interior halved_pos halved_le_one refused
      have room : 0 < 49 / 100 * prog.meritAt r.iterate :=
        mul_pos (by norm_num) (meritAt_pos bounded interior)
      have rising := pos_of_mul_pos_right (room.trans steep) halved_pos.le
      refine .curved found (steep.trans ?_)
      rw [minStep_eq] at last
      have longest := mul_lt_mul_of_pos_right last rising
      linarith

end Program

namespace InteriorPoint

/-- A centering direction from an interior point is a descent direction, for any centering by a
tenth up to one half; a numerical error is reported only for a point at which the move has stalled
for a cause.
-/
theorem stalls_have_causes
    : (∀ {n m p : Nat} {prog : Program K n m p} {it : Iterate K n m p} {dir : Direction K n m p}
          {sigma : K},
        0 < m → it.Interior → sigma ∈ Set.Icc (1 / 10) (1 / 2) →
        prog.direction? it (prog.residuals it) (it.centeringTarget sigma) = some dir →
        prog.DescentDirection it dir)
      ∧ ∀ [NumberText K] {settings : Settings K} {options : Options K} {inst : Instance K}
          {solution : Solution K},
        0 < settings.stepFraction → settings.stepFraction < 1 →
        solve settings options inst = .ok solution → solution.status = .numericalError →
        ∃ run shaped, start? settings options inst = .ok run ∧ run.Reports solution
          ∧ (inst.toProgram shaped).StallCause settings.stepFraction run.last := by
  constructor
  · rintro n m p prog it dir sigma bounded interior ⟨sigma_ge, sigma_le⟩ found
    exact Program.descentDirection_centering bounded interior (by linarith) sigma_le found
  · intro _ settings options inst solution fraction_pos fraction_lt_one solved status
    obtain ⟨run, started, -⟩ := solve_eq_ok solved
    obtain ⟨shaped, it, begun, traces⟩ := start?_eq_ok started
    obtain ⟨reports, stalled⟩ := stalled_of_numericalError started shaped solved status
    refine ⟨run, shaped, started, reports, ?_⟩
    exact Program.stallCause_of_stalled (traces.recorded run.last_mem_records)
      (traces.interior fraction_pos fraction_lt_one (Program.interior_start begun)
        run.last_mem_records)
      stalled

/-- From the origin on the edge the merit falls by its part along a full centering step, whose
quadratic term is small. On the parabola a run that may take almost no part of the way to the
boundary stalls for a cause.
-/
theorem edgeOrigin_descends
    : (∃ dir,
        Program.edge.direction? Program.edgeOrigin (Program.edge.residuals Program.edgeOrigin)
            (Program.edgeOrigin.centeringTarget (3 / 10))
          = some dir
        ∧ Program.edge.decreasesMerit Program.edgeOrigin (Program.edge.meritAt Program.edgeOrigin)
            dir 1
          = true)
      ∧ ∃ solution run shaped,
        solve ⟨100, 1 / 100, true, 1 / 10 ^ 20⟩ ⟨false, none, none⟩ Instance.parabola = .ok solution
          ∧ solution.status = .numericalError
          ∧ start? ⟨100, 1 / 100, true, 1 / 10 ^ 20⟩ ⟨false, none, none⟩ Instance.parabola = .ok run
          ∧ run.Reports solution
          ∧ (Instance.parabola.toProgram shaped).StallCause (1 / 10 ^ 20) run.last := by
  constructor
  · have interior : Program.edgeOrigin.Interior := ⟨by decide +kernel, by decide +kernel⟩
    obtain ⟨dir, found, read⟩ := Option.map_eq_some_iff.mp
      (show (Program.edge.direction? Program.edgeOrigin
            (Program.edge.residuals Program.edgeOrigin)
            (Program.edgeOrigin.centeringTarget (3 / 10))).map (fun dir => (dir.ds, dir.dz))
          = some (#v[-27 / 25], #v[-4 / 25]) by decide +kernel)
    obtain ⟨slack, dual⟩ := Prod.mk.inj read
    have product : dir.ds.get ⬝ᵥ dir.dz.get = 108 / 625 := by
      rw [slack, dual]
      decide +kernel
    have merit : Program.edge.meritAt Program.edgeOrigin = 4 := by decide +kernel
    refine ⟨dir, found, ?_⟩
    refine (stalls_have_causes.1 (by decide) interior (by norm_num) found).short 1 one_pos le_rfl ?_
    rw [product, merit]
    norm_num
  · obtain ⟨solution, solved, status⟩
        : ∃ solution,
            solve ⟨100, 1 / 100, true, 1 / 10 ^ 20⟩ ⟨false, none, none⟩ Instance.parabola
                = .ok solution
              ∧ solution.status = .numericalError :=
      ok_of_computed (by decide +kernel)
    obtain ⟨run, shaped, started, reports, cause⟩ :=
      stalls_have_causes.2 (by norm_num) (by norm_num) solved status
    exact ⟨solution, run, shaped, solved, status, started, reports, cause⟩

end InteriorPoint

end QuadraticTrials

import Mathlib
import QuadraticTrials.InteriorPoint.Iterate
import QuadraticTrials.Proofs.Exact.Dense

/-!
The boundary of a direction over an ordered field. It is the least zero crossing, and so the
greatest length along the direction that leaves no slack and no inequality dual negative.
-/

namespace QuadraticTrials

variable {K : Type} [Field K] [LinearOrder K] {n m p : Nat}

/-- Slacks and inequality duals are strictly positive. -/
structure Iterate.Interior (it : Iterate K n m p) : Prop where
  slack_pos : ∀ i, 0 < it.s.get i
  dual_pos : ∀ i, 0 < it.z.get i

/-- Slacks and inequality duals are not negative. -/
@[mk_iff]
structure Iterate.Nonneg (it : Iterate K n m p) : Prop where
  slack_nonneg : ∀ i, 0 ≤ it.s.get i
  dual_nonneg : ∀ i, 0 ≤ it.z.get i

-----------------------------------------------------------------------------------------
-- The least zero crossing
-----------------------------------------------------------------------------------------

namespace Direction

/-- The zero crossings are the quotients at the falling entries, place by place. -/
theorem mem_zeroCrossings {v dv : Vector K m} {crossing : K}
    : crossing ∈ zeroCrossings v dv ↔ ∃ i, dv.get i < 0 ∧ -v.get i / dv.get i = crossing := by
  simp only [zeroCrossings, List.mem_filterMap, Prod.exists, Option.ite_none_right_eq_some,
    Option.some.injEq]
  constructor
  · rintro ⟨value, change, member, falling, rfl⟩
    obtain ⟨i, hi, found⟩ := List.mem_iff_getElem.mp member
    rw [List.getElem_zip, Prod.mk.injEq] at found
    obtain ⟨rfl, rfl⟩ := found
    have inside : i < m := by simpa using hi
    exact ⟨⟨i, inside⟩, by simpa [Vec.get_eq_getElem] using falling,
      by simp [Vec.get_eq_getElem]⟩
  · rintro ⟨i, falling, rfl⟩
    refine ⟨v.get i, dv.get i, ?_, falling, rfl⟩
    refine List.mem_iff_getElem.mpr ⟨i, by simp, ?_⟩
    simp [Vec.get_eq_getElem]

/-- Tightening a limit by some lengths takes the least of all of them. -/
theorem foldl_tighten_some (limit : K) (lengths : List K)
    : lengths.foldl tighten (some limit) = some (lengths.foldl min limit) := by
  induction lengths generalizing limit with
  | nil => rfl
  | cons length rest ih => simpa [tighten] using ih (min limit length)

variable {dir : Direction K n m p} {it : Iterate K n m p} {limit length : K}

/-- The boundary is the least of all zero crossings. -/
theorem boundary_eq_min? (dir : Direction K n m p) (it : Iterate K n m p)
    : dir.boundary it = (zeroCrossings it.s dir.ds ++ zeroCrossings it.z dir.dz).min? := by
  unfold boundary
  cases zeroCrossings it.s dir.ds ++ zeroCrossings it.z dir.dz with
  | nil => rfl
  | cons first rest =>
      rw [List.min?_cons']
      simpa [tighten] using foldl_tighten_some first rest

/-- A boundary is the zero crossing of a slack or of an inequality dual. -/
theorem mem_of_boundary_eq_some (found : dir.boundary it = some limit)
    : limit ∈ zeroCrossings it.s dir.ds ∨ limit ∈ zeroCrossings it.z dir.dz := by
  rw [boundary_eq_min?, List.min?_eq_some_iff] at found
  exact List.mem_append.mp found.1

/-- A property that passes on to greater lengths holds of the boundary, if there is one, exactly
when it holds of every zero crossing.
-/
theorem forall_mem_boundary_iff {reached : K → Prop} (monotone : Monotone reached)
    : (∀ limit ∈ dir.boundary it, reached limit)
      ↔ (∀ crossing ∈ zeroCrossings it.s dir.ds, reached crossing)
        ∧ ∀ crossing ∈ zeroCrossings it.z dir.dz, reached crossing := by
  rw [← List.forall_mem_append, boundary_eq_min?]
  cases found : (zeroCrossings it.s dir.ds ++ zeroCrossings it.z dir.dz).min? with
  | none => simp [List.min?_eq_none_iff.mp found]
  | some least =>
      obtain ⟨member, below⟩ := List.min?_eq_some_iff.mp found
      constructor
      · intro reaches crossing crosses
        exact monotone (below crossing crosses) (reaches least rfl)
      · rintro reaches _ ⟨⟩
        exact reaches least member

end Direction

-----------------------------------------------------------------------------------------
-- Entries after a step
-----------------------------------------------------------------------------------------

/-- An entry after a step changes in proportion to the length. -/
theorem Vec.get_add_scale (v dv : Vector K m) (length : K) (i : Fin m)
    : (v + scale dv length).get i = v.get i + length * dv.get i := by
  simp

section Ordered

variable [IsStrictOrderedRing K]

namespace Direction

variable {v dv : Vector K m} {crossing length : K}

/-- A length below all zero crossings keeps positive entries positive, falling or not. -/
theorem advance_pos (positive : ∀ i, 0 < v.get i) (length_nonneg : 0 ≤ length)
    (below : ∀ crossing ∈ zeroCrossings v dv, length < crossing) (i : Fin m)
    : 0 < (v + Vec.scale dv length).get i := by
  rw [Vec.get_add_scale]
  rcases lt_or_ge (dv.get i) 0 with falling | rising
  · have crossing := below _ (mem_zeroCrossings.mpr ⟨i, falling, rfl⟩)
    rw [lt_div_iff_of_neg falling] at crossing
    linarith
  · have step := mul_nonneg length_nonneg rising
    linarith [positive i]

/-- A length leaves no entry negative exactly when it is up to all zero crossings: only falling
entries can become negative, and each does so beyond its crossing.
-/
theorem advance_nonneg_iff (nonneg : ∀ i, 0 ≤ v.get i) (length_nonneg : 0 ≤ length)
    : (∀ i, 0 ≤ (v + Vec.scale dv length).get i)
      ↔ ∀ crossing ∈ zeroCrossings v dv, length ≤ crossing := by
  simp only [Vec.get_add_scale]
  constructor
  · intro kept crossing member
    obtain ⟨i, falling, rfl⟩ := mem_zeroCrossings.mp member
    rw [le_div_iff_of_neg falling]
    linarith [kept i]
  · intro upTo i
    rcases lt_or_ge (dv.get i) 0 with falling | rising
    · have crossing := upTo _ (mem_zeroCrossings.mpr ⟨i, falling, rfl⟩)
      rw [le_div_iff_of_neg falling] at crossing
      linarith
    · have step := mul_nonneg length_nonneg rising
      linarith [nonneg i]

omit [IsStrictOrderedRing K] in
/-- At a zero crossing some entry becomes zero. -/
theorem exists_advance_eq_zero (member : crossing ∈ zeroCrossings v dv)
    : ∃ i, (v + Vec.scale dv crossing).get i = 0 := by
  obtain ⟨i, falling, rfl⟩ := mem_zeroCrossings.mp member
  refine ⟨i, ?_⟩
  rw [Vec.get_add_scale, div_mul_cancel₀ _ falling.ne, add_neg_cancel]

/-- The zero crossings of positive entries are positive. -/
theorem zeroCrossing_pos (positive : ∀ i, 0 < v.get i) (member : crossing ∈ zeroCrossings v dv)
    : 0 < crossing := by
  obtain ⟨i, falling, rfl⟩ := mem_zeroCrossings.mp member
  exact div_pos_of_neg_of_neg (neg_neg_of_pos (positive i)) falling

end Direction

/-- A length stays before the boundary of a direction. -/
structure Direction.Inside (dir : Direction K n m p) (it : Iterate K n m p) (length : K)
    : Prop where
  pos : 0 < length
  slack : ∀ crossing ∈ zeroCrossings it.s dir.ds, length < crossing
  dual : ∀ crossing ∈ zeroCrossings it.z dir.dz, length < crossing

/-- A step that stays before the boundary leads to an interior point. -/
theorem Iterate.Interior.advance {it : Iterate K n m p} (interior : it.Interior)
    {dir : Direction K n m p} {length : K} (inside : dir.Inside it length)
    : (it.advance dir length).Interior where
  slack_pos := Direction.advance_pos interior.slack_pos inside.pos.le inside.slack
  dual_pos := Direction.advance_pos interior.dual_pos inside.pos.le inside.dual

-----------------------------------------------------------------------------------------
-- Points along a direction
-----------------------------------------------------------------------------------------

namespace Direction

variable {dir : Direction K n m p} {it : Iterate K n m p} {limit length fraction : K}

/-- From an interior point every boundary is positive. -/
theorem boundary_pos (interior : it.Interior) (found : dir.boundary it = some limit)
    : 0 < limit := by
  rcases mem_of_boundary_eq_some found with slack | dual
  · exact zeroCrossing_pos interior.slack_pos slack
  · exact zeroCrossing_pos interior.dual_pos dual

/-- A step leaves no slack and no dual negative exactly when it ends no later than the boundary. -/
theorem nonneg_advance_iff (interior : it.Interior) (length_nonneg : 0 ≤ length)
    : (it.advance dir length).Nonneg ↔ ∀ limit ∈ dir.boundary it, length ≤ limit := by
  rw [Iterate.nonneg_iff, forall_mem_boundary_iff fun _ _ le upTo => upTo.trans le,
    ← advance_nonneg_iff (fun i => (interior.slack_pos i).le) length_nonneg,
    ← advance_nonneg_iff (fun i => (interior.dual_pos i).le) length_nonneg]
  rfl

omit [IsStrictOrderedRing K] in
/-- A step to the boundary makes a slack or a dual zero. -/
theorem exists_eq_zero_of_boundary (found : dir.boundary it = some limit)
    : (∃ i, (it.advance dir limit).s.get i = 0) ∨ ∃ i, (it.advance dir limit).z.get i = 0 := by
  rcases mem_of_boundary_eq_some found with slack | dual
  · exact .inl (exists_advance_eq_zero slack)
  · exact .inr (exists_advance_eq_zero dual)

/-- A fraction of the way to the boundary, within one, ends before the boundary. -/
theorem lt_boundary_of_le_fractionLength (interior : it.Interior) (fraction_lt_one : fraction < 1)
    (le : length ≤ fractionLength fraction (dir.boundary it))
    : ∀ limit ∈ dir.boundary it, length < limit := by
  intro limit found
  rw [found] at le
  calc
    length ≤ min (fraction * limit) 1 := by simpa [fractionLength] using le
    _ ≤ fraction * limit := min_le_left _ _
    _ < limit := mul_lt_of_lt_one_left (boundary_pos interior found) fraction_lt_one

/-- A positive fraction of the way to the boundary is a positive length. -/
theorem fractionLength_pos (interior : it.Interior) (fraction_pos : 0 < fraction)
    : 0 < fractionLength fraction (dir.boundary it) := by
  cases found : dir.boundary it with
  | none =>
      rw [fractionLength, if_neg fraction_pos.le.not_gt]
      exact one_pos
  | some limit =>
      rw [fractionLength, Scalar.min_eq_min]
      exact lt_min (mul_pos fraction_pos (boundary_pos interior found)) one_pos

/-- A step that ends before the boundary leads to an interior point. -/
theorem interior_advance_of_lt (interior : it.Interior) (length_nonneg : 0 ≤ length)
    (before : ∀ limit ∈ dir.boundary it, length < limit)
    : (it.advance dir length).Interior := by
  rw [forall_mem_boundary_iff fun _ _ le before => before.trans_le le] at before
  obtain ⟨slack, dual⟩ := before
  exact ⟨advance_pos interior.slack_pos length_nonneg slack,
    advance_pos interior.dual_pos length_nonneg dual⟩

-----------------------------------------------------------------------------------------
-- The greatest step
-----------------------------------------------------------------------------------------

/-- What a limit on the steps along a direction promises at a point, where the limit may be absent
and then allows every length.
-/
structure ExactLimit (dir : Direction K n m p) (it : Iterate K n m p) (limit : Option K)
    : Prop where
  /-- Slacks and duals stay nonnegative up to the limit and no further. -/
  nonneg_iff
    : ∀ length,
        0 ≤ length →
        ((it.advance dir length).Nonneg ↔ ∀ greatest ∈ limit, length ≤ greatest)
  pos : ∀ greatest ∈ limit, 0 < greatest
  /-- At the limit some slack or some dual vanishes. -/
  vanishes
    : ∀ greatest ∈ limit,
        (∃ i, (it.advance dir greatest).s.get i = 0)
          ∨ ∃ i, (it.advance dir greatest).z.get i = 0
  /-- Slacks and duals stay positive on a fraction of the way, within one. -/
  interior
    : ∀ fraction length,
        0 < fraction → fraction < 1 → 0 ≤ length → length ≤ fractionLength fraction limit →
        (it.advance dir length).Interior

omit [IsStrictOrderedRing K] in
/-- A greatest step can be taken under every other exact limit. -/
theorem ExactLimit.le_of_mem {left right : Option K} (exactLeft : dir.ExactLimit it left)
    (exactRight : dir.ExactLimit it right) {greatest : K} (found : greatest ∈ left)
    : ∀ other ∈ right, greatest ≤ other := by
  have nonneg := (exactLeft.pos greatest found).le
  apply (exactRight.nonneg_iff greatest nonneg).mp
  apply (exactLeft.nonneg_iff greatest nonneg).mpr
  intro other same
  exact (Option.mem_unique found same).le

/-- Where steps of every length can be taken no exact limit is present. -/
theorem ExactLimit.eq_none (free : dir.ExactLimit it none) {limit : Option K}
    (limited : dir.ExactLimit it limit)
    : limit = none := by
  cases limit with
  | none => rfl
  | some greatest =>
      have further : 0 ≤ greatest + 1 := by linarith [limited.pos greatest rfl]
      have allowed := (free.nonneg_iff _ further).mpr (by simp)
      have within := (limited.nonneg_iff _ further).mp allowed greatest rfl
      linarith

/-- A point and a direction have at most one exact limit. -/
theorem ExactLimit.unique {left right : Option K} (exactLeft : dir.ExactLimit it left)
    (exactRight : dir.ExactLimit it right)
    : left = right := by
  cases left with
  | none => exact (exactLeft.eq_none exactRight).symm
  | some least =>
      cases right with
      | none => exact exactRight.eq_none exactLeft
      | some other =>
          have le := exactLeft.le_of_mem exactRight rfl other rfl
          have ge := exactRight.le_of_mem exactLeft rfl least rfl
          rw [le_antisymm le ge]

/-- From an interior point the boundary of a direction is its exact limit, and the only one. -/
theorem boundary_is_exact (dir : Direction K n m p) (interior : it.Interior)
    : dir.ExactLimit it (dir.boundary it)
      ∧ ∀ limit, dir.ExactLimit it limit → limit = dir.boundary it := by
  have limited : dir.ExactLimit it (dir.boundary it) := by
    constructor
    case nonneg_iff =>
      intro length length_nonneg
      exact nonneg_advance_iff interior length_nonneg
    case pos =>
      intro greatest found
      exact boundary_pos interior found
    case vanishes =>
      intro greatest found
      exact exists_eq_zero_of_boundary found
    case interior =>
      intro fraction length fraction_pos fraction_lt_one length_nonneg le
      apply interior_advance_of_lt interior length_nonneg
      exact lt_boundary_of_le_fractionLength interior fraction_lt_one le
  exact ⟨limited, fun limit other => other.unique limited⟩

/-- A point with the slacks one and two, and inequality duals of one. -/
def unequalSlacks : Iterate ℚ 1 2 0 :=
  ⟨.replicate 1 0, #v[1, 2], .replicate 2 1, Vec.empty⟩

/-- A direction in which one slack and both duals fall. -/
def falling : Direction ℚ 1 2 0 :=
  ⟨.replicate 1 0, #v[-2, 1], #v[-1, -3], Vec.empty⟩

/-- A direction in which both slacks rise and both duals stay. -/
def rising : Direction ℚ 1 2 0 :=
  ⟨.replicate 1 0, .replicate 2 1, .replicate 2 0, Vec.empty⟩

/-- After a third of the falling direction the second dual is the first to reach zero. A step of
that length leaves nothing negative, a step of two fifths does, and nine tenths of the way keep
everything positive. Along the rising direction a step of a hundred can be taken.
-/
theorem boundary_is_exact_third
    : unequalSlacks.Interior
      ∧ falling.boundary unequalSlacks = some (1 / 3)
      ∧ (unequalSlacks.advance falling (1 / 3)).Nonneg
      ∧ ((∃ i, (unequalSlacks.advance falling (1 / 3)).s.get i = 0)
        ∨ ∃ i, (unequalSlacks.advance falling (1 / 3)).z.get i = 0)
      ∧ ¬(unequalSlacks.advance falling (2 / 5)).Nonneg
      ∧ (unequalSlacks.advance falling (3 / 10)).Interior
      ∧ rising.boundary unequalSlacks = none
      ∧ (unequalSlacks.advance rising 100).Nonneg := by
  have interior : unequalSlacks.Interior := ⟨by decide +kernel, by decide +kernel⟩
  have third : falling.boundary unequalSlacks = some (1 / 3) := by decide +kernel
  have free : rising.boundary unequalSlacks = none := by decide +kernel
  have limited := (boundary_is_exact falling interior).1
  have unlimited := (boundary_is_exact rising interior).1
  rw [third] at limited
  rw [free] at unlimited
  refine ⟨interior, third, ?nonneg, limited.vanishes _ rfl, ?negative, ?interior, free, ?far⟩
  case nonneg =>
    apply (limited.nonneg_iff (1 / 3) (by norm_num)).mpr
    rintro greatest ⟨⟩
    exact le_rfl
  case negative =>
    intro nonneg
    have within := (limited.nonneg_iff (2 / 5) (by norm_num)).mp nonneg (1 / 3) rfl
    norm_num at within
  case interior =>
    apply limited.interior (9 / 10) (3 / 10) (by norm_num) (by norm_num) (by norm_num)
    decide +kernel
  case far =>
    apply (unlimited.nonneg_iff 100 (by norm_num)).mpr
    rintro greatest ⟨⟩

end Direction

end Ordered

end QuadraticTrials

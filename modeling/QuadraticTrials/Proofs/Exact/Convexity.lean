import Mathlib
import QuadraticTrials.Proofs.InteriorPoint.Certificate

/-!
Strictly convex costs. They are bounded below, have at most one minimizer under any constraints, and
make the saddle point systems of independent equality rows nonsingular.
-/

namespace QuadraticTrials

open Matrix

-----------------------------------------------------------------------------------------
-- Saddle point matrices
-----------------------------------------------------------------------------------------

section Saddle

variable {K : Type} [Field K] [LinearOrder K]

/-- A matrix whose quadratic form is positive away from the origin. -/
def Definite {n : Type} [Fintype n] (H : Matrix n n K) : Prop :=
  ∀ v ≠ 0, 0 < v ⬝ᵥ H *ᵥ v

variable {m n p : Type} [Fintype m] [Fintype n] [Fintype p]

/-- The squared length is positive away from the origin. -/
theorem dotProduct_self_pos [IsStrictOrderedRing K] {v : n → K} (nonzero : v ≠ 0) : 0 < v ⬝ᵥ v := by
  refine lt_of_le_of_ne (Finset.sum_nonneg fun i _ => mul_self_nonneg (v i)) fun zero => ?_
  exact nonzero (dotProduct_self_eq_zero.mp zero.symm)

namespace Definite

theorem one [IsStrictOrderedRing K] [DecidableEq n] : Definite (1 : Matrix n n K) := by
  intro v nonzero
  rw [one_mulVec]
  exact dotProduct_self_pos nonzero

theorem eq_zero {H : Matrix n n K} (definite : Definite H) {v : n → K} (zero : v ⬝ᵥ H *ᵥ v = 0)
    : v = 0 := by
  by_contra nonzero
  exact (definite v nonzero).ne' zero

theorem det_ne_zero [DecidableEq n] {H : Matrix n n K} (definite : Definite H) : H.det ≠ 0 := by
  intro singular
  obtain ⟨v, nonzero, vanishes⟩ := exists_mulVec_eq_zero_iff.mpr singular
  refine nonzero (definite.eq_zero ?_)
  rw [vanishes, dotProduct_zero]

/-- Rows with weights that are not negative keep a quadratic form positive. -/
theorem add_weighted [IsStrictOrderedRing K] [DecidableEq m] {H : Matrix n n K}
    (definite : Definite H) (G : Matrix m n K) {d : m → K} (nonneg : ∀ i, 0 ≤ d i)
    : Definite (H + Gᵀ * (diagonal d * G)) := by
  intro v nonzero
  have weighted : v ⬝ᵥ (Gᵀ * (diagonal d * G)) *ᵥ v = ∑ i, d i * ((G *ᵥ v) i * (G *ᵥ v) i) := by
    rw [← mulVec_mulVec, dotProduct_mulVec, vecMul_transpose, ← mulVec_mulVec, dotProduct]
    exact Finset.sum_congr rfl fun i _ => by rw [mulVec_diagonal, mul_left_comm]
  have rest : 0 ≤ v ⬝ᵥ (Gᵀ * (diagonal d * G)) *ᵥ v := by
    rw [weighted]
    exact Finset.sum_nonneg fun i _ => mul_nonneg (nonneg i) (mul_self_nonneg _)
  rw [add_mulVec, dotProduct_add]
  exact add_pos_of_pos_of_nonneg (definite v nonzero) rest

/-- A positive form and independent rows make a nonsingular saddle point matrix: on a vector that it
sends to zero, the form vanishes, and then so does the combination of the rows.
-/
theorem det_saddle_ne_zero [DecidableEq n] [DecidableEq p] {H : Matrix n n K}
    (definite : Definite H) {A : Matrix p n K} (independent : LinearIndependent K A.row)
    : (fromBlocks H Aᵀ A 0).det ≠ 0 := by
  intro singular
  obtain ⟨both, nonzero, vanishes⟩ := exists_mulVec_eq_zero_iff.mpr singular
  let v := both ∘ Sum.inl
  let w := both ∘ Sum.inr
  rw [fromBlocks_mulVec, zero_mulVec, add_zero] at vanishes
  have top : H *ᵥ v + Aᵀ *ᵥ w = 0 := funext fun i => congrFun vanishes (.inl i)
  have bottom : A *ᵥ v = 0 := funext fun i => congrFun vanishes (.inr i)
  have form : v ⬝ᵥ H *ᵥ v = 0 := by
    have across : v ⬝ᵥ Aᵀ *ᵥ w = 0 := by
      rw [dotProduct_mulVec, vecMul_transpose, bottom, zero_dotProduct]
    have whole := congrArg (v ⬝ᵥ ·) top
    simpa only [dotProduct_add, across, add_zero, dotProduct_zero] using whole
  have first : v = 0 := definite.eq_zero form
  rw [first, mulVec_zero, zero_add, mulVec_transpose] at top
  have second : w = 0 := vecMul_injective_iff.mpr independent (top.trans (zero_vecMul A).symm)
  refine nonzero (funext fun i => ?_)
  cases i with
  | inl i => exact congrFun first i
  | inr i => exact congrFun second i

end Definite

end Saddle

-----------------------------------------------------------------------------------------
-- Strictly convex instances
-----------------------------------------------------------------------------------------

namespace Instance

variable {K : Type} [Field K] [LinearOrder K] {inst : Instance K}

/-- The quadratic cost is symmetric and positive away from the origin. -/
structure StrictlyConvexCost (inst : Instance K) : Prop where
  symmetric : inst.costMatrix.IsSymm
  definite : Definite inst.costMatrix

/-- No feasible point costs less than a feasible point. -/
structure Minimizes (inst : Instance K) (x : Fin inst.numVars → K) : Prop where
  feasible : inst.Feasible x
  least : ∀ x', inst.Feasible x' → inst.value x ≤ inst.value x'

variable [IsStrictOrderedRing K]

/-- A point halfway between feasible points is feasible. -/
theorem Feasible.midpoint {x d : Fin inst.numVars → K} (first : inst.Feasible x)
    (second : inst.Feasible (x + d))
    : inst.Feasible (x + (1 / 2 : K) • d) := by
  constructor
  · intro i
    have near := first.inequality i
    have far := second.inequality i
    rw [mulVec_add, Pi.add_apply] at far
    rw [mulVec_add, mulVec_smul, Pi.add_apply, Pi.smul_apply, smul_eq_mul]
    linarith
  · have far := second.equality
    rw [mulVec_add, first.equality, add_eq_left] at far
    rw [mulVec_add, mulVec_smul, far, smul_zero, add_zero, first.equality]

namespace StrictlyConvexCost

variable (convex : inst.StrictlyConvexCost)

include convex

/-- A strictly convex cost is least where its slope vanishes. -/
theorem exists_le_value : ∃ bound, ∀ x, bound ≤ inst.value x := by
  have unit : IsUnit inst.costMatrix.det := convex.definite.det_ne_zero.isUnit
  let center := -(inst.costMatrix⁻¹ *ᵥ inst.costVector)
  have flat : inst.costMatrix *ᵥ center + inst.costVector = 0 := by
    rw [mulVec_neg, mulVec_mulVec, mul_nonsing_inv _ unit, one_mulVec, neg_add_cancel]
  refine ⟨inst.value center, fun x => ?_⟩
  have expanded := value_add convex.symmetric center (x - center)
  rw [add_sub_cancel, flat, zero_dotProduct, add_zero] at expanded
  have quadratic : 0 ≤ (x - center) ⬝ᵥ inst.costMatrix *ᵥ (x - center) := by
    by_cases same : x - center = 0
    · rw [same, zero_dotProduct]
    · exact (convex.definite _ same).le
  linarith

/-- Two minimizers are one: halfway between different ones the cost would be less. -/
theorem eq_of_minimizes {x x' : Fin inst.numVars → K} (first : inst.Minimizes x)
    (second : inst.Minimizes x')
    : x = x' := by
  by_contra different
  obtain ⟨d, rfl⟩ : ∃ d, x' = x + d := ⟨x' - x, (add_sub_cancel x x').symm⟩
  have nonzero : d ≠ 0 := by
    rintro rfl
    exact different (add_zero x).symm
  have positive := convex.definite d nonzero
  have same := (first.least _ second.feasible).antisymm (second.least _ first.feasible)
  have halfway := first.least _ (first.feasible.midpoint second.feasible)
  rw [value_add convex.symmetric] at same halfway
  rw [dotProduct_smul, mulVec_smul, dotProduct_smul, smul_dotProduct, smul_eq_mul, smul_eq_mul,
    smul_eq_mul] at halfway
  linarith

end StrictlyConvexCost

end Instance

end QuadraticTrials

import Mathlib
import QuadraticTrials.Proofs.Exact.Convexity

/-!
Quadratic forms and eigenvalues over any ordered field. A symmetric matrix whose characteristic
polynomial is a product of linear factors has a form that is at least the least root times the
squared length; no field needs square roots for this.
-/

namespace QuadraticTrials

open Matrix Polynomial

variable {K : Type} [Field K] {n : Type} [Fintype n] {A : Matrix n n K}

theorem mulVec_dotProduct (symmetric : A.IsSymm) (u v : n → K) : A *ᵥ u ⬝ᵥ v = u ⬝ᵥ A *ᵥ v := by
  rw [dotProduct_mulVec, ← mulVec_transpose, symmetric.eq]

variable [DecidableEq n]

-----------------------------------------------------------------------------------------
-- Polynomials of a matrix
-----------------------------------------------------------------------------------------

/-- Polynomials of a symmetric matrix are symmetric, by induction on the polynomial. -/
theorem isSymm_aeval (symmetric : A.IsSymm) (r : K[X]) : (aeval A r).IsSymm := by
  induction r using Polynomial.induction_on' with
  | add r s first second =>
      rw [map_add]
      exact first.add second
  | monomial k a =>
      rw [aeval_monomial, ← Algebra.smul_def]
      exact (symmetric.pow k).smul a

theorem aeval_C_mulVec (l : K) (x : n → K) : aeval A (C l) *ᵥ x = l • x := by
  rw [aeval_C, Algebra.algebraMap_eq_smul_one, smul_mulVec, one_mulVec]

theorem aeval_X_sub_C_mulVec (l : K) (x : n → K) : aeval A (X - C l) *ᵥ x = A *ᵥ x - l • x := by
  rw [map_sub, aeval_X, sub_mulVec, aeval_C_mulVec]

/-- On an eigenvector a polynomial of a matrix is its value at the eigenvalue, since it leaves that
remainder by the linear factor.
-/
theorem aeval_mulVec_of_eigen {l : K} {u : n → K} (eigen : A *ᵥ u = l • u) (r : K[X])
    : aeval A r *ᵥ u = r.eval l • u := by
  obtain ⟨s, split⟩ := X_sub_C_dvd_sub_C_eval (a := l) (p := r)
  have vanishes : aeval A (r - C (r.eval l)) *ᵥ u = 0 := by
    rw [split, mul_comm, map_mul, ← mulVec_mulVec, aeval_X_sub_C_mulVec, eigen, sub_self,
      mulVec_zero]
  rw [map_sub, sub_mulVec, aeval_C_mulVec] at vanishes
  exact sub_eq_zero.mp vanishes

/-- A vector that a linear factor and a further polynomial annihilate together is the sum of an
eigenvector and an orthogonal vector that the further one annihilates, if that does not vanish at
the root.
-/
theorem exists_orthogonal_parts (symmetric : A.IsSymm) {l : K} {r : K[X]} (apart : r.eval l ≠ 0)
    {x : n → K} (annihilated : aeval A (X - C l) *ᵥ aeval A r *ᵥ x = 0)
    : ∃ u v, x = u + v ∧ A *ᵥ u = l • u ∧ aeval A r *ᵥ v = 0 ∧ u ⬝ᵥ v = 0 := by
  rw [aeval_X_sub_C_mulVec, sub_eq_zero] at annihilated
  obtain ⟨u, scaled⟩ : ∃ u, u = (r.eval l)⁻¹ • aeval A r *ᵥ x := ⟨_, rfl⟩
  have along : A *ᵥ u = l • u := by rw [scaled, mulVec_smul, annihilated, smul_comm]
  have rest : aeval A r *ᵥ (x - u) = 0 := by
    rw [mulVec_sub, aeval_mulVec_of_eigen along, scaled, smul_inv_smul₀ apart, sub_self]
  refine ⟨u, x - u, (add_sub_cancel u x).symm, along, rest, ?_⟩
  have moved := mulVec_dotProduct (isSymm_aeval symmetric r) u (x - u)
  rw [rest, dotProduct_zero, aeval_mulVec_of_eigen along, smul_dotProduct] at moved
  exact (smul_eq_zero.mp moved).resolve_left apart

-----------------------------------------------------------------------------------------
-- The least root bounds the form
-----------------------------------------------------------------------------------------

variable [LinearOrder K] [IsStrictOrderedRing K]

/-- A repeated linear factor of a symmetric matrix annihilates no more than a single one. -/
theorem eigen_of_repeated (symmetric : A.IsSymm) {l : K} {x : n → K}
    (twice : aeval A (X - C l) *ᵥ aeval A (X - C l) *ᵥ x = 0)
    : aeval A (X - C l) *ᵥ x = 0 := by
  rw [← dotProduct_self_eq_zero, mulVec_dotProduct (isSymm_aeval symmetric _), twice,
    dotProduct_zero]

/-- On vectors that a product of linear factors annihilates, the form is at least a common lower
bound of the roots times the squared length, by induction on the factors.
-/
theorem mul_dotProduct_le (symmetric : A.IsSymm) {c : K} {roots : List K}
    (least : ∀ l ∈ roots, c ≤ l) (x : n → K)
    (annihilated : aeval A (roots.map (X - C ·)).prod *ᵥ x = 0)
    : c * (x ⬝ᵥ x) ≤ x ⬝ᵥ A *ᵥ x := by
  induction roots generalizing x with
  | nil =>
      rw [List.map_nil, List.prod_nil, map_one, one_mulVec] at annihilated
      simp [annihilated]
  | cons l roots ih =>
      rw [List.forall_mem_cons] at least
      rw [List.map_cons, List.prod_cons, map_mul, ← mulVec_mulVec] at annihilated
      replace ih := ih least.2
      generalize (roots.map (X - C ·)).prod = r at ih annihilated
      by_cases root : r.eval l = 0
      · -- The first root occurs again, so that the other factors annihilate the vector already.
        obtain ⟨s, rfl⟩ := dvd_iff_isRoot.mpr root
        refine ih x ?_
        rw [map_mul, ← mulVec_mulVec] at annihilated ⊢
        exact eigen_of_repeated symmetric annihilated
      · obtain ⟨u, v, rfl, along, rest, orthogonal⟩ :=
          exists_orthogonal_parts symmetric root annihilated
        have across : u ⬝ᵥ A *ᵥ v = 0 := by
          rw [← mulVec_dotProduct symmetric, along, smul_dotProduct, orthogonal, smul_zero]
        have form : (u + v) ⬝ᵥ A *ᵥ (u + v) = l * (u ⬝ᵥ u) + v ⬝ᵥ A *ᵥ v := by
          simp only [mulVec_add, dotProduct_add, add_dotProduct, along, dotProduct_smul,
            dotProduct_comm v u, orthogonal, across, smul_eq_mul, add_zero, zero_add]
        have square : (u + v) ⬝ᵥ (u + v) = u ⬝ᵥ u + v ⬝ᵥ v := by
          simp only [dotProduct_add, add_dotProduct, dotProduct_comm v u, orthogonal, add_zero,
            zero_add]
        have length : 0 ≤ u ⬝ᵥ u := Finset.sum_nonneg fun i _ => mul_self_nonneg (u i)
        calc
          c * ((u + v) ⬝ᵥ (u + v)) = c * (u ⬝ᵥ u) + c * (v ⬝ᵥ v) := by rw [square, mul_add]
          _ ≤ l * (u ⬝ᵥ u) + v ⬝ᵥ A *ᵥ v :=
            add_le_add (mul_le_mul_of_nonneg_right least.1 length) (ih v rest)
          _ = (u + v) ⬝ᵥ A *ᵥ (u + v) := form.symm

/-- The form of a symmetric matrix is at least any lower bound of its eigenvalues times the squared
length, since its characteristic polynomial annihilates every vector.
-/
theorem mul_dotProduct_le_of_charpoly (symmetric : A.IsSymm) {roots : List K}
    (factored : A.charpoly = (roots.map (X - C ·)).prod) {c : K} (least : ∀ l ∈ roots, c ≤ l)
    (x : n → K)
    : c * (x ⬝ᵥ x) ≤ x ⬝ᵥ A *ᵥ x := by
  refine mul_dotProduct_le symmetric least x ?_
  rw [← factored, aeval_self_charpoly, zero_mulVec]

/-- The roots of a definite matrix are positive, by its form on their eigenvectors. -/
theorem Definite.root_pos (definite : Definite A) {l : K} (root : IsRoot A.charpoly l)
    : 0 < l := by
  rw [IsRoot.def, eval_charpoly] at root
  obtain ⟨v, nonzero, vanishes⟩ := exists_mulVec_eq_zero_iff.mpr root
  have eigen : A *ᵥ v = l • v := by
    rw [sub_mulVec, sub_eq_zero, scalar_apply, diagonal_const_mulVec] at vanishes
    exact vanishes.symm
  have form := definite v nonzero
  rw [eigen, dotProduct_smul, smul_eq_mul] at form
  exact pos_of_mul_pos_left form (dotProduct_self_pos nonzero).le

end QuadraticTrials

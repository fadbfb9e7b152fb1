import Mathlib
import QuadraticTrials.FloatSpectrum
import QuadraticTrials.Proofs.Exact.Rayleigh
import QuadraticTrials.Proofs.Generator.Spectrum

/-!
What the test for positive definiteness certifies. It reads eigenvalues off the lower triangle and
compares the two triangles up to a tolerance, so that the form of an accepted matrix is positive
unless the triangles differ by more than the least eigenvalue makes up for.
-/

namespace QuadraticTrials

open Matrix Polynomial

-----------------------------------------------------------------------------------------
-- Lower triangles
-----------------------------------------------------------------------------------------

namespace Dense

variable {α : Type} {n : Nat}

/-- The symmetric matrix with the lower triangle of stored rows. -/
def mirrored (a : Dense α n n) : Matrix (Fin n) (Fin n) α :=
  Matrix.of fun i j => a.toMatrix (max i j) (min i j)

theorem isSymm_mirrored (a : Dense α n n) : a.mirrored.IsSymm := by
  ext i j
  rw [transpose_apply, mirrored, of_apply, of_apply, max_comm, min_comm]

/-- A symmetric matrix is given by its lower triangle. -/
theorem mirrored_of_isSymm {a : Dense α n n} (symmetric : a.toMatrix.IsSymm)
    : a.mirrored = a.toMatrix := by
  ext i j
  rw [mirrored, of_apply]
  rcases le_total i j with upper | lower
  · rw [max_eq_right upper, min_eq_left upper, symmetric.apply]
  · rw [max_eq_left lower, min_eq_right lower]

end Dense

/-- The eigenvalues of any square matrix are the true ones of the symmetric matrix with its lower
triangle.
-/
class SymmetricSpectrum.Triangular (K : Type) [Field K] [SymmetricSpectrum K] : Prop where
  charpoly_eq {n : Nat} (a : Dense K n n)
    : a.mirrored.charpoly = ((SymmetricSpectrum.eigenvalues a).map fun l => X - C l).prod

/-- On symmetric matrices the eigenvalues of the lower triangle are the true ones. -/
instance {K : Type} [Field K] [SymmetricSpectrum K] [SymmetricSpectrum.Triangular K]
    : SymmetricSpectrum.Exact K where
  charpoly_eq {n a} symmetric := by
    rw [← SymmetricSpectrum.Triangular.charpoly_eq a, Dense.mirrored_of_isSymm symmetric]

-----------------------------------------------------------------------------------------
-- Differences of opposite entries
-----------------------------------------------------------------------------------------

namespace Dense

section Asymmetry

theorem mem_entries {α : Type} {m n : Nat} {a : Dense α m n} {v : α}
    : v ∈ a.entries ↔ ∃ i j, a.toMatrix i j = v := by
  simp only [entries, Vec.toList_eq_ofFn, List.mem_flatMap, List.mem_ofFn]
  constructor
  · rintro ⟨_, ⟨j, rfl⟩, i, rfl⟩
    exact ⟨i, j, by rw [← toMatrix_apply, toMatrix_transpose, transpose_apply]⟩
  · rintro ⟨i, j, rfl⟩
    exact ⟨_, ⟨j, rfl⟩, i, by rw [← toMatrix_apply, toMatrix_transpose, transpose_apply]⟩

variable {K : Type} [Field K] [LinearOrder K] {n : Nat} {a : Dense K n n}

/-- The largest difference of opposite entries. -/
def skew (a : Dense K n n) : K :=
  maximumAbs (Grid.asymmetry a)

theorem mem_asymmetry {v : K}
    : v ∈ Grid.asymmetry a ↔ ∃ i j, a.toMatrix i j - a.toMatrix j i = v := by
  rw [Grid.asymmetry, mem_entries]
  simp [transpose]

theorem abs_sub_le_skew (a : Dense K n n) (i j : Fin n)
    : |a.toMatrix i j - a.toMatrix j i| ≤ a.skew :=
  abs_le_maximumAbs (mem_asymmetry.mpr ⟨i, j, rfl⟩)

/-- The largest difference is one of them, or there are none. -/
theorem skew_cases (a : Dense K n n)
    : a.skew = 0 ∨ ∃ i j, a.skew = |a.toMatrix i j - a.toMatrix j i| := by
  by_cases empty : Grid.asymmetry a = []
  · exact .inl (by rw [skew, empty, maximumAbs])
  · obtain ⟨v, member, largest⟩ := exists_maximumAbs_eq empty
    obtain ⟨i, j, rfl⟩ := mem_asymmetry.mp member
    exact .inr ⟨i, j, largest⟩

variable [IsStrictOrderedRing K]

theorem skew_nonneg (a : Dense K n n) : 0 ≤ a.skew := by
  rcases a.skew_cases with zero | ⟨i, j, largest⟩
  · exact zero.ge
  · rw [largest]
    exact abs_nonneg _

/-- A symmetric matrix has no differences. -/
theorem skew_of_isSymm (symmetric : a.toMatrix.IsSymm) : a.skew = 0 := by
  rcases a.skew_cases with zero | ⟨i, j, largest⟩
  · exact zero
  · rw [largest, symmetric.apply i j, sub_self, abs_zero]

end Asymmetry

end Dense

-----------------------------------------------------------------------------------------
-- Forms
-----------------------------------------------------------------------------------------

section Forms

variable {K : Type} [Field K] [LinearOrder K] [IsStrictOrderedRing K] {n : Nat}

/-- The products of the magnitudes of different entries sum to at most `n - 1` times the squared
length: all products together are a square, by the inequality of Cauchy and Schwarz.
-/
theorem sum_offDiagonal_le (x : Fin n → K)
    : ∑ i, ∑ j, (|x i| * |x j| - if i = j then x i * x j else 0) ≤ (n - 1) * (x ⬝ᵥ x) := by
  have square : ∑ i, ∑ j, |x i| * |x j| = (∑ i, |x i|) ^ 2 := by
    rw [sq, Finset.sum_mul_sum]
  have diagonal : ∑ i, ∑ j, (if i = j then x i * x j else 0) = x ⬝ᵥ x := by
    simp [dotProduct]
  have spread : (∑ i, |x i|) ^ 2 ≤ n * (x ⬝ᵥ x) := by
    simpa [dotProduct, sq_abs, sq] using sq_sum_le_card_mul_sum_sq (s := Finset.univ) (f := (|x ·|))
  simp only [Finset.sum_sub_distrib, square, diagonal]
  linarith

/-- A form without diagonal, by the magnitudes of its terms. -/
theorem form_le_of_offDiagonal {D : Matrix (Fin n) (Fin n) K} {bound : K}
    (diagonal : ∀ i, D i i = 0) (bounded : ∀ i j, |D i j| ≤ bound) (nonneg : 0 ≤ bound)
    (x : Fin n → K)
    : x ⬝ᵥ D *ᵥ x ≤ bound * ((n - 1) * (x ⬝ᵥ x)) := by
  have term (i j : Fin n)
      : x i * (D i j * x j) ≤ bound * (|x i| * |x j| - if i = j then x i * x j else 0) := by
    split
    case isTrue same =>
      subst same
      rw [diagonal, zero_mul, mul_zero, abs_mul_abs_self, sub_self, mul_zero]
    case isFalse =>
      calc
        x i * (D i j * x j) ≤ |x i * (D i j * x j)| := le_abs_self _
        _ = |D i j| * (|x i| * |x j|) := by rw [abs_mul, abs_mul, mul_left_comm]
        _ ≤ bound * (|x i| * |x j|) := by gcongr; exact bounded i j
        _ = bound * (|x i| * |x j| - 0) := by rw [sub_zero]
  calc
    x ⬝ᵥ D *ᵥ x = ∑ i, ∑ j, x i * (D i j * x j) := by
      simp only [dotProduct, mulVec, Finset.mul_sum]
    _ ≤ ∑ i, ∑ j, bound * (|x i| * |x j| - if i = j then x i * x j else 0) :=
      Finset.sum_le_sum fun i _ => Finset.sum_le_sum fun j _ => term i j
    _ = bound * ∑ i, ∑ j, (|x i| * |x j| - if i = j then x i * x j else 0) := by
      simp only [Finset.mul_sum]
    _ ≤ bound * ((n - 1) * (x ⬝ᵥ x)) := by gcongr; exact sum_offDiagonal_le x

namespace Dense

/-- The form of stored rows falls short of the form of their lower triangle by at most the largest
difference of opposite entries times `(n - 1) / 2`: twice the form is the form of the sum of both
triangles.
-/
theorem form_ge (a : Dense K n n) (x : Fin n → K)
    : x ⬝ᵥ a.mirrored *ᵥ x - (n - 1) / 2 * a.skew * (x ⬝ᵥ x) ≤ x ⬝ᵥ a.toMatrix *ᵥ x := by
  let D : Matrix (Fin n) (Fin n) K :=
    Matrix.of fun i j => a.toMatrix (max i j) (min i j) - a.toMatrix (min i j) (max i j)
  have both : a.toMatrix + a.toMatrixᵀ = (2 : K) • a.mirrored - D := by
    ext i j
    rcases le_total i j with upper | lower
    · simp [D, mirrored, max_eq_right upper, min_eq_left upper]
      ring
    · simp [D, mirrored, max_eq_left lower, min_eq_right lower]
      ring
  have twice := congrArg (fun M : Matrix (Fin n) (Fin n) K => x ⬝ᵥ M *ᵥ x) both
  have transposed : x ⬝ᵥ a.toMatrixᵀ *ᵥ x = x ⬝ᵥ a.toMatrix *ᵥ x := by
    rw [mulVec_transpose, dotProduct_comm, ← dotProduct_mulVec]
  simp only [add_mulVec, dotProduct_add, transposed, sub_mulVec, dotProduct_sub, smul_mulVec,
    dotProduct_smul, smul_eq_mul] at twice
  have rest : x ⬝ᵥ D *ᵥ x ≤ a.skew * ((n - 1) * (x ⬝ᵥ x)) :=
    form_le_of_offDiagonal (fun i => sub_eq_zero.mpr (by rw [max_self, min_self]))
      (fun i j => a.abs_sub_le_skew _ _) a.skew_nonneg x
  linarith

end Dense

end Forms

-----------------------------------------------------------------------------------------
-- The test
-----------------------------------------------------------------------------------------

section Test

variable {K : Type} [Field K] [LinearOrder K] [IsStrictOrderedRing K] [SymmetricSpectrum K]
  [SymmetricSpectrum.Triangular K] {n : Nat}

namespace Dense

omit [LinearOrder K] [IsStrictOrderedRing K] in
/-- A matrix that is not empty has eigenvalues, as many as its characteristic polynomial has
factors.
-/
theorem eigenvalues_ne_nil (a : Dense K n n) (nonempty : n ≠ 0)
    : SymmetricSpectrum.eigenvalues a ≠ [] := by
  intro none
  have degree := charpoly_natDegree_eq_dim a.mirrored
  rw [SymmetricSpectrum.Triangular.charpoly_eq a, none, List.map_nil, List.prod_nil, natDegree_one,
    Fintype.card_fin] at degree
  exact nonempty degree.symm

/-- The least eigenvalue bounds the form of the lower triangle. -/
theorem minEigenvalue_mul_le (a : Dense K n n) (x : Fin n → K)
    : a.minEigenvalue * (x ⬝ᵥ x) ≤ x ⬝ᵥ a.mirrored *ᵥ x :=
  mul_dotProduct_le_of_charpoly a.isSymm_mirrored (SymmetricSpectrum.Triangular.charpoly_eq a)
    (fun _ member => minimum_le member) x

/-- The least eigenvalue is positive exactly if the form of the lower triangle is. -/
theorem minEigenvalue_pos_iff (a : Dense K n n) (nonempty : n ≠ 0)
    : 0 < a.minEigenvalue ↔ Definite a.mirrored := by
  constructor
  · intro positive x nonzero
    exact (mul_pos positive (dotProduct_self_pos nonzero)).trans_le (a.minEigenvalue_mul_le x)
  · intro definite
    refine definite.root_pos ?_
    rw [SymmetricSpectrum.Triangular.charpoly_eq a, isRoot_prod_iff]
    exact minimum_mem (a.eigenvalues_ne_nil nonempty)

/-- The two triangles differ by at most a small part of the largest entry, or of one. -/
def NearlySymmetric (a : Dense K n n) : Prop :=
  a.skew ≤ 1 / 10 ^ 12 * max (maximumAbs a.entries) 1

/-- What the least eigenvalue says of the form of a whole matrix: the form is bounded below, and
positive if the triangles are equal or close enough to each other.
-/
structure Bounded (a : Dense K n n) : Prop where
  below : ∀ x, (a.minEigenvalue - (n - 1) / 2 * a.skew) * (x ⬝ᵥ x) ≤ x ⬝ᵥ a.toMatrix *ᵥ x
  definite_of_close : (n - 1) / 2 * a.skew < a.minEigenvalue → Definite a.toMatrix
  definite_of_symmetric : a.toMatrix.IsSymm → Definite a.toMatrix

/-- A positive least eigenvalue bounds the form, less what the difference of the triangles takes
away.
-/
theorem bounded_of_minEigenvalue_pos {a : Dense K n n} (positive : 0 < a.minEigenvalue)
    : a.Bounded := by
  have below (x : Fin n → K)
      : (a.minEigenvalue - (n - 1) / 2 * a.skew) * (x ⬝ᵥ x) ≤ x ⬝ᵥ a.toMatrix *ᵥ x := by
    rw [sub_mul]
    exact (sub_le_sub_right (a.minEigenvalue_mul_le x) _).trans (a.form_ge x)
  have definite_of_close (close : (n - 1) / 2 * a.skew < a.minEigenvalue)
      : Definite a.toMatrix := fun x nonzero =>
    (mul_pos (sub_pos.mpr close) (dotProduct_self_pos nonzero)).trans_le (below x)
  refine ⟨below, definite_of_close, fun symmetric => definite_of_close ?_⟩
  rwa [skew_of_isSymm symmetric, mul_zero]

end Dense

namespace Grid

/-- The test passes exactly if the matrix is square and not empty, its triangles are close, and the
form of its lower triangle is positive.
-/
theorem isPositiveDefinite_iff {p : Grid K}
    : p.isPositiveDefinite = true
      ↔ ∃ square : p.cols = p.rows,
          p.rows ≠ 0
            ∧ (p.toSquare square).NearlySymmetric
            ∧ Definite (p.toSquare square).mirrored := by
  unfold isPositiveDefinite
  split
  case isFalse oblong => simp [oblong]
  case isTrue square =>
    split
    case isTrue empty => simp [empty]
    case isFalse nonempty =>
      rw [exists_prop_of_true square, ← Dense.minEigenvalue_pos_iff _ nonempty]
      simp [nonempty, Dense.NearlySymmetric, Dense.skew, symmetryTolerance, Scalar.decimal_eq_div]

/-- Accepted matrices are those with close triangles of which the lower one has a positive form, and
their own form is bounded below by the least eigenvalue less what the difference of the triangles
takes away. So an accepted matrix that is symmetric is positive definite.
-/
theorem accepted_iff_and_bounded (p : Grid K)
    : (p.isPositiveDefinite = true
        ↔ ∃ square : p.cols = p.rows,
            p.rows ≠ 0
              ∧ (p.toSquare square).NearlySymmetric
              ∧ Definite (p.toSquare square).mirrored)
      ∧ (p.isPositiveDefinite = true →
          ∃ square : p.cols = p.rows, 0 < p.rows ∧ (p.toSquare square).Bounded) := by
  refine ⟨isPositiveDefinite_iff, fun accepted => ?_⟩
  obtain ⟨square, nonempty, -, definite⟩ := isPositiveDefinite_iff.mp accepted
  exact ⟨square, Nat.pos_of_ne_zero nonempty,
    Dense.bounded_of_minEigenvalue_pos ((Dense.minEigenvalue_pos_iff _ nonempty).mpr definite)⟩

end Grid

end Test

-----------------------------------------------------------------------------------------
-- Real matrices
-----------------------------------------------------------------------------------------

namespace SymmetricSpectrum

theorem isHermitian_mirrored {n : Nat} (a : Dense ℝ n n) : a.mirrored.IsHermitian := by
  rw [IsHermitian, conjTranspose_eq_transpose_of_trivial]
  exact a.isSymm_mirrored

/-- The real eigenvalues of lower triangles. -/
@[reducible]
noncomputable def lowerTriangles : SymmetricSpectrum ℝ where
  eigenvalues a := List.ofFn (isHermitian_mirrored a).eigenvalues

theorem triangular_lowerTriangles : @Triangular ℝ _ lowerTriangles := by
  refine @Triangular.mk ℝ _ lowerTriangles fun {n} a => ?_
  change a.mirrored.charpoly = ((List.ofFn (isHermitian_mirrored a).eigenvalues).map _).prod
  rw [(isHermitian_mirrored a).charpoly_eq, List.map_ofFn, List.prod_ofFn]
  rfl

end SymmetricSpectrum

namespace Grid

theorem toSquare_toGrid {K : Type} {n : Nat} (a : Dense K n n) : a.toGrid.toSquare rfl = a := by
  simp [toSquare, toDense, Dense.toGrid]

/-- The matrix of two rows. -/
def ofRows {K : Type} (a b c d : K) : Grid K :=
  Dense.toGrid (.ofFn fun i : Fin 2 => .ofFn fun j : Fin 2 => !![a, b; c, d] i j)

theorem toMatrix_ofRows {K : Type} (a b c d : K)
    : ((ofRows a b c d).toSquare rfl).toMatrix = !![a, b; c, d] := by
  refine (congrArg Dense.toMatrix (toSquare_toGrid _)).trans ?_
  ext i j
  fin_cases i <;> fin_cases j <;> rfl

theorem mirrored_ofRows {K : Type} (a b c d : K)
    : ((ofRows a b c d).toSquare rfl).mirrored = !![a, c; c, d] := by
  refine (congrArg Dense.mirrored (toSquare_toGrid _)).trans ?_
  ext i j
  fin_cases i <;> fin_cases j <;> rfl

/-- Two rows are accepted if their triangles differ by no more than the tolerance for entries up to
one, and the lower one has a positive form.
-/
theorem isPositiveDefinite_ofRows {K : Type} [Field K] [LinearOrder K] [IsStrictOrderedRing K]
    [SymmetricSpectrum K] [SymmetricSpectrum.Triangular K] {a b c d : K}
    (close : |b - c| ≤ 1 / 10 ^ 12) (definite : Definite !![a, c; c, d])
    : (ofRows a b c d).isPositiveDefinite = true := by
  refine isPositiveDefinite_iff.mpr ⟨rfl, two_ne_zero, ?_, by rwa [mirrored_ofRows]⟩
  have least : (1 : K) / 10 ^ 12 * 1 ≤ 1 / 10 ^ 12
      * max (maximumAbs ((ofRows a b c d).toSquare rfl).entries) 1 := by
    gcongr
    exact le_max_right _ _
  refine le_trans ?_ ((mul_one (1 / 10 ^ 12 : K)).symm.le.trans least)
  rcases ((ofRows a b c d).toSquare rfl).skew_cases with zero | ⟨i, j, largest⟩
  · rw [zero]
    positivity
  · rw [largest, toMatrix_ofRows]
    change Fin 2 at i j
    fin_cases i <;> fin_cases j
    · simp
    · exact close
    · simpa [abs_sub_comm] using close
    · simp

/-- A multiple of the unit matrix by a positive factor has a positive form. -/
theorem definite_diagonal {K : Type} [Field K] [LinearOrder K] [IsStrictOrderedRing K] {a : K}
    (positive : 0 < a)
    : Definite !![a, 0; 0, a] := by
  intro x nonzero
  have form : x ⬝ᵥ !![a, 0; 0, a] *ᵥ x = a * (x ⬝ᵥ x) := by
    simp [dotProduct, mulVec, Fin.sum_univ_two]
    ring
  rw [form]
  exact mul_pos positive (dotProduct_self_pos nonzero)

/-- A matrix just off a multiple of the unit matrix is accepted, with a form that is bounded below
and positive, as the difference of its triangles is small against its least eigenvalue.
-/
theorem accepted_nearUnit
    : ∃ (_ : SymmetricSpectrum ℝ) (_ : SymmetricSpectrum.Triangular ℝ),
        (ofRows (1 : ℝ) (1 / 10 ^ 12) 0 1).isPositiveDefinite = true
          ∧ ((ofRows (1 : ℝ) (1 / 10 ^ 12) 0 1).toSquare rfl).Bounded := by
  let spectrum := SymmetricSpectrum.lowerTriangles
  have triangular := SymmetricSpectrum.triangular_lowerTriangles
  have accepted : (ofRows (1 : ℝ) (1 / 10 ^ 12) 0 1).isPositiveDefinite = true :=
    isPositiveDefinite_ofRows (by norm_num) (definite_diagonal one_pos)
  obtain ⟨_, _, bounded⟩ := (accepted_iff_and_bounded _).2 accepted
  exact ⟨spectrum, triangular, accepted, bounded⟩

/-- Entries far below the tolerance are accepted although the triangles differ by more than the
eigenvalues of the lower one, in exact arithmetic and on machine floats: the form is negative at
`(1, 1)`.
-/
theorem accepts_indefinite
    : (∃ (_ : SymmetricSpectrum ℝ) (_ : SymmetricSpectrum.Triangular ℝ),
        (ofRows (1 / 10 ^ 13 : ℝ) (-5 / 10 ^ 13) 0 (1 / 10 ^ 13)).isPositiveDefinite = true
          ∧ ∃ x ≠ 0,
              x ⬝ᵥ ((ofRows (1 / 10 ^ 13 : ℝ) (-5 / 10 ^ 13) 0 (1 / 10 ^ 13)).toSquare rfl).toMatrix
                *ᵥ x < 0)
      ∧ (ofRows (1e-13 : Float) (-5e-13) 0 1e-13).isPositiveDefinite = true := by
  refine ⟨⟨SymmetricSpectrum.lowerTriangles, SymmetricSpectrum.triangular_lowerTriangles, ?_, ?_⟩,
    by decide +kernel⟩
  · let spectrum := SymmetricSpectrum.lowerTriangles
    have triangular := SymmetricSpectrum.triangular_lowerTriangles
    exact isPositiveDefinite_ofRows (by norm_num [abs_le]) (definite_diagonal (by norm_num))
  · refine ⟨(![1, 1] : Fin 2 → ℝ), fun zero => one_ne_zero (congrFun zero (0 : Fin 2)), ?_⟩
    rw [toMatrix_ofRows]
    change (![1, 1] : Fin 2 → ℝ) ⬝ᵥ !![1 / 10 ^ 13, -5 / 10 ^ 13; 0, 1 / 10 ^ 13] *ᵥ ![1, 1] < 0
    norm_num [dotProduct, mulVec, Fin.sum_univ_two]

end Grid

end QuadraticTrials

import Mathlib
import QuadraticTrials.Generator
import QuadraticTrials.Proofs.Exact.Dense

/-!
Exact spectra. Where the eigenvalues that the generator asks for are the true ones, an accepted cost
has a positive spectrum that is not too wide.
-/

namespace QuadraticTrials

open Matrix Polynomial

-----------------------------------------------------------------------------------------
-- Least and largest values
-----------------------------------------------------------------------------------------

section Extremes

/-- A fold whose steps are related to what they start from and to the value they take in is related
to its start and to all values, by induction with any start.
-/
theorem foldl_related {α β : Type} {R : β → β → Prop} [Std.Refl R] [IsTrans β R] {f : β → α → β}
    {g : α → β} (kept : ∀ b a, R (f b a) b) (taken : ∀ b a, R (f b a) (g a)) (values : List α)
    (start : β)
    : R (values.foldl f start) start ∧ ∀ a ∈ values, R (values.foldl f start) (g a) := by
  induction values generalizing start with
  | nil => exact ⟨refl _, by simp⟩
  | cons a rest ih =>
      obtain ⟨first, later⟩ := ih (f start a)
      rw [List.foldl_cons, List.forall_mem_cons]
      exact ⟨IsTrans.trans _ _ _ first (kept start a), IsTrans.trans _ _ _ first (taken start a),
        later⟩

/-- A fold that keeps what it has or takes a value in ends at its start or at a value, by induction
with any start.
-/
theorem foldl_attained {α β : Type} {f : β → α → β} {g : α → β}
    (chooses : ∀ b a, f b a = b ∨ f b a = g a) (values : List α) (start : β)
    : values.foldl f start = start ∨ ∃ a ∈ values, values.foldl f start = g a := by
  induction values generalizing start with
  | nil => exact .inl rfl
  | cons a rest ih =>
      rw [List.foldl_cons]
      rcases ih (f start a) with kept | ⟨b, later, taken⟩
      · rw [kept]
        exact (chooses start a).imp_right fun first => ⟨a, List.mem_cons_self, first⟩
      · exact .inr ⟨b, List.mem_cons_of_mem a later, taken⟩

variable {K : Type} [Field K] [LinearOrder K]

/-- The least of some values is one of them. -/
theorem minimum_mem {values : List K} (nonempty : values ≠ []) : minimum values ∈ values := by
  cases values with
  | nil => exact absurd rfl nonempty
  | cons first rest =>
      rcases foldl_attained (f := fun least b : K => if least ≤ b then least else b) (g := id)
          (fun _ _ => ite_eq_or_eq _ _ _) rest first with kept | ⟨b, later, taken⟩
      · rw [minimum, kept]
        exact List.mem_cons_self
      · rw [minimum, taken]
        exact List.mem_cons_of_mem first later

/-- The largest magnitude of some values belongs to one of them. -/
theorem exists_maximumAbs_eq {values : List K} (nonempty : values ≠ [])
    : ∃ a ∈ values, maximumAbs values = |a| := by
  cases values with
  | nil => exact absurd rfl nonempty
  | cons first rest =>
      rcases foldl_attained (g := fun b : K => |b|)
          (f := fun largest b : K => if |b| ≤ largest then largest else |b|)
          (fun _ _ => ite_eq_or_eq _ _ _) rest |first| with kept | ⟨b, later, taken⟩
      · exact ⟨first, List.mem_cons_self, kept⟩
      · exact ⟨b, List.mem_cons_of_mem first later, taken⟩

/-- The least of some values is below each of them. -/
theorem minimum_le {values : List K} {a : K} (member : a ∈ values) : minimum values ≤ a := by
  cases values with
  | nil => cases member
  | cons first rest =>
      have fold := foldl_related (R := (· ≤ ·)) (g := id)
        (f := fun least b : K => if least ≤ b then least else b)
        (fun least b => by rw [← min_def]; exact min_le_left least b)
        (fun least b => by rw [← min_def]; exact min_le_right least b) rest first
      rcases List.mem_cons.mp member with rfl | later
      · exact fold.1
      · exact fold.2 a later

/-- The largest magnitude of some values is above each of them. -/
theorem abs_le_maximumAbs {values : List K} {a : K} (member : a ∈ values)
    : |a| ≤ maximumAbs values := by
  cases values with
  | nil => cases member
  | cons first rest =>
      have fold := foldl_related (R := (· ≥ ·)) (g := fun b => |b|)
        (f := fun largest b : K => if |b| ≤ largest then largest else |b|)
        (fun largest b => by rw [← max_def]; exact le_max_right |b| largest)
        (fun largest b => by rw [← max_def]; exact le_max_left |b| largest) rest |first|
      rcases List.mem_cons.mp member with rfl | later
      · exact fold.1
      · exact fold.2 a later

end Extremes

-----------------------------------------------------------------------------------------
-- Spectra
-----------------------------------------------------------------------------------------

/-- The eigenvalues of a symmetric matrix are its true ones: they make up its characteristic
polynomial, each as often as it counts.
-/
class SymmetricSpectrum.Exact (K : Type) [Field K] [SymmetricSpectrum K] : Prop where
  charpoly_eq {n : Nat} {a : Dense K n n}
    : a.toMatrix.IsSymm →
      a.toMatrix.charpoly = ((SymmetricSpectrum.eigenvalues a).map fun l => X - C l).prod

section Exact

/-- The roots of a product of linear factors are those of the factors. -/
theorem isRoot_prod_iff {K : Type} [Field K] {roots : List K} {l : K}
    : IsRoot (roots.map fun l => X - C l).prod l ↔ l ∈ roots := by
  rw [IsRoot.def, eval_list_prod, List.prod_eq_zero_iff]
  simp [sub_eq_zero]

variable {K : Type} [Field K] [SymmetricSpectrum K] [SymmetricSpectrum.Exact K] {n : Nat}
  {a : Dense K n n}

/-- The spectrum consists of the eigenvalues, as the roots of the characteristic polynomial. -/
theorem mem_spectrum_iff (symmetric : a.toMatrix.IsSymm) {l : K}
    : l ∈ spectrum K a.toMatrix ↔ l ∈ SymmetricSpectrum.eigenvalues a := by
  rw [mem_spectrum_iff_isRoot_charpoly, SymmetricSpectrum.Exact.charpoly_eq symmetric,
    isRoot_prod_iff]

end Exact

namespace Generator

variable {K : Type} [Field K] [LinearOrder K] [IsStrictOrderedRing K] [SymmetricSpectrum K]
  [SymmetricSpectrum.Exact K] {p : Dense K 2 2}

/-- A cost is accepted exactly if it has eigenvalues and each of them is above a small part of every
magnitude among them.
-/
theorem isWellConditioned_iff (symmetric : p.toMatrix.IsSymm)
    : isWellConditioned p = true
      ↔ (spectrum K p.toMatrix).Nonempty
        ∧ ∀ l ∈ spectrum K p.toMatrix, ∀ u ∈ spectrum K p.toMatrix, 1 / 10 ^ 12 * |u| < l := by
  have factor : (0 : K) ≤ 1 / 10 ^ 12 := by positivity
  have tested : isWellConditioned p = true
      ↔ (1 / 10 ^ 12 : K) * maximumAbs (SymmetricSpectrum.eigenvalues p)
        < minimum (SymmetricSpectrum.eigenvalues p) := by
    simp [isWellConditioned, minRelativeEigenvalue, Scalar.decimal_eq_div]
  rw [tested]
  simp only [Set.Nonempty, mem_spectrum_iff symmetric]
  constructor
  · intro accepted
    refine ⟨List.exists_mem_of_ne_nil _ fun none => ?_, fun l lower u upper => ?_⟩
    · simp [none, minimum, maximumAbs] at accepted
    · calc
        1 / 10 ^ 12 * |u| ≤ 1 / 10 ^ 12 * maximumAbs (SymmetricSpectrum.eigenvalues p) :=
          mul_le_mul_of_nonneg_left (abs_le_maximumAbs upper) factor
        _ < minimum (SymmetricSpectrum.eigenvalues p) := accepted
        _ ≤ l := minimum_le lower
  · rintro ⟨⟨l, member⟩, close⟩
    have nonempty := List.ne_nil_of_mem member
    obtain ⟨u, upper, largest⟩ := exists_maximumAbs_eq nonempty
    rw [largest]
    exact close _ (minimum_mem nonempty) u upper

/-- Accepted costs have positive eigenvalues that are close enough together. -/
theorem conditioned_of_accepted (symmetric : p.toMatrix.IsSymm) (accepted : isWellConditioned p)
    : ∀ l ∈ spectrum K p.toMatrix,
        0 < l ∧ ∀ u ∈ spectrum K p.toMatrix, 1 / 10 ^ 12 * u < l := by
  intro l member
  have close := ((isWellConditioned_iff symmetric).mp accepted).2 l member
  refine ⟨lt_of_le_of_lt (by positivity) (close l member), fun u other => ?_⟩
  exact lt_of_le_of_lt (by gcongr; exact le_abs_self u) (close u other)

/-- Accepted costs are nonsingular, since zero is not an eigenvalue. -/
theorem det_ne_zero_of_accepted (symmetric : p.toMatrix.IsSymm) (accepted : isWellConditioned p)
    : p.toMatrix.det ≠ 0 := by
  have regular : (0 : K) ∉ spectrum K p.toMatrix := fun member =>
    lt_irrefl 0 (conditioned_of_accepted symmetric accepted 0 member).1
  exact ((isUnit_iff_isUnit_det _).mp ((spectrum.zero_notMem_iff K).mp regular)).ne_zero

end Generator

-----------------------------------------------------------------------------------------
-- Real numbers
-----------------------------------------------------------------------------------------

open Classical in
/-- Real symmetric matrices have real eigenvalues. -/
noncomputable instance : SymmetricSpectrum ℝ where
  eigenvalues a :=
    if symmetric : a.toMatrix.IsHermitian then List.ofFn symmetric.eigenvalues else []

namespace SymmetricSpectrum

variable {n : Nat} {a : Dense ℝ n n}

theorem isHermitian_of_isSymm (symmetric : a.toMatrix.IsSymm) : a.toMatrix.IsHermitian := by
  rw [IsHermitian, conjTranspose_eq_transpose_of_trivial]
  exact symmetric

theorem eigenvalues_eq (hermitian : a.toMatrix.IsHermitian)
    : SymmetricSpectrum.eigenvalues a = List.ofFn hermitian.eigenvalues :=
  dif_pos hermitian

instance : SymmetricSpectrum.Exact ℝ where
  charpoly_eq symmetric := by
    have hermitian := isHermitian_of_isSymm symmetric
    rw [eigenvalues_eq hermitian, hermitian.charpoly_eq, List.map_ofFn, List.prod_ofFn]
    rfl

end SymmetricSpectrum

/-- Positive values are close enough together if their product is not too small for their sum. -/
theorem Generator.close_of_product {a b : ℝ} (first : 0 < a) (second : 0 < b)
    (wide : 1 / 10 ^ 12 * (a + b) ^ 2 < a * b)
    : 1 / 10 ^ 12 * a < b := by
  by_contra far
  have bound : a * b ≤ 1 / 10 ^ 12 * a ^ 2 := by nlinarith [not_lt.mp far]
  nlinarith [mul_pos first second]

/-- A real cost is accepted if its determinant is not too small for its trace. -/
theorem Generator.accepted_of_det {p : Dense ℝ 2 2} (symmetric : p.toMatrix.IsSymm)
    (trace_pos : 0 < p.toMatrix.trace)
    (wide : 1 / 10 ^ 12 * p.toMatrix.trace ^ 2 < p.toMatrix.det)
    : isWellConditioned p = true := by
  have hermitian := SymmetricSpectrum.isHermitian_of_isSymm symmetric
  have trace := hermitian.trace_eq_sum_eigenvalues
  have det := hermitian.det_eq_prod_eigenvalues
  simp only [Fin.sum_univ_two, Fin.prod_univ_two, RCLike.ofReal_real_eq_id, id_eq] at trace det
  rw [trace] at trace_pos wide
  rw [det] at wide
  rw [isWellConditioned, SymmetricSpectrum.eigenvalues_eq hermitian]
  generalize hermitian.eigenvalues = e at trace_pos wide ⊢
  have product : 0 < e 0 * e 1 := lt_of_le_of_lt (by positivity) wide
  have first : 0 < e 0 := by
    by_contra negative
    nlinarith [not_lt.mp negative]
  have second : 0 < e 1 := pos_of_mul_pos_right product first.le
  have near := close_of_product first second wide
  have far := close_of_product second first (by linarith)
  have listed : List.ofFn e = [e 0, e 1] := rfl
  simp only [listed, minimum, maximumAbs, List.foldl_cons, List.foldl_nil, Scalar.abs_eq_abs,
    abs_of_pos first, abs_of_pos second, ← min_def, ← max_def, minRelativeEigenvalue,
    Scalar.decimal_eq_div, Nat.cast_one, decide_eq_true_eq, lt_min_iff,
    mul_max_of_nonneg _ _ (show (0 : ℝ) ≤ 1 / 10 ^ 12 by positivity), max_lt_iff]
  exact ⟨⟨far, by linarith⟩, by linarith, near⟩

end QuadraticTrials

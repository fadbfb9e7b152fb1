import Mathlib
import QuadraticTrials.Dense
import QuadraticTrials.Proofs.Exact.Scalar

/-!
Stored vectors and matrices read as functions and matrices over an ordered field. The fixed orders
of summation disappear there: each product is the usual one.
-/

namespace QuadraticTrials

open Matrix

-----------------------------------------------------------------------------------------
-- Entries of stored vectors
-----------------------------------------------------------------------------------------

namespace Vec

variable {α : Type} {m n : Nat}

theorem get_eq_getElem (x : Vector α n) (i : Fin n) : x.get i = x[i.val] :=
  rfl

/-- Vectors with the same entries are equal, by extensionality of storage. -/
theorem ext_get {x y : Vector α n} (same : x.get = y.get) : x = y :=
  Vector.ext fun i hi => congrFun same ⟨i, hi⟩

@[simp] theorem get_ofFn (f : Fin n → α) : (Vector.ofFn f).get = f := by
  funext i
  simp [get_eq_getElem]

@[simp] theorem get_replicate (a : α) : (Vector.replicate n a).get = fun _ => a := by
  funext i
  simp [get_eq_getElem]

@[simp] theorem get_map {β : Type} (f : α → β) (x : Vector α n)
    : (x.map f).get = fun i => f (x.get i) := by
  funext i
  simp [get_eq_getElem]

@[simp] theorem get_zipWith {β γ : Type} (f : α → β → γ) (x : Vector α n) (y : Vector β n)
    : (Vector.zipWith f x y).get = fun i => f (x.get i) (y.get i) := by
  funext i
  simp [get_eq_getElem]

@[simp] theorem get_add [Add α] (x y : Vector α n) : (x + y).get = x.get + y.get := by
  funext i
  simp [get_eq_getElem]

@[simp] theorem get_neg [Neg α] (x : Vector α n) : (-x).get = -x.get := by
  funext i
  simp [get_eq_getElem]

/-- The entries of a joined vector, by position before or after the seam. -/
@[simp] theorem get_append (x : Vector α m) (y : Vector α n)
    : (x ++ y).get = Fin.append x.get y.get := by
  funext i
  refine Fin.addCases (fun j => ?_) (fun j => ?_) i
  · simp [get_eq_getElem]
  · simp [get_eq_getElem]

/-- The entries in order, by comparing both lists place by place. -/
theorem toList_eq_ofFn (x : Vector α n) : x.toList = List.ofFn x.get := by
  refine List.ext_getElem (by simp) fun i hi hj => ?_
  simp [get_eq_getElem]

@[simp] theorem get_left (x : Vector α (m + n)) : (left x).get = fun i => x.get (i.castAdd n) :=
  get_ofFn _

@[simp] theorem get_right (x : Vector α (m + n)) : (right x).get = fun i => x.get (i.natAdd m) :=
  get_ofFn _

@[simp] theorem left_append (x : Vector α m) (y : Vector α n) : left (x ++ y) = x :=
  ext_get (by simp)

@[simp] theorem right_append (x : Vector α m) (y : Vector α n) : right (x ++ y) = y :=
  ext_get (by simp)

theorem sum_eq_sum_get [AddCommMonoid α] (x : Vector α n) : x.sum = ∑ i, x.get i := by
  rw [← Vector.sum_toList, toList_eq_ofFn, List.sum_ofFn]

/-- An inserted first entry comes before all others, by cases on the position. -/
@[simp] theorem get_insertIdx_zero (x : Vector α n) (a : α)
    : (x.insertIdx 0 a (Nat.zero_le n)).get = Fin.cons a x.get := by
  funext i
  refine Fin.cases ?_ (fun j => ?_) i
  · simp [get_eq_getElem]
  · simp [get_eq_getElem]

end Vec

-----------------------------------------------------------------------------------------
-- Vectors and inner products over a field
-----------------------------------------------------------------------------------------

/-- Adding terms one by one adds their sum, by reading the start as a further term. -/
theorem foldl_add_eq_add_sum {α : Type} [AddMonoid α] (start : α) (terms : List α)
    : terms.foldl (· + ·) start = start + terms.sum := by
  rw [← List.sum_cons, List.sum_eq_foldl, List.foldl_cons, zero_add]

variable {K : Type} [Field K] [LinearOrder K] {m n : Nat}

/-- The largest magnitude of some values, zero when there is none. -/
def maxNorm (v : Fin n → K) : K :=
  Finset.univ.fold max 0 fun i => |v i|

/-- The sum of the magnitudes of some values. -/
def sumNorm (v : Fin n → K) : K :=
  ∑ i, |v i|

theorem runningSum_eq_sum (terms : List K) : runningSum terms = terms.sum := by
  rw [runningSum, foldl_add_eq_add_sum, zero_add]

namespace Vec

@[simp] theorem get_minus (x y : Vector K n) : (minus x y).get = x.get - y.get :=
  get_zipWith _ x y

@[simp] theorem get_times (x y : Vector K n) : (times x y).get = x.get * y.get :=
  get_zipWith _ x y

@[simp] theorem get_quotient (x y : Vector K n) : (quotient x y).get = x.get / y.get :=
  get_zipWith _ x y

@[simp] theorem get_scale (x : Vector K n) (factor : K)
    : (scale x factor).get = factor • x.get := by
  funext i
  simp [scale, mul_comm]

end Vec

/-- Summing in lanes loses nothing, by induction over the whole blocks. -/
theorem sumLanes_sum (lanes : Vector K (4 + 4)) (terms : List K)
    : (sumLanes lanes terms).1.sum + (sumLanes lanes terms).2.sum = lanes.sum + terms.sum := by
  fun_induction sumLanes lanes terms with
  | case1 lanes a b c d e f g h rest ih =>
      rw [ih]
      simp only [Vec.sum_eq_sum_get, Vec.get_add, Pi.add_apply, Finset.sum_add_distrib]
      simp [Fin.sum_univ_eight, Vec.get_eq_getElem]
      ring
  | case2 lanes rest => rfl

/-- The sum in lanes is the sum, since joining lanes four apart covers all eight. -/
theorem lanedSum_eq_sum (terms : List K) : lanedSum terms = terms.sum := by
  have whole := sumLanes_sum (Vector.replicate (4 + 4) 0) terms
  have joined (lanes : Vector K (4 + 4))
      : (Vec.left lanes + Vec.right lanes).sum = lanes.sum := by
    rw [Vec.sum_eq_sum_get, Vec.sum_eq_sum_get lanes, Fin.sum_univ_add lanes.get,
      ← Finset.sum_add_distrib]
    simp only [Vec.get_add, Pi.add_apply, Vec.get_left, Vec.get_right]
  simp only [lanedSum, foldl_add_eq_add_sum, runningSum_eq_sum, Vector.sum_toList, joined, whole]
  simp [Vec.sum_eq_sum_get]

namespace Vec

/-- Exact values are finite. -/
@[simp] theorem isFinite_eq_true (x : Vector K n) : isFinite x = true :=
  List.all_eq_true.mpr fun _ _ => rfl

/-- The inner product of stored vectors is the usual one. -/
@[simp] theorem dot_eq_dotProduct (x y : Vector K n) : dot x y = x.get ⬝ᵥ y.get := by
  simp [dot, lanedSum_eq_sum, sum_eq_sum_get, dotProduct]

/-- A bound on the largest magnitude bounds every entry, by induction over the fold. -/
theorem maxAbs_le_iff {x : Vector K n} {bound : K}
    : maxAbs x ≤ bound ↔ 0 ≤ bound ∧ ∀ i, |x.get i| ≤ bound := by
  have fold (start : K) (values : List K)
      : values.foldl (fun largest v => Scalar.max largest (Scalar.abs v)) start ≤ bound
        ↔ start ≤ bound ∧ ∀ v ∈ values, |v| ≤ bound := by
    induction values generalizing start with
    | nil => simp
    | cons v rest ih => rw [List.foldl_cons, ih]; simp [and_assoc]
  rw [maxAbs, fold, toList_eq_ofFn]
  simp

/-- The largest magnitude of a stored vector, since both are bounded by the same values. -/
@[simp] theorem maxAbs_eq_maxNorm (x : Vector K n) : maxAbs x = maxNorm x.get := by
  refine eq_of_forall_ge_iff fun bound => ?_
  rw [maxAbs_le_iff, maxNorm, Finset.fold_max_le]
  simp

end Vec

-----------------------------------------------------------------------------------------
-- Norms
-----------------------------------------------------------------------------------------

theorem maxNorm_nonneg (v : Fin n → K) : 0 ≤ maxNorm v := by
  rw [maxNorm, Finset.le_fold_max]
  exact .inl le_rfl

theorem abs_le_maxNorm (v : Fin n → K) (i : Fin n) : |v i| ≤ maxNorm v := by
  rw [maxNorm, Finset.le_fold_max]
  exact .inr ⟨i, Finset.mem_univ i, le_rfl⟩

section Ordered

variable [IsStrictOrderedRing K]

@[simp] theorem maxNorm_zero : maxNorm (0 : Fin n → K) = 0 :=
  le_antisymm ((Finset.fold_max_le _).mpr (by simp)) (maxNorm_nonneg _)

/-- A factor that is not negative goes through the largest magnitude, as both sides have the same
bounds.
-/
theorem maxNorm_smul {factor : K} (nonneg : 0 ≤ factor) (v : Fin n → K)
    : maxNorm (factor • v) = factor * maxNorm v := by
  rcases nonneg.eq_or_lt with rfl | positive
  · rw [zero_smul, zero_mul, maxNorm_zero]
  refine eq_of_forall_ge_iff fun bound => ?_
  rw [← le_div_iff₀' positive, maxNorm, maxNorm, Finset.fold_max_le, Finset.fold_max_le,
    le_div_iff₀ positive, zero_mul]
  simp only [Pi.smul_apply, smul_eq_mul, abs_mul, abs_of_pos positive, le_div_iff₀' positive]

/-- An inner product is at most the largest magnitude of one side times the sum of magnitudes of
the other, term by term.
-/
theorem neg_dotProduct_le (u v : Fin n → K) : -(u ⬝ᵥ v) ≤ maxNorm u * sumNorm v := by
  rw [dotProduct, ← Finset.sum_neg_distrib, sumNorm, Finset.mul_sum]
  refine Finset.sum_le_sum fun i _ => ?_
  calc
    -(u i * v i) ≤ |u i * v i| := neg_le_abs _
    _ = |u i| * |v i| := abs_mul _ _
    _ ≤ maxNorm u * |v i| := mul_le_mul_of_nonneg_right (abs_le_maxNorm u i) (abs_nonneg _)

theorem sumNorm_nonneg (v : Fin n → K) : 0 ≤ sumNorm v :=
  Finset.sum_nonneg fun _ _ => abs_nonneg _

end Ordered

-----------------------------------------------------------------------------------------
-- Matrices
-----------------------------------------------------------------------------------------

namespace Dense

/-- The matrix that stored rows stand for. -/
def toMatrix {α : Type} (a : Dense α m n) : Matrix (Fin m) (Fin n) α :=
  Matrix.of fun i => (a.get i).get

@[simp] theorem toMatrix_apply {α : Type} (a : Dense α m n) (i : Fin m) (j : Fin n)
    : a.toMatrix i j = (a.get i).get j :=
  rfl

@[simp] theorem get_mul (a : Dense K m n) (x : Vector K n)
    : (a.mul x).get = a.toMatrix *ᵥ x.get := by
  funext i
  simp [mul, runningSum_eq_sum, Vec.sum_eq_sum_get, mulVec, dotProduct]

@[simp] theorem toMatrix_transpose {α : Type} (a : Dense α m n)
    : a.transpose.toMatrix = a.toMatrixᵀ := by
  ext i j
  simp [transpose]

@[simp] theorem toMatrix_plus (a b : Dense K m n)
    : (a.plus b).toMatrix = a.toMatrix + b.toMatrix := by
  ext i j
  simp [plus]

@[simp] theorem toMatrix_product {k : Nat} (a : Dense K m k) (b : Dense K k n)
    : (a.product b).toMatrix = a.toMatrix * b.toMatrix := by
  ext i j
  simp [product, transpose, runningSum_eq_sum, Vec.sum_eq_sum_get, mul_apply]

@[simp] theorem isFinite_eq_true (a : Dense K m n) : a.isFinite = true :=
  List.all_eq_true.mpr fun row _ => Vec.isFinite_eq_true row

omit [LinearOrder K] in
@[simp] theorem toMatrix_map_mul (a : Dense K m n) (factor : K)
    : (Dense.toMatrix (a.map fun row => row.map (· * factor))) = factor • a.toMatrix := by
  ext i j
  simp [mul_comm]

@[simp] theorem toMatrix_scaleRows (factors : Vector K m) (a : Dense K m n)
    : (a.scaleRows factors).toMatrix = diagonal factors.get * a.toMatrix := by
  ext i j
  simp [scaleRows]

end Dense

end QuadraticTrials

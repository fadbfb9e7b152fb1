import Mathlib
import QuadraticTrials.Proofs.Exact.Dense

/-!
Vectors and matrices with their places relabelled. Over an ordered field products and norms do not
depend on the labels, since sums and maxima do not depend on an order.
-/

namespace QuadraticTrials

open Matrix

/-- Places correspond one to one only if there are equally many. -/
theorem eq_of_relabelling {n' n : Nat} (e : Fin n' ≃ Fin n) : n' = n :=
  Fin.equiv_iff_eq.mp ⟨e⟩

-----------------------------------------------------------------------------------------
-- Vectors
-----------------------------------------------------------------------------------------

namespace Vec

variable {α β γ : Type} {n' n : Nat} {e : Fin n' ≃ Fin n}

/-- The vector with a given entry at each new place. -/
def relabel (e : Fin n' ≃ Fin n) (x : Vector α n) : Vector α n' :=
  Vector.ofFn fun i => x.get (e i)

@[simp] theorem get_relabel (x : Vector α n) : (relabel e x).get = x.get ∘ e :=
  get_ofFn _

@[simp] theorem relabel_map (f : α → β) (x : Vector α n)
    : relabel e (x.map f) = (relabel e x).map f :=
  ext_get (by simp [Function.comp_def])

@[simp] theorem relabel_zipWith (f : α → β → γ) (x : Vector α n) (y : Vector β n)
    : relabel e (Vector.zipWith f x y) = Vector.zipWith f (relabel e x) (relabel e y) :=
  ext_get (by simp [Function.comp_def])

@[simp] theorem relabel_replicate (a : α)
    : relabel e (Vector.replicate n a) = Vector.replicate n' a :=
  ext_get (by simp [Function.comp_def])

@[simp] theorem relabel_add [Add α] (x y : Vector α n)
    : relabel e (x + y) = relabel e x + relabel e y :=
  ext_get (by simp [Pi.add_comp])

@[simp] theorem relabel_neg [Neg α] (x : Vector α n) : relabel e (-x) = -relabel e x :=
  ext_get (by simp [Pi.neg_comp])

/-- The entries are the same in another order. -/
theorem perm_relabel (e : Fin n' ≃ Fin n) (x : Vector α n)
    : (relabel e x).toList.Perm x.toList := by
  obtain rfl := eq_of_relabelling e
  rw [toList_eq_ofFn, toList_eq_ofFn, get_relabel]
  exact Equiv.Perm.ofFn_comp_perm e x.get

/-- Pairs of entries at equal places are the same in another order. -/
theorem perm_zip_relabel (e : Fin n' ≃ Fin n) (x : Vector α n) (y : Vector β n)
    : ((relabel e x).toList.zip (relabel e y).toList).Perm (x.toList.zip y.toList) := by
  have paired {n : Nat} (x : Vector α n) (y : Vector β n)
      : x.toList.zip y.toList = (Vector.zipWith Prod.mk x y).toList := by
    rw [Vector.toList_zipWith, List.zip]
  rw [paired, paired, ← relabel_zipWith]
  exact perm_relabel e _

variable {K : Type} [Scalar K]

@[simp] theorem relabel_minus (x y : Vector K n)
    : relabel e (minus x y) = minus (relabel e x) (relabel e y) :=
  relabel_zipWith _ x y

@[simp] theorem relabel_times (x y : Vector K n)
    : relabel e (times x y) = times (relabel e x) (relabel e y) :=
  relabel_zipWith _ x y

@[simp] theorem relabel_quotient (x y : Vector K n)
    : relabel e (quotient x y) = quotient (relabel e x) (relabel e y) :=
  relabel_zipWith _ x y

@[simp] theorem relabel_scale (x : Vector K n) (factor : K)
    : relabel e (scale x factor) = scale (relabel e x) factor :=
  relabel_map _ x

end Vec

-----------------------------------------------------------------------------------------
-- What does not depend on labels
-----------------------------------------------------------------------------------------

section Field

variable {K : Type} [Field K] [LinearOrder K] {m' m n' n : Nat}

omit [Field K] in
/-- A least value does not depend on the order of the values. -/
theorem min?_of_perm {values values' : List K} (perm : values.Perm values')
    : values.min? = values'.min? := by
  refine Option.ext fun least => ?_
  rw [List.min?_eq_some_iff, List.min?_eq_some_iff, perm.mem_iff]
  exact and_congr_right' (forall_congr' fun value => by rw [perm.mem_iff])

namespace Vec

variable {e : Fin n' ≃ Fin n}

@[simp] theorem dot_relabel (x y : Vector K n) : dot (relabel e x) (relabel e y) = dot x y := by
  rw [dot_eq_dotProduct, dot_eq_dotProduct, get_relabel, get_relabel]
  exact comp_equiv_dotProduct_comp_equiv _ _ e

/-- The largest magnitude is the same, as both have the same bounds. -/
@[simp] theorem maxAbs_relabel (x : Vector K n) : maxAbs (relabel e x) = maxAbs x := by
  refine eq_of_forall_ge_iff fun bound => ?_
  rw [maxAbs_le_iff, maxAbs_le_iff, get_relabel]
  exact and_congr_right' (e.forall_congr_left.trans (by simp))

end Vec

-----------------------------------------------------------------------------------------
-- Matrices
-----------------------------------------------------------------------------------------

namespace Dense

variable {rows : Fin m' ≃ Fin m} {cols : Fin n' ≃ Fin n}

/-- The matrix with its rows and columns relabelled. -/
def relabel {α : Type} (rows : Fin m' ≃ Fin m) (cols : Fin n' ≃ Fin n) (a : Dense α m n)
    : Dense α m' n' :=
  Vec.relabel rows (a.map (Vec.relabel cols))

/-- Matrices with the same entries are equal. -/
theorem ext_toMatrix {α : Type} {a b : Dense α m n} (same : a.toMatrix = b.toMatrix) : a = b :=
  Vec.ext_get (funext fun i => Vec.ext_get (congrFun same i))

@[simp] theorem toMatrix_relabel {α : Type} (a : Dense α m n)
    : (relabel rows cols a).toMatrix = a.toMatrix.submatrix rows cols := by
  ext i j
  simp [relabel]

@[simp] theorem transpose_relabel {α : Type} (a : Dense α m n)
    : (relabel rows cols a).transpose = relabel cols rows a.transpose :=
  ext_toMatrix (by simp)

@[simp] theorem mul_relabel (a : Dense K m n) (x : Vector K n)
    : (relabel rows cols a).mul (Vec.relabel cols x) = Vec.relabel rows (a.mul x) := by
  refine Vec.ext_get ?_
  rw [get_mul, toMatrix_relabel, Vec.get_relabel, Vec.get_relabel, get_mul,
    submatrix_mulVec_equiv]
  simp [Function.comp_assoc]

end Dense

end Field

end QuadraticTrials

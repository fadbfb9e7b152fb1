import Mathlib
import QuadraticTrials.Elimination
import QuadraticTrials.Generator
import QuadraticTrials.Proofs.Exact.Instance

/-!
Linear algebra on data of any shape. Vectors are lists and matrices carry their own shape; an
operation compares the shapes of its operands when it is performed, and one that does not fit breaks
the computation down. On data that has sizes in its type no operation breaks down, and each comes to
what the sized operation comes to.
-/

namespace QuadraticTrials

-----------------------------------------------------------------------------------------
-- Computations that may break down
-----------------------------------------------------------------------------------------

/-- A computation of operations that compare the shapes of their operands: the number of those
performed, and what the computation comes to, `none` when the last one performed did not fit.
-/
structure Checked (α : Type) where
  performed : Nat
  value? : Option α

namespace Checked

variable {α β : Type}

/-- One operation, which needs its operands to fit. -/
def perform (fits : Prop) [Decidable fits] (result : fits → α) : Checked α :=
  ⟨1, if holds : fits then some (result holds) else none⟩

/-- One computation after another; nothing follows a breakdown. -/
def andThen (first : Checked α) (next : α → Checked β) : Checked β :=
  match first.value? with
  | none => ⟨first.performed, none⟩
  | some a => ⟨first.performed + (next a).performed, (next a).value?⟩

instance : Monad Checked where
  pure a := ⟨0, some a⟩
  bind := andThen

@[simp] theorem value?_pure (a : α) : (pure a : Checked α).value? = some a :=
  rfl

@[simp] theorem value?_bind (first : Checked α) (next : α → Checked β)
    : (first >>= next).value? = first.value?.bind fun a => (next a).value? := by
  change (andThen first next).value? = _
  rw [andThen]
  cases first.value? <;> rfl

theorem value?_perform {fits : Prop} [Decidable fits] (holds : fits) (result : fits → α)
    : (perform fits result).value? = some (result holds) :=
  dif_pos holds

/-- Computes one entry after another. -/
def collect : (n : Nat) → (Fin n → Checked α) → Checked (Vector α n)
  | 0, _ => pure Vec.empty
  | n + 1, entry => do
      let first ← collect n fun i => entry i.castSucc
      let last ← entry (Fin.last n)
      return first.push last

/-- Entries that can all be computed are collected, by induction on their number. -/
theorem value?_collect {n : Nat} {entry : Fin n → Checked α} {result : Fin n → α}
    (computed : ∀ i, (entry i).value? = some (result i))
    : (collect n entry).value? = some (Vector.ofFn result) := by
  induction n with
  | zero => rfl
  | succ n ih =>
      rw [collect, value?_bind, ih fun i => computed i.castSucc, Option.bind_some, value?_bind,
        computed, Option.bind_some, value?_pure, Vector.ofFn_succ]
      rfl

end Checked

-----------------------------------------------------------------------------------------
-- Sizes taken off
-----------------------------------------------------------------------------------------

theorem Vec.ofList_toList {α : Type} {n : Nat} (x : Vector α n)
    : Vec.ofList x.toList x.length_toList = x :=
  rfl

variable {K : Type}

theorem Grid.toGrid_toDense (grid : Grid K) {m n : Nat} (rows_eq : grid.rows = m)
    (cols_eq : grid.cols = n)
    : (grid.toDense rows_eq cols_eq).toGrid = grid := by
  subst rows_eq cols_eq
  simp [toDense, Dense.toGrid]

theorem Dense.toDense_toGrid {m n : Nat} (a : Dense K m n) (rows_eq : a.toGrid.rows = m)
    (cols_eq : a.toGrid.cols = n)
    : a.toGrid.toDense rows_eq cols_eq = a := by
  simp [Grid.toDense, toGrid]

/-- The entry at a place inside the shape. -/
@[simp] theorem Dense.entry_toGrid [Zero K] {m n : Nat} (a : Dense K m n) (i : Fin m) (j : Fin n)
    : a.toGrid.entry i j = (a.get i).get j :=
  dif_pos ⟨i.isLt, j.isLt⟩

-----------------------------------------------------------------------------------------
-- Blocks of a matrix
-----------------------------------------------------------------------------------------

namespace Dense

variable [Zero K] {m n height width : Nat}

def zeros : Dense K m n :=
  Vector.replicate m (Vector.replicate n 0)

/-- The matrix with another one in place of the entries from a row and a column on. -/
def put (a : Dense K m n) (top left : Nat) (b : Dense K height width) : Dense K m n :=
  Vector.ofFn fun i => Vector.ofFn fun j =>
    if top ≤ i ∧ i < top + height ∧ left ≤ j ∧ j < left + width then
      b.toGrid.entry (i - top) (j - left)
    else a.toGrid.entry i j

theorem get_put (a : Dense K m n) (top left : Nat) (b : Dense K height width) (i : Fin m)
    (j : Fin n)
    : ((a.put top left b).get i).get j
      = if top ≤ i ∧ i < top + height ∧ left ≤ j ∧ j < left + width then
          b.toGrid.entry (i - top) (j - left)
        else (a.get i).get j := by
  rw [put, Vec.get_ofFn, Vec.get_ofFn, entry_toGrid]

/-- A block without entries changes nothing, since it takes no place. -/
theorem put_empty (a : Dense K m n) (top left : Nat) (b : Dense K height width)
    (empty : height = 0 ∨ width = 0)
    : a.put top left b = a := by
  refine Vec.ext_get (funext fun i => Vec.ext_get (funext fun j => ?_))
  rw [get_put, if_neg (by omega)]

end Dense

-----------------------------------------------------------------------------------------
-- Operations
-----------------------------------------------------------------------------------------

namespace Unsized

variable [Scalar K]

/-- Combines the entries at equal places of two vectors of one length. -/
def combine (op : K → K → K) (x y : List K) : Checked (List K) :=
  .perform (x.length = y.length) fun _ => List.zipWith op x y

def plus : List K → List K → Checked (List K) :=
  combine (· + ·)

def minus : List K → List K → Checked (List K) :=
  combine (· - ·)

def times : List K → List K → Checked (List K) :=
  combine (· * ·)

def quotient : List K → List K → Checked (List K) :=
  combine (· / ·)

def negative (x : List K) : List K :=
  x.map (- ·)

def scale (x : List K) (factor : K) : List K :=
  x.map (· * factor)

/-- A list as a vector of its own length. -/
def asVector (x : List K) : Vector K x.length :=
  ⟨x.toArray, List.size_toArray⟩

def dot (x y : List K) : Checked K :=
  .perform (x.length = y.length) fun fits => Vec.dot (Vec.ofList x fits) (asVector y)

/-- The largest magnitude, zero when there is none. -/
def maxAbs (x : List K) : K :=
  x.foldl (fun largest v => Scalar.max largest (Scalar.abs v)) 0

/-- The entry at a place. -/
def entry (x : List K) (i : Nat) : Checked K :=
  .perform (i < x.length) fun inside => x.get ⟨i, inside⟩

/-- The entries from a place on, a given number of them. -/
def slice (x : List K) (start count : Nat) : Checked (List K) :=
  .perform (start + count ≤ x.length) fun _ => (x.drop start).take count

/-- Puts a vector in place of the entries from a place on, a given number of them. -/
def replace (x : List K) (start count : Nat) (y : List K) : Checked (List K) :=
  .perform (start + count ≤ x.length ∧ y.length = count) fun _ =>
    x.take start ++ y ++ x.drop (start + count)

namespace Grid

/-- The matrix of a shape with zeros only. -/
def zeros (rows cols : Nat) : Grid K :=
  ⟨rows, cols, Vector.replicate rows (Vector.replicate cols 0)⟩

def transpose (a : Grid K) : Grid K :=
  a.entries.transpose.toGrid

/-- The matrix with as many columns as something else counts. -/
def withCols {n : Nat} (a : Grid K) (cols : a.cols = n) : Dense K a.rows n :=
  a.entries.map fun row => row.cast cols

/-- The product of a matrix and a vector. -/
def mul (a : Grid K) (x : List K) : Checked (List K) :=
  .perform (a.cols = x.length) fun fits => ((withCols a fits).mul (asVector x)).toList

def product (a b : Grid K) : Checked (Grid K) :=
  .perform (a.cols = b.rows) fun fits => ((withCols a fits).product b.entries).toGrid

def plus (a b : Grid K) : Checked (Grid K) :=
  .perform (a.rows = b.rows ∧ a.cols = b.cols) fun fits =>
    ((a.toDense fits.1 fits.2).plus b.entries).toGrid

/-- The entry at a place. -/
def entry (a : Grid K) (i j : Nat) : Checked K :=
  .perform (i < a.rows ∧ j < a.cols) fun _ => a.entry i j

/-- The matrix of a shape whose entries are computed one by one. -/
def tabulate (rows cols : Nat) (value : Nat → Nat → Checked K) : Checked (Grid K) := do
  let entries ← Checked.collect rows fun i => Checked.collect cols fun j => value i j
  return ⟨rows, cols, entries⟩

/-- Puts a matrix in place of the entries that stand in some rows and columns of another. -/
def replace (a : Grid K) (top left height width : Nat) (b : Grid K) : Checked (Grid K) :=
  .perform
    (top + height ≤ a.rows ∧ left + width ≤ a.cols ∧ b.rows = height ∧ b.cols = width) fun _ =>
      ⟨a.rows, a.cols, Vector.ofFn fun i => Vector.ofFn fun j =>
        if top ≤ i ∧ i < top + height ∧ left ≤ j ∧ j < left + width then
          b.entry (i - top) (j - left)
        else a.entry i j⟩

/-- The solution of `a x = b`, for as many equations as unknowns. -/
def solve? (a : Grid K) (b : List K) : Checked (Option (List K)) :=
  .perform (a.rows = b.length ∧ a.cols = a.rows) fun fits =>
    ((a.toDense fits.1 (fits.2.trans fits.1)).solve? (asVector b)).map Vector.toList

end Grid

-----------------------------------------------------------------------------------------
-- Operations on sized data
-----------------------------------------------------------------------------------------

section Sized

variable {m n k : Nat}

omit [Scalar K] in
@[simp] theorem value?_combine (op : K → K → K) (x y : Vector K n)
    : (combine op x.toList y.toList).value? = some (Vector.zipWith op x y).toList := by
  rw [combine, Checked.value?_perform (by simp), Vector.toList_zipWith]

@[simp] theorem value?_plus (x y : Vector K n)
    : (plus x.toList y.toList).value? = some (x + y).toList :=
  value?_combine _ x y

@[simp] theorem value?_minus (x y : Vector K n)
    : (minus x.toList y.toList).value? = some (Vec.minus x y).toList :=
  value?_combine _ x y

@[simp] theorem value?_times (x y : Vector K n)
    : (times x.toList y.toList).value? = some (Vec.times x y).toList :=
  value?_combine _ x y

@[simp] theorem value?_quotient (x y : Vector K n)
    : (quotient x.toList y.toList).value? = some (Vec.quotient x y).toList :=
  value?_combine _ x y

@[simp] theorem negative_toList (x : Vector K n) : negative x.toList = (-x).toList :=
  Vector.toList_map.symm

@[simp] theorem scale_toList (x : Vector K n) (factor : K)
    : scale x.toList factor = (Vec.scale x factor).toList :=
  Vector.toList_map.symm

@[simp] theorem maxAbs_toList (x : Vector K n) : maxAbs x.toList = Vec.maxAbs x :=
  rfl

/-- Lists of one length stand for vectors of that size. -/
theorem value?_dot_of_length {x y : List K} (xs : x.length = n) (ys : y.length = n)
    : (dot x y).value? = some (Vec.dot (Vec.ofList x xs) (Vec.ofList y ys)) := by
  subst ys
  exact Checked.value?_perform xs _

@[simp] theorem value?_dot (x y : Vector K n)
    : (dot x.toList y.toList).value? = some (Vec.dot x y) :=
  value?_dot_of_length x.length_toList y.length_toList

omit [Scalar K] in
@[simp] theorem value?_entry (x : Vector K n) (i : Fin n)
    : (entry x.toList i).value? = some (x.get i) := by
  rw [entry, Checked.value?_perform (by simp)]
  simp [Vec.get_eq_getElem]

omit [Scalar K] in
/-- The first entries of a joined vector. -/
@[simp] theorem value?_slice_left (x : Vector K (m + n))
    : (slice x.toList 0 m).value? = some (Vec.left x).toList := by
  rw [slice, Checked.value?_perform (by simp)]
  refine congrArg some (List.ext_getElem (by simp) fun i inside within => ?_)
  simp [Vec.left, Vec.get_eq_getElem]

omit [Scalar K] in
/-- The last entries of a joined vector. -/
@[simp] theorem value?_slice_right (x : Vector K (m + n))
    : (slice x.toList m n).value? = some (Vec.right x).toList := by
  rw [slice, Checked.value?_perform (by simp)]
  refine congrArg some (List.ext_getElem (by simp) fun i inside within => ?_)
  simp [Vec.right, Vec.get_eq_getElem]

namespace Grid

omit [Scalar K] in
@[simp] theorem transpose_toGrid (a : Dense K m n) : transpose a.toGrid = a.transpose.toGrid :=
  rfl

/-- Data of fitting shapes stands for data of the sizes that they share. -/
theorem value?_mul_of_shape {a : Grid K} {x : List K} (rows : a.rows = m) (cols : a.cols = n)
    (size : x.length = n)
    : (mul a x).value? = some ((a.toDense rows cols).mul (Vec.ofList x size)).toList := by
  subst rows size
  exact Checked.value?_perform cols _

@[simp] theorem value?_mul (a : Dense K m n) (x : Vector K n)
    : (mul a.toGrid x.toList).value? = some (a.mul x).toList :=
  (value?_mul_of_shape rfl rfl x.length_toList).trans
    (congrArg (fun b : Dense K m n => some (b.mul x).toList) (a.toDense_toGrid rfl rfl))

@[simp] theorem value?_product (a : Dense K m k) (b : Dense K k n)
    : (product a.toGrid b.toGrid).value? = some (a.product b).toGrid :=
  (Checked.value?_perform rfl _).trans
    (congrArg (fun c : Dense K m k => some (c.product b).toGrid) (a.toDense_toGrid rfl rfl))

@[simp] theorem value?_plus (a b : Dense K m n)
    : (plus a.toGrid b.toGrid).value? = some (a.plus b).toGrid :=
  (Checked.value?_perform ⟨rfl, rfl⟩ _).trans
    (congrArg (fun c : Dense K m n => some (c.plus b).toGrid) (a.toDense_toGrid rfl rfl))

@[simp] theorem value?_entry (a : Dense K m n) (i : Fin m) (j : Fin n)
    : (entry a.toGrid i j).value? = some ((a.get i).get j) := by
  rw [entry, Checked.value?_perform ⟨i.isLt, j.isLt⟩, Dense.entry_toGrid]

omit [Scalar K] in
/-- Entries that can all be computed are tabulated, row by row. -/
theorem value?_tabulate {value : Nat → Nat → Checked K} {result : Fin m → Fin n → K}
    (computed : ∀ (i : Fin m) (j : Fin n), (value i j).value? = some (result i j))
    : (tabulate m n value).value?
      = some (Dense.toGrid (Vector.ofFn fun i => Vector.ofFn (result i))) := by
  rw [tabulate, Checked.value?_bind,
    Checked.value?_collect fun i => Checked.value?_collect (computed i)]
  rfl

/-- As many equations as unknowns stand for a system of that size. -/
theorem value?_solve?_of_shape {a : Grid K} {b : List K} (rows : a.rows = n) (cols : a.cols = n)
    (size : b.length = n)
    : (solve? a b).value?
      = some (((a.toDense rows cols).solve? (Vec.ofList b size)).map Vector.toList) := by
  subst size
  exact Checked.value?_perform ⟨rows, cols.trans rows.symm⟩ _

@[simp] theorem value?_solve? (a : Dense K n n) (b : Vector K n)
    : (solve? a.toGrid b.toList).value? = some ((a.solve? b).map Vector.toList) :=
  (value?_solve?_of_shape rfl rfl b.length_toList).trans
    (congrArg (fun c : Dense K n n => some ((c.solve? b).map Vector.toList))
      (a.toDense_toGrid rfl rfl))

theorem zeros_eq_toGrid : zeros m n = (Dense.zeros : Dense K m n).toGrid :=
  rfl

/-- A matrix put in a place that is large enough, entry by entry. -/
theorem value?_replace (a : Dense K m n) {height width top left : Nat} (b : Dense K height width)
    (rows : top + height ≤ m) (cols : left + width ≤ n)
    : (replace a.toGrid top left height width b.toGrid).value? = some (a.put top left b).toGrid :=
  Checked.value?_perform ⟨rows, cols, rfl, rfl⟩ _

end Grid

end Sized

end Unsized

end QuadraticTrials

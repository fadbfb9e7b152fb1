import QuadraticTrials.Dense

/-!
Matrices in compressed columns: the entries that are not zero, column after column, with the row
of each and the place where each column starts.
-/

namespace QuadraticTrials

/-- A matrix in compressed columns. -/
structure Sparse (K : Type) where
  rows : Nat
  cols : Nat
  starts : List Nat
  rowIndices : List Nat
  values : List K

namespace Sparse

variable {K : Type} [Scalar K] {m n : Nat}

/-- The running totals of some counts, from zero on. -/
def runningTotals (total : Nat) : List Nat → List Nat
  | [] => [total]
  | count :: rest => total :: runningTotals (total + count) rest

/-- The stored form of columns given as entries with their rows. -/
def ofColumns (rows : Nat) (columns : List (List (Nat × K))) : Sparse K where
  rows
  cols := columns.length
  starts := runningTotals 0 (columns.map List.length)
  rowIndices := columns.flatten.map Prod.fst
  values := columns.flatten.map Prod.snd

/-- The entries of a column that are not zero, down to a given number of rows. -/
def columnEntries (a : Dense K m n) (depth : Nat) (j : Fin n) : List (Nat × K) :=
  (((List.finRange m).filter (·.val < depth)).map fun i => (i.val, (a.get i).get j)).filter
    fun (_, value) => !Scalar.isZero value

/-- The compressed form of a matrix. -/
def ofDense (a : Dense K m n) : Sparse K :=
  ofColumns m ((List.finRange n).map (columnEntries a m))

/-- The compressed form of the part of a matrix on and above the diagonal. -/
def ofUpper (a : Dense K m n) : Sparse K :=
  ofColumns m ((List.finRange n).map fun j => columnEntries a (j.val + 1) j)

def column (a : Sparse K) (j : Nat) : List (Nat × K) :=
  let first := a.starts.getD j 0
  let last := a.starts.getD (j + 1) 0
  ((a.rowIndices.zip a.values).drop first).take (last - first)

/-- An entry, zero when it is not stored. -/
def entry (a : Sparse K) (i j : Nat) : K :=
  ((a.column j).lookup i).getD 0

/-- The matrix that is stored, at given sizes. -/
def decode (a : Sparse K) (m n : Nat) : Dense K m n :=
  Vector.ofFn fun i => Vector.ofFn fun j => a.entry i j

end Sparse

end QuadraticTrials

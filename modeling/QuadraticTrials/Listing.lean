import QuadraticTrials.Json.Decoding
import QuadraticTrials.Program

/-!
An instance written out row by row, the form in which reports show it.
-/

namespace QuadraticTrials

/-- An instance as lists of rows. -/
structure Listing (K : Type) where
  P : List (List K)
  q : List K
  A : Option (List (List K))
  b : Option (List K)
  Aeq : Option (List (List K))
  bEq : Option (List K)

def Instance.listing {K : Type} (inst : Instance K) : Listing K where
  P := inst.cost.toLists
  q := inst.linear
  A := inst.inequality.map fun block => block.matrix.toLists
  b := inst.inequality.map Block.rhs
  Aeq := inst.equality.map fun block => block.matrix.toLists
  bEq := inst.equality.map Block.rhs

namespace Listing

variable {K : Type}

/-- The keys in their stored order. -/
def keys : List String :=
  ["P", "q", "A", "b", "A_eq", "b_eq"]

/-- A matrix as a list of its rows. -/
def rowsJson (rows : List (List K)) : Json K :=
  .array (rows.map .numbers)

/-- The fields in their stored order. -/
def fields (l : Listing K) : List (String × Json K) :=
  keys.zip [rowsJson l.P, .numbers l.q, .optional rowsJson l.A, .optional .numbers l.b,
    .optional rowsJson l.Aeq, .optional .numbers l.bEq]

def toJson (l : Listing K) : Json K :=
  .object l.fields

/-- The stored form with its keys in order, as a value among others. -/
def toValue (l : Listing K) : Json K :=
  .ofFields l.fields

def ofTree? [NumberText K] (tree : Tree) : Option (Listing K) := do
  let fields ← tree.record? keys
  let row? := Tree.list? (α := K) Tree.number?
  let P ← Tree.required? fields "P" (Tree.list? row?)
  let q ← Tree.required? fields "q" row?
  let A ← Tree.nullable? fields "A" (Tree.list? row?)
  let b ← Tree.nullable? fields "b" row?
  let Aeq ← Tree.nullable? fields "A_eq" (Tree.list? row?)
  let bEq ← Tree.nullable? fields "b_eq" row?
  some { P, q, A, b, Aeq, bEq }

end Listing

/-- The value that stands for an instance in reports. -/
def Instance.toValue {K : Type} (inst : Instance K) : Json K :=
  inst.listing.toValue

end QuadraticTrials

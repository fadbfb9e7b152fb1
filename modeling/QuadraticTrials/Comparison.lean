import QuadraticTrials.Json.Decoding
import QuadraticTrials.Scalar

/-!
Coordinate-wise comparison of two solutions within an absolute tolerance.
-/

namespace QuadraticTrials

/-- What a comparison finds. -/
inductive Comparison (K : Type)
  | equivalent
  | dimensionMismatch (reference candidate : Nat)
  | mismatch (index : Nat) (difference : K)

namespace Comparison

variable {K : Type}

/-- Whether the two sides agree. -/
def isEquivalent : Comparison K → Bool
  | equivalent => true
  | _ => false

def toJson : Comparison K → Json K
  | equivalent => .text "Equivalent"
  | dimensionMismatch reference candidate =>
      .object [("DimensionMismatch",
        .object [("reference", .count reference), ("candidate", .count candidate)])]
  | mismatch index difference =>
      .object [("Mismatch",
        .object [("index", .count index), ("difference", .number difference)])]

def ofTree? [NumberText K] (tree : Tree) : Option (Comparison K) := do
  match ← tree.choice? with
  | ("Equivalent", content) => if Tree.isEmptyContent content then some equivalent else none
  | ("DimensionMismatch", some content) =>
      let fields ← content.record? ["reference", "candidate"]
      let reference ← Tree.required? fields "reference" Tree.nat?
      let candidate ← Tree.required? fields "candidate" Tree.nat?
      some (dimensionMismatch reference candidate)
  | ("Mismatch", some content) =>
      let fields ← content.record? ["index", "difference"]
      let index ← Tree.required? fields "index" Tree.nat?
      let difference ← Tree.required? fields "difference" Tree.number?
      some (mismatch index difference)
  | _ => none

variable [Scalar K]

/-- The tolerance unless another is chosen. -/
def defaultTolerance : K := 1

/-- The first difference that is not within the tolerance, with its place; an undefined
difference is not.
-/
def firstOutside (tolerance : K) (index : Nat) : List K → Option (Nat × K)
  | [] => none
  | difference :: rest =>
      if difference ≤ tolerance then firstOutside tolerance (index + 1) rest
      else some (index, difference)

/-- The distances of equal coordinates. -/
def distances (reference candidate : List K) : List K :=
  List.zipWith (fun r c => Scalar.abs (r - c)) reference candidate

/-- Compares two vectors up to the first coordinate out of tolerance. -/
def check (tolerance : K) (reference candidate : List K) : Comparison K :=
  if reference.length ≠ candidate.length then
    .dimensionMismatch reference.length candidate.length
  else
    match firstOutside tolerance 0 (distances reference candidate) with
    | none => .equivalent
    | some (index, difference) => .mismatch index difference

/-- Whether two vectors agree within a tolerance. -/
def compare (tolerance : K) (reference candidate : List K) : Bool :=
  (check tolerance reference candidate).isEquivalent

end Comparison

end QuadraticTrials

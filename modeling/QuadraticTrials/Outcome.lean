import QuadraticTrials.Comparison

/-!
How one trial ended, in words and in its stored form.
-/

namespace QuadraticTrials

/-- The side that a solver plays. -/
inductive Role
  | reference
  | candidate
  deriving DecidableEq, Repr

namespace Role

def name : Role → String
  | reference => "reference"
  | candidate => "candidate"

def ofTree? (tree : Tree) : Option Role :=
  tree.name?.bind fun name => [reference, candidate].find? (·.name == name)

end Role

/-- How a trial ended. -/
inductive Outcome (K : Type)
  | passed
  | equivalenceMismatch (index : Nat) (difference : K)
  | dimensionMismatch (reference candidate : Nat)
  | solverFailure (role : Role) (reason : String)

namespace Outcome

variable {K : Type}

def isPassed : Outcome K → Bool
  | passed => true
  | _ => false

/-- The outcome of a trial in which both solvers found an optimum. -/
def ofComparison : Comparison K → Outcome K
  | .equivalent => passed
  | .mismatch index difference => equivalenceMismatch index difference
  | .dimensionMismatch reference candidate => dimensionMismatch reference candidate

def kind : Outcome K → String
  | passed => "passed"
  | equivalenceMismatch .. => "equivalence_mismatch"
  | dimensionMismatch .. => "dimension_mismatch"
  | solverFailure .. => "solver_failure"

/-- The particulars of an outcome. -/
def details : Outcome K → List (String × Json K)
  | passed => []
  | equivalenceMismatch index difference =>
      [("index", .count index), ("difference", .number difference)]
  | dimensionMismatch reference candidate =>
      [("reference", .count reference), ("candidate", .count candidate)]
  | solverFailure role reason => [("role", .text role.name), ("reason", .text reason)]

def toJson (o : Outcome K) : Json K :=
  .object (("kind", .text o.kind) :: o.details)

section Text

variable [NumberText K]

def describe : Outcome K → String
  | passed => "passed"
  | equivalenceMismatch index difference =>
      "x[" ++ toString index ++ "] differs by " ++ NumberText.scientific 6 difference
  | dimensionMismatch reference candidate =>
      "dimension mismatch: reference has " ++ toString reference ++ " entries, candidate has "
        ++ toString candidate
  | solverFailure role reason => role.name ++ " solver failed: " ++ reason

/-- The outcome of a kind with given particulars. -/
def ofDetails? (kind : String) (content : Tree) : Option (Outcome K) := do
  match kind with
  | "passed" =>
      let _ ← content.record? []
      some passed
  | "equivalence_mismatch" =>
      let fields ← content.record? ["index", "difference"]
      let index ← Tree.required? fields "index" Tree.nat?
      let difference ← Tree.required? fields "difference" Tree.number?
      some (equivalenceMismatch index difference)
  | "dimension_mismatch" =>
      let fields ← content.record? ["reference", "candidate"]
      let reference ← Tree.required? fields "reference" Tree.nat?
      let candidate ← Tree.required? fields "candidate" Tree.nat?
      some (dimensionMismatch reference candidate)
  | "solver_failure" =>
      let fields ← content.record? ["role", "reason"]
      let role ← Tree.required? fields "role" Role.ofTree?
      let reason ← Tree.required? fields "reason" Tree.text?
      some (solverFailure role reason)
  | _ => none

/-- Reads a stored outcome. Its kind may come anywhere, so everything else is read in full first,
fields that are not known included.
-/
def ofTree? (tree : Tree) : Option (Outcome K) := do
  let (kind, content) ← tree.tagged? K "kind"
  let kind ← kind.text?
  ofDetails? kind content

end Text

end Outcome

end QuadraticTrials

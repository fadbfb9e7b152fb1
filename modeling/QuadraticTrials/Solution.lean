import QuadraticTrials.Json.Decoding

/-!
What a solver is asked and what it answers, with their stored forms.
-/

namespace QuadraticTrials

/-- How a solve ended. -/
inductive Status
  | optimal
  | primalInfeasible
  | dualInfeasible
  | maxIterations
  | numericalError
  | unsolved
  deriving DecidableEq, Repr

/-- The answer of a solver. -/
structure Solution (K : Type) where
  x : List K
  status : Status
  objective : K
  iterations : Nat

/-- What a caller may ask of a solver beyond the instance. -/
structure Options (K : Type) where
  showProgress : Bool
  tolerance : Option K
  maxIterations : Option Nat

namespace Status

def all : List Status :=
  [optimal, primalInfeasible, dualInfeasible, maxIterations, numericalError, unsolved]

def name : Status → String
  | optimal => "Optimal"
  | primalInfeasible => "PrimalInfeasible"
  | dualInfeasible => "DualInfeasible"
  | maxIterations => "MaxIterations"
  | numericalError => "NumericalError"
  | unsolved => "Unsolved"

def ofName? (name : String) : Option Status :=
  all.find? (·.name == name)

def ofTree? (tree : Tree) : Option Status :=
  tree.name?.bind ofName?

end Status

namespace Solution

variable {K : Type}

def isOptimal (s : Solution K) : Bool :=
  s.status == .optimal

def toJson (s : Solution K) : Json K :=
  .object [("x", .numbers s.x), ("status", .text s.status.name),
    ("objective", .number s.objective), ("iterations", .count s.iterations)]

def ofTree? [NumberText K] (tree : Tree) : Option (Solution K) := do
  let fields ← tree.record? ["x", "status", "objective", "iterations"]
  let x ← Tree.required? fields "x" (Tree.list? Tree.number?)
  let status ← Tree.required? fields "status" Status.ofTree?
  let objective ← Tree.required? fields "objective" Tree.number?
  let iterations ← Tree.required? fields "iterations" Tree.nat?
  some { x, status, objective, iterations }

end Solution

namespace Options

variable {K : Type}

/-- No output, and the solver's own settings. -/
def quiet : Options K :=
  ⟨false, none, none⟩

/-- The solver's own settings, with or without output. -/
def withProgress (showProgress : Bool) : Options K :=
  { quiet with showProgress }

def toJson (o : Options K) : Json K :=
  .object [("show_progress", .bool o.showProgress),
    ("tolerance", .optional .number o.tolerance),
    ("max_iterations", .optional .count o.maxIterations)]

def ofTree? [NumberText K] (tree : Tree) : Option (Options K) := do
  let fields ← tree.record? ["show_progress", "tolerance", "max_iterations"]
  let showProgress ← Tree.required? fields "show_progress" Tree.bool?
  let tolerance ← Tree.nullable? fields "tolerance" Tree.number?
  let maxIterations ← Tree.nullable? fields "max_iterations" Tree.nat32?
  some { showProgress, tolerance, maxIterations }

end Options

end QuadraticTrials

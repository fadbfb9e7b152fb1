import QuadraticTrials.Digest
import QuadraticTrials.Json.Decoding

/-!
The report of one trial: its inputs with their digest, the outputs and a verdict.
-/

namespace QuadraticTrials

/-- The verdict of a report. -/
inductive Verdict
  | passed
  | failed (reason : String)
  deriving DecidableEq, Repr

/-- A report. -/
structure Report (K : Type) where
  trial : Nat
  costScale : K
  inputHash : String
  verdict : Verdict
  inputs : Json K
  outputs : Json K

namespace Verdict

def isPassed : Verdict → Bool
  | passed => true
  | failed _ => false

variable {K : Type}

def toJson : Verdict → Json K
  | passed => .object [("verdict", .text "passed")]
  | failed reason => .object [("verdict", .text "failed"), ("detail", .text reason)]

/-- Reads a stored verdict. A passed one has no detail, or null. -/
def ofTree? (tree : Tree) : Option Verdict := do
  let fields ← tree.record? ["verdict", "detail"]
  match ← Tree.required? fields "verdict" Tree.name? with
  | "passed" =>
      if Tree.isEmptyContent (fields.lookup "detail") then some passed else none
  | "failed" => (Tree.required? fields "detail" Tree.text?).map failed
  | _ => none

end Verdict

namespace Report

variable {K : Type} [NumberText K]

def digest (inputs : Json K) : String :=
  Digest.sha256 inputs.compact

def make (trial : Nat) (costScale : K) (inputs outputs : Json K) (verdict : Verdict) : Report K :=
  ⟨trial, costScale, digest inputs, verdict, inputs, outputs⟩

omit [NumberText K] in
def toJson (r : Report K) : Json K :=
  .object [("trial", .count r.trial), ("cost_scale", .number r.costScale),
    ("input_hash", .text r.inputHash), ("verdict", r.verdict.toJson),
    ("report_data", .object [("inputs", r.inputs), ("outputs", r.outputs)])]

/-- Reads a stored report. The inputs and outputs stand inside two objects. -/
def ofTree? (tree : Tree) : Option (Report K) := do
  let fields ← tree.record? ["trial", "cost_scale", "input_hash", "verdict", "report_data"]
  let trial ← Tree.required? fields "trial" Tree.nat?
  let costScale ← Tree.required? fields "cost_scale" Tree.number?
  let inputHash ← Tree.required? fields "input_hash" Tree.text?
  let verdict ← Tree.required? fields "verdict" Verdict.ofTree?
  let data ← Tree.required? fields "report_data" (Tree.record? ["inputs", "outputs"])
  let inputs ← Tree.required? data "inputs" (Json.ofTree? (Tree.maxDepth - 2))
  let outputs ← Tree.required? data "outputs" (Json.ofTree? (Tree.maxDepth - 2))
  some { trial, costScale, inputHash, verdict, inputs, outputs }

end Report

end QuadraticTrials

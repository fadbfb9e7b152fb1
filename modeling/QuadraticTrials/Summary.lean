import QuadraticTrials.Config
import QuadraticTrials.Outcome

/-!
The accounts of a sweep: counters of trials by outcome, the verdict they lead to, and how far the
sweep has come.
-/

namespace QuadraticTrials

/-- Counters of a sweep. -/
structure Summary where
  totalTrials : Nat
  failedTrials : Nat
  solverFailures : Nat
  dimensionMismatches : Nat
  equivalenceMismatches : Nat
  seed : Option UInt64
  deriving DecidableEq, Repr

/-- The verdict of a sweep. -/
inductive ExitStatus
  | success
  | failure (failed : Nat)
  deriving DecidableEq, Repr

/-- How far a sweep has come. -/
inductive Progress
  | running (completed : Nat)
  | done
  deriving DecidableEq, Repr

namespace ExitStatus

def code : ExitStatus → Nat
  | success => 0
  | failure _ => 1

variable {K : Type}

def toJson : ExitStatus → Json K
  | success => .text "Success"
  | failure failed => .object [("Failure", .object [("failed", .count failed)])]

def ofTree? (tree : Tree) : Option ExitStatus := do
  match ← tree.choice? with
  | ("Success", content) => if Tree.isEmptyContent content then some success else none
  | ("Failure", some content) =>
      let fields ← content.record? ["failed"]
      let failed ← Tree.required? fields "failed" Tree.nat?
      some (failure failed)
  | _ => none

end ExitStatus

namespace Progress

/-- The progress after a number of trials. -/
def after (completed total : Nat) : Progress :=
  if total ≤ completed then done else running completed

/-- The progress before the first trial. -/
def start (total : Nat) : Progress :=
  after 0 total

def advance (p : Progress) (total : Nat) : Progress :=
  match p with
  | running completed => after (completed + 1) total
  | done => done

def describe : Progress → String
  | running completed => "Running \x7b completed: " ++ toString completed ++ " \x7d"
  | done => "Done"

end Progress

namespace Summary

def empty (seed : Option UInt64) : Summary :=
  ⟨0, 0, 0, 0, 0, seed⟩

variable {K : Type}

/-- Counts one more trial. -/
def record (s : Summary) (outcome : Outcome K) : Summary :=
  let s := { s with totalTrials := s.totalTrials + 1 }
  match outcome with
  | .passed => s
  | .equivalenceMismatch .. =>
      { s with
        equivalenceMismatches := s.equivalenceMismatches + 1
        failedTrials := s.failedTrials + 1 }
  | .dimensionMismatch .. =>
      { s with
        dimensionMismatches := s.dimensionMismatches + 1
        failedTrials := s.failedTrials + 1 }
  | .solverFailure .. =>
      { s with
        solverFailures := s.solverFailures + 1
        failedTrials := s.failedTrials + 1 }

/-- The counters with their keys, in stored order. -/
def counters (s : Summary) : List (String × Nat) :=
  [("total_trials", s.totalTrials), ("failed_trials", s.failedTrials),
    ("solver_failures", s.solverFailures), ("dimension_mismatches", s.dimensionMismatches),
    ("equivalence_mismatches", s.equivalenceMismatches)]

/-- Counts one more trial, unless a counter leaves its range. -/
def record? (s : Summary) (outcome : Outcome K) : Option Summary :=
  let next := s.record outcome
  if next.counters.all (·.2 < wordBound) then some next else none

def isPassed (s : Summary) : Bool :=
  s.failedTrials == 0

def exitStatus (s : Summary) : ExitStatus :=
  if s.isPassed then .success else .failure s.failedTrials

def toJson (s : Summary) : Json K :=
  .object ((s.counters.map fun (key, n) => (key, .count n))
    ++ [("seed", .optional (fun seed => .count seed.toNat) s.seed)])

def ofTree? (tree : Tree) : Option Summary := do
  let fields ← tree.record? (((empty none).counters.map Prod.fst) ++ ["seed"])
  let totalTrials ← Tree.required? fields "total_trials" Tree.nat?
  let failedTrials ← Tree.required? fields "failed_trials" Tree.nat?
  let solverFailures ← Tree.required? fields "solver_failures" Tree.nat?
  let dimensionMismatches ← Tree.required? fields "dimension_mismatches" Tree.nat?
  let equivalenceMismatches ← Tree.required? fields "equivalence_mismatches" Tree.nat?
  let seed ← Tree.nullable? fields "seed" Tree.nat?
  some {
    totalTrials, failedTrials, solverFailures, dimensionMismatches, equivalenceMismatches,
    seed := seed.map UInt64.ofNat
  }

end Summary

end QuadraticTrials

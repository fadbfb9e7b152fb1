import QuadraticTrials.Config
import QuadraticTrials.Generator
import QuadraticTrials.Listing
import QuadraticTrials.Report
import QuadraticTrials.Reporter.Basic
import QuadraticTrials.Solver.Deadline
import QuadraticTrials.Solver.Parallel

/-!
One trial: both solvers answer on one instance, and their answers are judged.
-/

namespace QuadraticTrials

/-- A trial that was carried out. -/
structure Trial (K : Type) where
  index : Nat
  costScale : K
  inst : Instance K
  reference : Option (Solution K)
  candidate : Option (Solution K)
  outcome : Outcome K
  lines : List String

/-- Two solvers with a configuration, and the order in which parallel workers move in each
trial.
-/
structure Tester (K σ τ : Type) where
  solvers : Solvers K σ τ
  config : Config K
  interleaving : Nat → List Role

namespace Trial

variable {K : Type}

/-- The point of an answer, or null. -/
def point (solution? : Option (Solution K)) : Json K :=
  .optional (fun solution => .numbers solution.x) solution?

/-- What a report shows of the answers. -/
def outputs (t : Trial K) : Json K :=
  .ofFields [("reference", point t.reference), ("candidate", point t.candidate),
    ("outcome", .ofFields (("kind", .text t.outcome.kind) :: t.outcome.details))]

variable [NumberText K]

def verdict (t : Trial K) : Verdict :=
  if t.outcome.isPassed then .passed else .failed t.outcome.describe

def report (t : Trial K) : Report K :=
  .make t.index t.costScale t.inst.toValue t.outputs t.verdict

omit [NumberText K] in
/-- The failure of a side that found no optimum. -/
def unsolved (role : Role) (solution : Solution K) : Outcome K :=
  .solverFailure role
    ("status " ++ solution.status.name ++ " after " ++ toString solution.iterations
      ++ " iterations")

omit [NumberText K] in
/-- Judges two results: errors first, then missing optima, then the distance of the points; the
reference before the candidate.
-/
def judge [Scalar K] (tolerance : K) (reference candidate : Except Error (Solution K))
    : Outcome K :=
  match reference, candidate with
  | .error e, _ => .solverFailure .reference e.message
  | _, .error e => .solverFailure .candidate e.message
  | .ok r, .ok c =>
      if !r.isOptimal then unsolved .reference r
      else if !c.isOptimal then unsolved .candidate c
      else .ofComparison (Comparison.check tolerance r.x c.x)

end Trial

namespace Tester

variable {K σ τ : Type} [Scalar K] [NumberText K]

/-- A tester under an accepted configuration; a time limit applies to both solvers. -/
def make (reference : Solver K σ) (candidate : Solver K τ) (config : Config K)
    (interleaving : Nat → List Role)
    : Except Error (Tester K σ τ) :=
  match config.validate with
  | .error e => .error e
  | .ok () =>
      let solvers : Solvers K σ τ :=
        match config.solveTimeoutMs with
        | none => ⟨reference, candidate⟩
        | some limit => ⟨reference.timed limit, candidate.timed limit⟩
      .ok ⟨solvers, config, interleaving⟩

omit [Scalar K] [NumberText K] in
def options (t : Tester K σ τ) : Options K :=
  .withProgress t.config.showProgress

omit [NumberText K] in
/-- The generator of a sweep; without a seed in the configuration, `entropy` is the seed. -/
def generator (t : Tester K σ τ) (entropy : UInt64) : Generator K :=
  .ofSeed (t.config.seed.getD entropy) t.config.equalityProbability

omit [Scalar K] [NumberText K] in
/-- Both calls on an instance, `none` when one breaks down with nobody to notice. -/
def solveBoth (t : Tester K σ τ) (index : Nat) (inst : Instance K) (reference : σ)
    (candidate : τ)
    : Option (Solved K σ τ) :=
  if t.config.parallelSolves then
    some (t.solvers.solveParallel (t.interleaving index) inst t.options reference candidate)
  else t.solvers.solveInTurn inst t.options reference candidate

omit [NumberText K] in
/-- Carries out a trial on an instance, with the states of the solvers after it. -/
def evaluate (t : Tester K σ τ) (index : Nat) (costScale : K) (inst : Instance K)
    (reference : σ) (candidate : τ)
    : Option (Trial K × σ × τ) :=
  (t.solveBoth index inst reference candidate).map fun solved =>
    ({
      index
      costScale
      inst
      reference := solved.reference.toOption
      candidate := solved.candidate.toOption
      outcome := Trial.judge t.config.tolerance solved.reference solved.candidate
      lines := solved.lines
    }, solved.referenceState, solved.candidateState)

end Tester

end QuadraticTrials

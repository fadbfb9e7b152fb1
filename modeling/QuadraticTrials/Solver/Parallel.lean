import QuadraticTrials.Outcome
import QuadraticTrials.Solver.Basic

/-!
Two solvers at work on one instance, one after the other or side by side. Side by side each has a
worker with its own state, and a schedule says which worker moves; both are waited for at the end.
-/

namespace QuadraticTrials

/-- A worker with one call to make. -/
inductive Worker (K σ : Type)
  | waiting (state : σ)
  | done (call : Call K) (state : σ)

namespace Worker

variable {K σ : Type}

/-- Makes the call, unless it is made. -/
def work (solver : Solver K σ) (inst : Instance K) (options : Options K)
    : Worker K σ → Worker K σ
  | waiting state =>
      let (call, state) := solver.call inst options state
      done call state
  | done call state => done call state

def join (solver : Solver K σ) (inst : Instance K) (options : Options K)
    : Worker K σ → Call K × σ
  | waiting state => solver.call inst options state
  | done call state => (call, state)

end Worker

/-- What the two calls on one instance give. -/
structure Solved (K σ τ : Type) where
  reference : Except Error (Solution K)
  candidate : Except Error (Solution K)
  lines : List String
  referenceState : σ
  candidateState : τ

/-- Both solvers of a comparison. -/
structure Solvers (K σ τ : Type) where
  reference : Solver K σ
  candidate : Solver K τ

namespace Solvers

variable {K σ τ : Type}

/-- The result of a worker that was waited for; one that broke down counts as a failure. -/
def joined (name : String) : Reply K → Except Error (Solution K)
  | .returned result => result
  | .crashed => .error (.solverFailure name "solver thread panicked")

/-- Lets the worker of one side move. -/
def move (pair : Solvers K σ τ) (inst : Instance K) (options : Options K)
    (workers : Worker K σ × Worker K τ)
    : Role → Worker K σ × Worker K τ
  | .reference => (workers.1.work pair.reference inst options, workers.2)
  | .candidate => (workers.1, workers.2.work pair.candidate inst options)

/-- Both calls side by side under a schedule. -/
def solveParallel (pair : Solvers K σ τ) (schedule : List Role) (inst : Instance K)
    (options : Options K) (referenceState : σ) (candidateState : τ)
    : Solved K σ τ :=
  let workers :=
    schedule.foldl (pair.move inst options) (.waiting referenceState, .waiting candidateState)
  let (first, referenceState) := workers.1.join pair.reference inst options
  let (second, candidateState) := workers.2.join pair.candidate inst options
  {
    reference := joined pair.reference.name first.reply
    candidate := joined pair.candidate.name second.reply
    lines := first.lines ++ second.lines
    referenceState
    candidateState
  }

/-- Both calls one after the other; a call that breaks down ends everything. -/
def solveInTurn (pair : Solvers K σ τ) (inst : Instance K) (options : Options K)
    (referenceState : σ) (candidateState : τ)
    : Option (Solved K σ τ) :=
  let (first, referenceState) := pair.reference.call inst options referenceState
  match first.reply with
  | .crashed => none
  | .returned reference =>
      let (second, candidateState) := pair.candidate.call inst options candidateState
      match second.reply with
      | .crashed => none
      | .returned candidate =>
          some {
            reference
            candidate
            lines := first.lines ++ second.lines
            referenceState
            candidateState
          }

end Solvers

end QuadraticTrials

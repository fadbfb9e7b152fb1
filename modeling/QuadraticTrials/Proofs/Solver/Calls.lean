import Mathlib
import QuadraticTrials.Proofs.Sweep.Transcript

/-!
Calls to the solvers. A trial calls each of its solvers once, on its own instance, whether the calls
are made in turn or side by side; a log of the calls takes note of that.
-/

namespace QuadraticTrials

-----------------------------------------------------------------------------------------
-- Solvers that answer
-----------------------------------------------------------------------------------------

namespace Solver

variable {K σ : Type} {solver : Solver K σ} {start state : σ}

/-- The states that calls can lead a solver to. -/
inductive Reaches (solver : Solver K σ) (start : σ) : σ → Prop
  | start : solver.Reaches start start
  | call {state : σ} (reached : solver.Reaches start state) (inst : Instance K)
      (options : Options K)
    : solver.Reaches start (solver.call inst options state).2

/-- A solver answers every call it can come to, whatever the answers are. -/
def Answers (solver : Solver K σ) (start : σ) : Prop :=
  ∀ state,
    solver.Reaches start state →
      ∀ inst options, ∃ result, (solver.call inst options state).1.reply = .returned result

/-- A solver that stays answering under an invariant answers every call. -/
theorem answers_of_invariant (invariant : σ → Prop) (holds : invariant start)
    (kept
      : ∀ state,
          invariant state →
            ∀ inst options,
              (∃ result, (solver.call inst options state).1.reply = .returned result)
                ∧ invariant (solver.call inst options state).2)
    : solver.Answers start := by
  intro state reached
  have reachable : invariant state := by
    induction reached with
    | start => exact holds
    | call reached inst options ih => exact (kept _ ih inst options).2
  exact fun inst options => (kept state reachable inst options).1

theorem answers_timed (solver : Solver K σ) (limit : Nat) (start : σ)
    : (solver.timed limit).Answers start :=
  fun _ _ _ _ => ⟨_, rfl⟩

-----------------------------------------------------------------------------------------
-- Solvers with a log
-----------------------------------------------------------------------------------------

/-- The state of a solver together with the instances it was called on. -/
structure Logged (K σ : Type) where
  state : σ
  calls : List (Instance K)

/-- The solver that takes note of its calls. -/
def logged (solver : Solver K σ) : Solver K (Logged K σ) where
  name := solver.name
  call inst options log :=
    let (call, state) := solver.call inst options log.state
    (call, ⟨state, log.calls ++ [inst]⟩)

end Solver

-----------------------------------------------------------------------------------------
-- Calls side by side
-----------------------------------------------------------------------------------------

theorem Worker.join_work {K σ : Type} (solver : Solver K σ) (inst : Instance K)
    (options : Options K) (worker : Worker K σ)
    : (worker.work solver inst options).join solver inst options
      = worker.join solver inst options := by
  cases worker <;> rfl

namespace Solvers

variable {K σ τ : Type} (pair : Solvers K σ τ) (inst : Instance K) (options : Options K)

/-- No schedule changes what the workers give, by induction on it. -/
theorem join_moves (schedule : List Role) (workers : Worker K σ × Worker K τ)
    : (schedule.foldl (pair.move inst options) workers).1.join pair.reference inst options
          = workers.1.join pair.reference inst options
        ∧ (schedule.foldl (pair.move inst options) workers).2.join pair.candidate inst options
          = workers.2.join pair.candidate inst options := by
  induction schedule generalizing workers with
  | nil => exact ⟨rfl, rfl⟩
  | cons role rest ih =>
      obtain ⟨first, second⟩ := ih (pair.move inst options workers role)
      rw [List.foldl_cons, first, second]
      cases role with
      | reference => exact ⟨Worker.join_work _ _ _ _, rfl⟩
      | candidate => exact ⟨rfl, Worker.join_work _ _ _ _⟩

/-- Side by side, each solver is called once, whatever the schedule. -/
theorem solveParallel_eq (schedule : List Role) (referenceState : σ) (candidateState : τ)
    : pair.solveParallel schedule inst options referenceState candidateState
      = {
        reference :=
          joined pair.reference.name (pair.reference.call inst options referenceState).1.reply
        candidate :=
          joined pair.candidate.name (pair.candidate.call inst options candidateState).1.reply
        lines :=
          (pair.reference.call inst options referenceState).1.lines
            ++ (pair.candidate.call inst options candidateState).1.lines
        referenceState := (pair.reference.call inst options referenceState).2
        candidateState := (pair.candidate.call inst options candidateState).2
      } := by
  obtain ⟨first, second⟩ :=
    pair.join_moves inst options schedule (.waiting referenceState, .waiting candidateState)
  simp only [solveParallel, first, second]
  rfl

def logged (pair : Solvers K σ τ) : Solvers K (Solver.Logged K σ) (Solver.Logged K τ) :=
  ⟨pair.reference.logged, pair.candidate.logged⟩

end Solvers

-----------------------------------------------------------------------------------------
-- Calls of a trial
-----------------------------------------------------------------------------------------

namespace Tester

variable {K σ τ : Type} [Scalar K] {t : Tester K σ τ}

omit [Scalar K] in
/-- The tester whose solvers take note of their calls. -/
def logged (t : Tester K σ τ) : Tester K (Solver.Logged K σ) (Solver.Logged K τ) :=
  ⟨t.solvers.logged, t.config, t.interleaving⟩

theorem make_logged [NumberText K] {first : Solver K σ} {second : Solver K τ} {config : Config K}
    {interleaving : Nat → List Role}
    (made : Tester.make first second config interleaving = .ok t)
    : Tester.make first.logged second.logged config interleaving = .ok t.logged := by
  unfold make at made ⊢
  split at made
  · cases made
  cases made
  cases config.solveTimeoutMs <;> rfl

/-- A trial calls each solver once, on its own instance. -/
theorem evaluate_logged (index : Nat) (scale : K) (inst : Instance K)
    (reference : Solver.Logged K σ) (candidate : Solver.Logged K τ)
    : t.logged.evaluate index scale inst reference candidate
      = (t.evaluate index scale inst reference.state candidate.state).map
          fun (trial, first, second) =>
            (trial, ⟨first, reference.calls ++ [inst]⟩, ⟨second, candidate.calls ++ [inst]⟩) := by
  have same : t.logged.config = t.config := rfl
  rw [evaluate, evaluate, solveBoth, solveBoth, same]
  cases t.config.parallelSolves with
  | true =>
      simp only [if_true, Solvers.solveParallel_eq]
      rfl
  | false =>
      simp only [Bool.false_eq_true, if_false, Solvers.solveInTurn, logged, Solvers.logged,
        Solver.logged, options]
      split
      case h_1 => rfl
      case h_2 => split <;> rfl

omit [Scalar K] in
/-- Two calls that return give their results to a trial, in turn or side by side. -/
theorem solveBoth_of_returned {reference : σ} {candidate : τ} {inst : Instance K}
    {r c : Except Error (Solution K)}
    (returned
      : (t.solvers.reference.call inst t.options reference).1.reply = .returned r)
    (returned'
      : (t.solvers.candidate.call inst t.options candidate).1.reply = .returned c)
    (index : Nat)
    : t.solveBoth index inst reference candidate
      = some {
        reference := r
        candidate := c
        lines :=
          (t.solvers.reference.call inst t.options reference).1.lines
            ++ (t.solvers.candidate.call inst t.options candidate).1.lines
        referenceState := (t.solvers.reference.call inst t.options reference).2
        candidateState := (t.solvers.candidate.call inst t.options candidate).2
      } := by
  unfold solveBoth
  split
  case isTrue parallel =>
    rw [Solvers.solveParallel_eq, returned, returned']
    rfl
  case isFalse inTurn => simp only [Solvers.solveInTurn, returned, returned']

/-- Solvers that answer do so on every instance, in turn or side by side, and go on answering. -/
theorem exists_evaluate {reference start : σ} {candidate start' : τ}
    (answers : t.solvers.reference.Answers start) (answers' : t.solvers.candidate.Answers start')
    (reached : t.solvers.reference.Reaches start reference)
    (reached' : t.solvers.candidate.Reaches start' candidate) (index : Nat) (scale : K)
    (inst : Instance K)
    : ∃ trial reference' candidate',
        t.evaluate index scale inst reference candidate = some (trial, reference', candidate')
          ∧ t.solvers.reference.Reaches start reference'
          ∧ t.solvers.candidate.Reaches start' candidate' := by
  obtain ⟨result, answered⟩ := answers reference reached inst t.options
  obtain ⟨result', answered'⟩ := answers' candidate reached' inst t.options
  rw [evaluate, solveBoth_of_returned answered answered']
  exact ⟨_, _, _, rfl, .call reached _ _, .call reached' _ _⟩

/-- The solvers of a tester answer if those it was made of do. -/
theorem answers_of_make [NumberText K] {first : Solver K σ} {second : Solver K τ}
    {config : Config K} {interleaving : Nat → List Role} {reference : σ} {candidate : τ}
    (made : Tester.make first second config interleaving = .ok t)
    (answers : first.Answers reference) (answers' : second.Answers candidate)
    : t.solvers.reference.Answers reference ∧ t.solvers.candidate.Answers candidate := by
  unfold make at made
  split at made
  · cases made
  cases made
  cases config.solveTimeoutMs with
  | none => exact ⟨answers, answers'⟩
  | some limit => exact ⟨Solver.answers_timed _ _ _, Solver.answers_timed _ _ _⟩

end Tester

end QuadraticTrials

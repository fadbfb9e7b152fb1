import Mathlib
import QuadraticTrials.Proofs.Sweep.Abort
import QuadraticTrials.Proofs.Sweep.Replay

/-!
Solving side by side and in turn. Side by side a breakdown counts as a failure of its solver; apart
from that the two ways give the same trials and the same sweeps, in whatever order the workers move.
-/

namespace QuadraticTrials

-----------------------------------------------------------------------------------------
-- Breakdowns that are caught
-----------------------------------------------------------------------------------------

namespace Solver

variable {K σ : Type}

/-- The reply with a failure in place of a breakdown. -/
def caughtReply (name : String) : Reply K → Reply K
  | .returned result => .returned result
  | .crashed => .returned (.error (.solverFailure name "solver thread panicked"))

/-- The solver that fails where it would break down. -/
def caught (solver : Solver K σ) : Solver K σ where
  name := solver.name
  call inst options state :=
    let (call, state) := solver.call inst options state
    ({ call with reply := caughtReply solver.name call.reply }, state)

/-- A solver with a deadline has nothing to be caught. -/
theorem caught_timed (solver : Solver K σ) (limit : Nat)
    : (solver.timed limit).caught = solver.timed limit :=
  rfl

theorem call_caught_of_answers {solver : Solver K σ} {start state : σ}
    (answers : solver.Answers start) (reached : solver.Reaches start state) (inst : Instance K)
    (options : Options K)
    : solver.caught.call inst options state = solver.call inst options state := by
  obtain ⟨result, answered⟩ := answers state reached inst options
  simp only [caught, answered, caughtReply]
  rw [← answered]

end Solver

namespace Solvers

variable {K σ τ : Type}

/-- Both solvers with their breakdowns caught. -/
def caught (pair : Solvers K σ τ) : Solvers K σ τ :=
  ⟨pair.reference.caught, pair.candidate.caught⟩

/-- Side by side, whatever the order of the workers, both calls give what they give in turn if
breakdowns are caught.
-/
theorem solveInTurn_caught (pair : Solvers K σ τ) (schedule : List Role) (inst : Instance K)
    (options : Options K) (reference : σ) (candidate : τ)
    : pair.caught.solveInTurn inst options reference candidate
      = some (pair.solveParallel schedule inst options reference candidate) := by
  rw [solveParallel_eq]
  simp only [solveInTurn, caught, Solver.caught]
  cases (pair.reference.call inst options reference).1.reply with
  | returned result =>
      cases (pair.candidate.call inst options candidate).1.reply <;> rfl
  | crashed =>
      cases (pair.candidate.call inst options candidate).1.reply <;> rfl

/-- Catching breakdowns changes nothing for solvers that answer. -/
theorem solveInTurn_caught_of_answers {pair : Solvers K σ τ} {start reference : σ}
    {start' candidate : τ} (answers : pair.reference.Answers start)
    (answers' : pair.candidate.Answers start') (reached : pair.reference.Reaches start reference)
    (reached' : pair.candidate.Reaches start' candidate) (inst : Instance K)
    (options : Options K)
    : pair.caught.solveInTurn inst options reference candidate
      = pair.solveInTurn inst options reference candidate := by
  simp only [solveInTurn, caught, Solver.call_caught_of_answers answers reached,
    Solver.call_caught_of_answers answers' reached']

end Solvers

-----------------------------------------------------------------------------------------
-- Trials
-----------------------------------------------------------------------------------------

namespace Tester

variable {K σ τ : Type}

/-- The tester that calls its solvers side by side. -/
def sideBySide (t : Tester K σ τ) : Tester K σ τ :=
  { t with config := { t.config with parallelSolves := true } }

/-- The tester that calls one solver after the other. -/
def inTurn (t : Tester K σ τ) : Tester K σ τ :=
  { t with config := { t.config with parallelSolves := false } }

/-- The tester whose solvers have their breakdowns caught. -/
def caught (t : Tester K σ τ) : Tester K σ τ :=
  { t with solvers := t.solvers.caught }

theorem solveBoth_sideBySide (t : Tester K σ τ) (index : Nat) (inst : Instance K) (reference : σ)
    (candidate : τ)
    : t.sideBySide.solveBoth index inst reference candidate
      = some (t.solvers.solveParallel (t.interleaving index) inst t.options reference
          candidate) :=
  rfl

theorem solveBoth_inTurn (t : Tester K σ τ) (index : Nat) (inst : Instance K) (reference : σ)
    (candidate : τ)
    : t.inTurn.solveBoth index inst reference candidate
      = t.solvers.solveInTurn inst t.options reference candidate :=
  rfl

variable [Scalar K] (t : Tester K σ τ)

/-- A trial side by side is the trial in turn with breakdowns caught. -/
theorem evaluate_sideBySide : t.sideBySide.evaluate = t.caught.inTurn.evaluate := by
  funext index scale inst reference candidate
  have same : t.caught.inTurn.solveBoth index inst reference candidate
      = t.sideBySide.solveBoth index inst reference candidate := by
    rw [solveBoth_inTurn, solveBoth_sideBySide]
    exact t.solvers.solveInTurn_caught _ inst t.options reference candidate
  rw [evaluate, evaluate, same]
  rfl

/-- Trials on one instance after the other, each at its scale, with the states of the solvers after
them.
-/
def evaluateAll
    : (index : Nat) → List (K × Instance K) → σ → τ → Option (List (Trial K) × σ × τ)
  | _, [], reference, candidate => some ([], reference, candidate)
  | index, (scale, inst) :: rest, reference, candidate =>
      (t.evaluate index scale inst reference candidate).bind fun (trial, reference, candidate) =>
        (evaluateAll (index + 1) rest reference candidate).map fun (trials, states) =>
          (trial :: trials, states)

/-- Side by side every sequence of trials comes through, by induction on the instances: a call that
breaks down fails its own trial only.
-/
theorem exists_evaluateAll (index : Nat) (instances : List (K × Instance K)) (reference : σ)
    (candidate : τ)
    : ∃ trials states,
        t.sideBySide.evaluateAll index instances reference candidate = some (trials, states)
          ∧ trials.length = instances.length := by
  induction instances generalizing index reference candidate with
  | nil => exact ⟨[], _, rfl, rfl⟩
  | cons first rest ih =>
      obtain ⟨scale, inst⟩ := first
      obtain ⟨trial, reference', candidate', evaluated⟩ : ∃ trial reference' candidate',
          t.sideBySide.evaluate index scale inst reference candidate
            = some (trial, reference', candidate') := by
        rw [evaluate, solveBoth_sideBySide]
        exact ⟨_, _, _, rfl⟩
      obtain ⟨trials, states, later, length_eq⟩ := ih (index + 1) reference' candidate'
      refine ⟨trial :: trials, states, ?_, congrArg Nat.succ length_eq⟩
      simp only [evaluateAll, evaluated, Option.bind_some, later, Option.map_some]

theorem evaluateAll_congr {t t' : Tester K σ τ} (same : t'.evaluate = t.evaluate) (index : Nat)
    (instances : List (K × Instance K)) (reference : σ) (candidate : τ)
    : t'.evaluateAll index instances reference candidate
      = t.evaluateAll index instances reference candidate := by
  induction instances generalizing index reference candidate with
  | nil => rfl
  | cons first rest ih => simp only [evaluateAll, same, ih]

/-- Catching breakdowns changes no trial of solvers that answer. -/
theorem evaluate_caught_of_answers {t : Tester K σ τ} {start reference : σ} {start' candidate : τ}
    (answers : t.solvers.reference.Answers start) (answers' : t.solvers.candidate.Answers start')
    (reached : t.solvers.reference.Reaches start reference)
    (reached' : t.solvers.candidate.Reaches start' candidate) (index : Nat) (scale : K)
    (inst : Instance K)
    : t.caught.inTurn.evaluate index scale inst reference candidate
      = t.inTurn.evaluate index scale inst reference candidate := by
  have same : t.caught.inTurn.solveBoth index inst reference candidate
      = t.inTurn.solveBoth index inst reference candidate := by
    rw [solveBoth_inTurn, solveBoth_inTurn]
    exact Solvers.solveInTurn_caught_of_answers answers answers' reached reached' inst _
  rw [evaluate, evaluate, same]
  rfl

variable [NumberText K]

/-- What a configuration makes of two solvers when they are called side by side, in turn, and in
turn with their breakdowns caught. With a deadline there is nothing to be caught.
-/
theorem make_variants {first : Solver K σ} {second : Solver K τ} {config : Config K}
    {interleaving : Nat → List Role} {t : Tester K σ τ}
    (made : Tester.make first second config interleaving = .ok t)
    : Tester.make first second { config with parallelSolves := true } interleaving
          = .ok t.sideBySide
        ∧ Tester.make first second { config with parallelSolves := false } interleaving
          = .ok t.inTurn
        ∧ (config.solveTimeoutMs = none →
            Tester.make first.caught second.caught { config with parallelSolves := false }
                interleaving
              = .ok t.caught.inTurn)
        ∧ (config.solveTimeoutMs ≠ none → t.caught = t) := by
  have same (parallelSolves : Bool)
      : ({ config with parallelSolves } : Config K).validate = config.validate := rfl
  unfold make at made
  split at made
  case h_1 => cases made
  case h_2 accepted =>
    cases made
    refine ⟨?_, ?_, fun unlimited => ?_, fun limited => ?_⟩
    · rw [make, same, accepted]
      rfl
    · rw [make, same, accepted]
      rfl
    · cases config
      cases unlimited
      rw [make, same, accepted]
      rfl
    · obtain ⟨limit, chosen⟩ := Option.ne_none_iff_exists'.mp limited
      simp only [caught, Solvers.caught, chosen, Solver.caught_timed]

end Tester

-----------------------------------------------------------------------------------------
-- Sweeps
-----------------------------------------------------------------------------------------

namespace Sweep

variable {K σ τ ρ : Type} [Scalar K] [NumberText K] [SymmetricSpectrum K] [Reporter K ρ]
  {t t' : Tester K σ τ} {reference : σ} {candidate : τ}

/-- Testers that evaluate alike wherever their solvers can be led run over the same scales alike, by
induction on the scales.
-/
theorem runScales_congr_of_answers (answers : t.solvers.reference.Answers reference)
    (answers' : t.solvers.candidate.Answers candidate)
    (same
      : ∀ index scale inst r c,
          t.solvers.reference.Reaches reference r → t.solvers.candidate.Reaches candidate c →
            t'.evaluate index scale inst r c = t.evaluate index scale inst r c)
    (total : Nat) (scales : List K) {s : Sweep K σ τ ρ} (led : Led t reference candidate s)
    : runScales t' total scales s = runScales t total scales s := by
  induction scales generalizing s with
  | nil => rfl
  | cons scale rest ih =>
      have trial : runTrial t' total scale s = runTrial t total scale s := by
        simp only [runTrial, same _ _ _ _ _ led.reference led.candidate]
      rw [runScales, runScales, trial]
      cases ran : runTrial t total scale s with
      | mk result next =>
          cases result with
          | error stop => rfl
          | ok done =>
              obtain ⟨trial, carries⟩ := carries_of_runTrial ran
              exact ih (carries.led answers answers' led)

/-- Sweeps of solvers that answer are the same with breakdowns caught. -/
theorem run_caught_of_answers (answers : t.solvers.reference.Answers reference)
    (answers' : t.solvers.candidate.Answers candidate) (entropy : UInt64) (reporter : ρ)
    : Sweep.run t.caught.inTurn entropy reference candidate reporter
      = Sweep.run t.inTurn entropy reference candidate reporter := by
  have same (total : Nat)
      : runScales t.caught.inTurn total t.caught.inTurn.config.schedule
            (start (t.caught.inTurn.generator entropy) total reference candidate reporter)
        = runScales t.inTurn total t.inTurn.config.schedule
            (start (t.inTurn.generator entropy) total reference candidate reporter) := by
    refine runScales_congr_of_answers (t := t.inTurn) answers answers' ?_ total _ ⟨.start, .start⟩
    intro index scale inst r c reached reached'
    exact Tester.evaluate_caught_of_answers answers answers' reached reached' index scale inst
  have count : t.caught.inTurn.config.totalTrials? = t.inTurn.config.totalTrials? := rfl
  rw [run_eq_schedule, run_eq_schedule, count]
  simp only [same]

/-- Solving side by side is solving in turn with breakdowns caught, over every sequence of instances
and over whole sweeps; solvers that answer every call are tested alike in both ways; and each way is
what a configuration makes of the solvers.
-/
theorem sideBySide_as_inTurn (ρ : Type) [Reporter K ρ] (t : Tester K σ τ)
    : (∀ index instances reference candidate,
        ∃ trials states,
          t.sideBySide.evaluateAll index instances reference candidate = some (trials, states)
            ∧ t.caught.inTurn.evaluateAll index instances reference candidate
              = some (trials, states)
            ∧ trials.length = instances.length)
        ∧ (∀ entropy reference candidate (reporter : ρ),
            Sweep.run t.sideBySide entropy reference candidate reporter
              = Sweep.run t.caught.inTurn entropy reference candidate reporter)
        ∧ (∀ entropy reference candidate (reporter : ρ),
            t.solvers.reference.Answers reference → t.solvers.candidate.Answers candidate →
              Sweep.run t.sideBySide entropy reference candidate reporter
                = Sweep.run t.inTurn entropy reference candidate reporter)
        ∧ ∀ first second config interleaving,
            Tester.make first second config interleaving = .ok t →
              Tester.make first second { config with parallelSolves := true } interleaving
                  = .ok t.sideBySide
                ∧ Tester.make first second { config with parallelSolves := false } interleaving
                  = .ok t.inTurn
                ∧ (config.solveTimeoutMs = none →
                    Tester.make first.caught second.caught { config with parallelSolves := false }
                        interleaving
                      = .ok t.caught.inTurn)
                ∧ (config.solveTimeoutMs ≠ none → t.caught = t) := by
  have caught (entropy : UInt64) (reference : σ) (candidate : τ) (reporter : ρ)
      : Sweep.run t.sideBySide entropy reference candidate reporter
        = Sweep.run t.caught.inTurn entropy reference candidate reporter :=
    run_congr t.evaluate_sideBySide rfl rfl rfl
  refine ⟨?_, caught, ?_, fun _ _ _ _ => Tester.make_variants⟩
  · intro index instances reference candidate
    obtain ⟨trials, states, came, length_eq⟩ :=
      t.exists_evaluateAll index instances reference candidate
    refine ⟨trials, states, came, ?_, length_eq⟩
    rw [← came]
    exact (Tester.evaluateAll_congr t.evaluate_sideBySide index instances reference candidate).symm
  · intro entropy reference candidate reporter answers answers'
    rw [caught, run_caught_of_answers answers answers']

/-- A reference that breaks down on every call. -/
def broken : StandIn Float :=
  .panicking "broken"

/-- The four trials with the broken reference. -/
def brokenTrials : Tester Float (StandIn Float) (StandIn Float) :=
  { fourTrials with solvers := ⟨broken.solver, steady.solver⟩ }

/-- The four trials are the same side by side and in turn. The broken reference ends the sweep in
turn; side by side it fails each of the four trials, as if it had returned the failure.
-/
theorem fourTrials_sideBySide
    : Sweep.run fourTrials.sideBySide 0 unsteady steady (Memory.empty : Memory Float)
        = Sweep.run fourTrials 0 unsteady steady (Memory.empty : Memory Float)
      ∧ (Sweep.run brokenTrials 0 broken steady (Memory.empty : Memory Float)).1
        = .error .crashed
      ∧ (Sweep.run brokenTrials.sideBySide 0 broken steady (Memory.empty : Memory Float)).1
        = .ok ⟨4, 4, 4, 0, 0, some 7⟩
      ∧ Sweep.run brokenTrials.sideBySide 0 broken steady (Memory.empty : Memory Float)
        = Sweep.run brokenTrials.caught.inTurn 0 broken steady (Memory.empty : Memory Float)
      ∧ Tester.make unsteady.solver steady.solver
          { fourTrials.config with parallelSolves := true } (fun _ => [])
        = .ok fourTrials.sideBySide := by
  obtain ⟨-, -, alike, made⟩ := sideBySide_as_inTurn (Memory Float) fourTrials
  obtain ⟨-, caught, -, -⟩ := sideBySide_as_inTurn (Memory Float) brokenTrials
  refine ⟨alike 0 unsteady steady Memory.empty answers_unsteady answers_steady, ?_, ?_,
    caught 0 broken steady Memory.empty, ?_⟩
  · decide +kernel
  · decide +kernel
  · exact (made unsteady.solver steady.solver fourTrials.config (fun _ => []) rfl).1

end Sweep

end QuadraticTrials

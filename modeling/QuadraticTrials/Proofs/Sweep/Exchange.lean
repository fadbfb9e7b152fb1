import Mathlib
import QuadraticTrials.Proofs.Distance
import QuadraticTrials.Proofs.Solver.Deadline
import QuadraticTrials.Proofs.Sweep.Replay

/-!
Sweeps with the solvers exchanged. Neither side is favoured: trial by trial the outcome is the one
with the sides exchanged, but that the reference is blamed if both sides fail in the same way, and
the summaries are the same.
-/

namespace QuadraticTrials

-----------------------------------------------------------------------------------------
-- Outcomes
-----------------------------------------------------------------------------------------

/-- The other side. -/
def Role.other : Role → Role
  | reference => candidate
  | candidate => reference

namespace Outcome

variable {K : Type}

/-- The outcome with the sides exchanged. -/
def mirror : Outcome K → Outcome K
  | passed => passed
  | equivalenceMismatch index difference => equivalenceMismatch index difference
  | dimensionMismatch reference candidate => dimensionMismatch candidate reference
  | solverFailure role reason => solverFailure role.other reason

theorem kind_mirror (outcome : Outcome K) : outcome.mirror.kind = outcome.kind := by
  cases outcome <;> rfl

variable [Scalar K] [Scalar.Symmetric K]

/-- Comparing the other way round finds the same place and the same difference, since distances are
the same from either side.
-/
theorem ofComparison_check_comm (tolerance : K) (reference candidate : List K)
    : ofComparison (Comparison.check tolerance candidate reference)
      = (ofComparison (Comparison.check tolerance reference candidate)).mirror := by
  have distances
      : Comparison.distances candidate reference = Comparison.distances reference candidate := by
    rw [Comparison.distances, List.zipWith_comm]
    simp only [Scalar.Symmetric.abs_sub_comm, Comparison.distances]
  by_cases same : reference.length = candidate.length
  · rw [Comparison.check, Comparison.check, if_neg (not_not.mpr same.symm),
      if_neg (not_not.mpr same), distances]
    cases Comparison.firstOutside tolerance 0 (Comparison.distances reference candidate) <;> rfl
  · rw [Comparison.check, Comparison.check, if_pos (Ne.symm same), if_pos same]
    rfl

end Outcome

/-- One more trial is counted by its kind only. -/
theorem Summary.record_congr {K : Type} {outcome outcome' : Outcome K}
    (same : outcome'.kind = outcome.kind) (summary : Summary)
    : summary.record outcome' = summary.record outcome := by
  cases outcome <;> cases outcome' <;> simp_all [Outcome.kind, Summary.record]

-----------------------------------------------------------------------------------------
-- Trials
-----------------------------------------------------------------------------------------

namespace Trial

variable {K : Type}

/-- Both sides failed in the same way: both with an error, or both with an answer that is not
optimal.
-/
def FailAlike : (reference candidate : Option (Solution K)) → Prop
  | none, none => True
  | some r, some c => r.isOptimal = false ∧ c.isOptimal = false
  | _, _ => False

/-- A trial and the one with the sides exchanged. -/
structure Mirrored (trial trial' : Trial K) : Prop where
  index : trial'.index = trial.index
  costScale : trial'.costScale = trial.costScale
  inst : trial'.inst = trial.inst
  reference : trial'.reference = trial.candidate
  candidate : trial'.candidate = trial.reference
  kind : trial'.outcome.kind = trial.outcome.kind
  outcome : ¬FailAlike trial.reference trial.candidate → trial'.outcome = trial.outcome.mirror
  blamed
    : FailAlike trial.reference trial.candidate →
        (∃ reason, trial.outcome = .solverFailure .reference reason)
          ∧ ∃ reason, trial'.outcome = .solverFailure .reference reason

variable [Scalar K]

/-- Exchanged results are judged as the mirror says, or the reference is blamed both times, by cases
on how each side ended.
-/
theorem judge_exchanged [Scalar.Symmetric K] (tolerance : K) (r c : Except Error (Solution K))
    : (¬FailAlike r.toOption c.toOption ∧ judge tolerance c r = (judge tolerance r c).mirror)
      ∨ (FailAlike r.toOption c.toOption
        ∧ (∃ reason, judge tolerance r c = .solverFailure .reference reason)
        ∧ ∃ reason, judge tolerance c r = .solverFailure .reference reason) := by
  cases r with
  | error e =>
      cases c with
      | error e' => exact .inr ⟨trivial, ⟨_, rfl⟩, ⟨_, rfl⟩⟩
      | ok c => exact .inl ⟨id, rfl⟩
  | ok r =>
      cases c with
      | error e' => exact .inl ⟨id, rfl⟩
      | ok c =>
          simp only [Except.toOption, judge, FailAlike]
          cases r.isOptimal <;> cases c.isOptimal
          case false.false => exact .inr ⟨⟨rfl, rfl⟩, ⟨_, rfl⟩, ⟨_, rfl⟩⟩
          case false.true => exact .inl ⟨fun alike => (by cases alike.2), rfl⟩
          case true.false => exact .inl ⟨fun alike => (by cases alike.1), rfl⟩
          case true.true =>
            refine .inl ⟨fun alike => (by cases alike.1), ?_⟩
            exact Outcome.ofComparison_check_comm tolerance r.x c.x

/-- A trial stands at a place and a scale, with two results on an instance and their judgement. -/
structure Records (trial : Trial K) (index : Nat) (scale : K) (inst : Instance K) (tolerance : K)
    (r c : Except Error (Solution K))
    : Prop where
  index : trial.index = index
  costScale : trial.costScale = scale
  inst : trial.inst = inst
  reference : trial.reference = r.toOption
  candidate : trial.candidate = c.toOption
  outcome : trial.outcome = judge tolerance r c

/-- Trials with exchanged results are mirrored. -/
theorem Records.mirrored [Scalar.Symmetric K] {trial trial' : Trial K} {index : Nat} {scale : K}
    {inst : Instance K} {tolerance : K} {r c : Except Error (Solution K)}
    (records : trial.Records index scale inst tolerance r c)
    (records' : trial'.Records index scale inst tolerance c r)
    : trial.Mirrored trial' := by
  obtain ⟨rfl, rfl, rfl, reference, candidate, outcome⟩ := records
  obtain ⟨index, costScale, inst, reference', candidate', outcome'⟩ := records'
  have judged := judge_exchanged tolerance r c
  rw [← outcome, ← outcome', ← reference, ← candidate] at judged
  refine ⟨index, costScale, inst, reference'.trans candidate.symm,
    candidate'.trans reference.symm, ?_, ?_, ?_⟩
  · rcases judged with ⟨-, mirrored⟩ | ⟨-, ⟨reason, blamed⟩, reason', blamed'⟩
    · rw [mirrored, Outcome.kind_mirror]
    · rw [blamed, blamed']
      rfl
  · intro apart
    rcases judged with ⟨-, mirrored⟩ | ⟨alike, -⟩
    · exact mirrored
    · exact absurd alike apart
  · intro alike
    rcases judged with ⟨apart, -⟩ | ⟨-, blamed⟩
    · exact absurd alike apart
    · exact blamed

end Trial

-----------------------------------------------------------------------------------------
-- Solvers that compute a function
-----------------------------------------------------------------------------------------

namespace Solver

variable {K σ : Type} {solver : Solver K σ} {start state : σ} {limit : Nat}
  {answer : Instance K → Options K → Except Error (Solution K)}

/-- Every call that a solver can come to is answered by a function of instance and options. -/
def Computes (solver : Solver K σ) (start : σ)
    (answer : Instance K → Options K → Except Error (Solution K))
    : Prop :=
  ∀ state,
    solver.Reaches start state →
      ∀ inst options, (solver.call inst options state).1.reply = .returned (answer inst options)

/-- Every call that a solver can come to takes less than some milliseconds. -/
def Prompt (solver : Solver K σ) (start : σ) (limit : Nat) : Prop :=
  ∀ state,
    solver.Reaches start state →
      ∀ inst options, (solver.call inst options state).1.elapsed < limit

theorem Computes.answers (computes : solver.Computes start answer) : solver.Answers start :=
  fun state reached inst options => ⟨_, computes state reached inst options⟩

/-- A deadline leads a solver to no other states. -/
theorem reaches_of_timed (reached : (solver.timed limit).Reaches start state)
    : solver.Reaches start state := by
  induction reached with
  | start => exact .start
  | call reached inst options ih => exact .call ih inst options

/-- A deadline does not show if every call is in time. -/
theorem Computes.timed (computes : solver.Computes start answer)
    (prompt : solver.Prompt start limit)
    : (solver.timed limit).Computes start answer := by
  intro state reached inst options
  have early := prompt state (reaches_of_timed reached) inst options
  have returned := computes state (reaches_of_timed reached) inst options
  refine (reply_withDeadline (answerTo_timeline limit _)).trans ?_
  rw [if_pos early, returned]
  rfl

end Solver

-----------------------------------------------------------------------------------------
-- Testers
-----------------------------------------------------------------------------------------

namespace Tester

variable {K σ τ : Type} [Scalar K] {t : Tester K σ τ} {t' : Tester K τ σ} {reference : σ}
  {candidate : τ} {answer answer' : Instance K → Options K → Except Error (Solution K)}

/-- Solvers that compute functions give a trial their answers on its instance, in turn or side by
side.
-/
theorem exists_evaluate_of_computes {start : σ} {start' : τ}
    (computes : t.solvers.reference.Computes start answer)
    (computes' : t.solvers.candidate.Computes start' answer')
    (reached : t.solvers.reference.Reaches start reference)
    (reached' : t.solvers.candidate.Reaches start' candidate) (index : Nat) (scale : K)
    (inst : Instance K)
    : ∃ trial reference' candidate',
        t.evaluate index scale inst reference candidate = some (trial, reference', candidate')
          ∧ trial.Records index scale inst t.config.tolerance (answer inst t.options)
              (answer' inst t.options)
          ∧ t.solvers.reference.Reaches start reference'
          ∧ t.solvers.candidate.Reaches start' candidate' := by
  have answered := computes reference reached inst t.options
  have answered' := computes' candidate reached' inst t.options
  rw [evaluate, solveBoth_of_returned answered answered']
  exact ⟨_, _, _, rfl, ⟨rfl, rfl, rfl, rfl, rfl, rfl⟩, .call reached _ _, .call reached' _ _⟩

/-- Two testers with the solvers exchanged, which compute functions. -/
structure Opposed (t : Tester K σ τ) (t' : Tester K τ σ) (reference : σ) (candidate : τ)
    (answer answer' : Instance K → Options K → Except Error (Solution K))
    : Prop where
  config : t'.config = t.config
  computes : t.solvers.reference.Computes reference answer
  computes' : t.solvers.candidate.Computes candidate answer'
  exchanged : t'.solvers.reference.Computes candidate answer'
  exchanged' : t'.solvers.candidate.Computes reference answer

variable [NumberText K]

/-- What an accepted configuration makes of two solvers that compute functions, if their calls are
in time, and of the solvers exchanged.
-/
theorem exists_opposed {first : Solver K σ} {second : Solver K τ} {config : Config K}
    (interleaving interleaving' : Nat → List Role) (accepted : config.validate = .ok ())
    (computes : first.Computes reference answer) (computes' : second.Computes candidate answer')
    (prompt
      : ∀ limit,
          config.solveTimeoutMs = some limit →
            first.Prompt reference limit ∧ second.Prompt candidate limit)
    : ∃ t t',
        Tester.make first second config interleaving = .ok t
          ∧ Tester.make second first config interleaving' = .ok t'
          ∧ t.config = config
          ∧ Opposed t t' reference candidate answer answer' := by
  cases limited : config.solveTimeoutMs with
  | none =>
      refine ⟨⟨⟨first, second⟩, config, interleaving⟩, ⟨⟨second, first⟩, config, interleaving'⟩,
        ?_, ?_, rfl, rfl, computes, computes', computes', computes⟩
      all_goals simp only [make, accepted, limited]
  | some limit =>
      obtain ⟨inTime, inTime'⟩ := prompt limit limited
      refine ⟨⟨⟨first.timed limit, second.timed limit⟩, config, interleaving⟩,
        ⟨⟨second.timed limit, first.timed limit⟩, config, interleaving'⟩, ?_, ?_, rfl, rfl,
        computes.timed inTime, computes'.timed inTime', computes'.timed inTime',
        computes.timed inTime⟩
      all_goals simp only [make, accepted, limited]

end Tester

-----------------------------------------------------------------------------------------
-- Sweeps
-----------------------------------------------------------------------------------------

namespace Sweep

open Reporter

variable {K σ τ ρ : Type} [Scalar K] [Scalar.Symmetric K] [NumberText K] [SymmetricSpectrum K]
  [Reporter K ρ] {t : Tester K σ τ} {t' : Tester K τ σ} {reference : σ} {candidate : τ}
  {answer answer' : Instance K → Options K → Except Error (Solution K)} {good : ρ → Prop}
  {total : Nat} {scale : K} {scales : List K} {trial : Trial K} {trials : List (Trial K)}
  {stop : Stop} {fault : Generator.Fault K} {s next final : Sweep K σ τ ρ} {s' : Sweep K τ σ ρ}

/-- Two sweeps with the solvers exchanged have come equally far, with the same counters. -/
structure Faces (t : Tester K σ τ) (t' : Tester K τ σ) (reference : σ) (candidate : τ)
    (good : ρ → Prop) (s : Sweep K σ τ ρ) (s' : Sweep K τ σ ρ)
    : Prop where
  generator : s'.generator = s.generator
  index : s'.index = s.index
  summary : s'.summary = s.summary
  led : Led t reference candidate s
  led' : Led t' candidate reference s'
  well : good s'.reporter

section Simulation

variable (opposed : t.Opposed t' reference candidate answer answer') (willing : Willing K good)

include opposed willing

/-- A trial that is carried out has a mirrored one with the solvers exchanged. -/
theorem Carries.exchanged (carries : Carries t total scale s trial next)
    (faces : Faces t t' reference candidate good s s')
    : ∃ trial' next',
        Carries t' total scale s' trial' next' ∧ trial.Mirrored trial'
          ∧ Faces t t' reference candidate good next next' := by
  obtain ⟨generator, index, summary, led, led', well⟩ := faces
  obtain ⟨_, _, _, evaluated, records, reached, reached'⟩ :=
    Tester.exists_evaluate_of_computes opposed.computes opposed.computes' led.reference
      led.candidate s.index scale trial.inst
  obtain ⟨trial', candidate', reference', evaluated', records', returned, returned'⟩ :=
    Tester.exists_evaluate_of_computes opposed.exchanged opposed.exchanged' led'.reference
      led'.candidate s'.index scale trial.inst
  obtain ⟨reporter, published, better⟩ := willing.publish trial' s'.reporter well
  cases carries.evaluated.symm.trans evaluated
  have mirrored : trial.Mirrored trial' := by
    refine records.mirrored ?_
    rw [Tester.options, ← opposed.config, ← index]
    exact records'
  let next' : Sweep K τ σ ρ := {
    generator := next.generator
    reference := candidate'
    candidate := reference'
    reporter
    index := s'.index + 1
    summary := s'.summary.record trial'.outcome
    progress := s'.progress.advance total
  }
  refine ⟨trial', next', ⟨?_, ?_, published, rfl, rfl, rfl⟩, mirrored, ?_⟩
  · rw [generator, records'.inst]
    exact carries.generated
  · rw [records'.inst]
    exact evaluated'
  · refine ⟨rfl, ?_, ?_, ⟨reached, reached'⟩, ⟨returned, returned'⟩, better⟩
    · rw [carries.index, ← index]
    · rw [carries.summary, ← summary]
      exact Summary.record_congr mirrored.kind _

/-- Trials that are carried out have mirrored ones with the solvers exchanged, by induction along
them.
-/
theorem Trials.exchanged (chain : Trials t total scales s trials final)
    (faces : Faces t t' reference candidate good s s')
    : ∃ trials' final',
        Trials t' total scales s' trials' final' ∧ List.Forall₂ Trial.Mirrored trials trials'
          ∧ Faces t t' reference candidate good final final' := by
  induction chain generalizing s' with
  | nil => exact ⟨[], s', .nil, .nil, faces⟩
  | cons first later ih =>
      obtain ⟨trial', next', first', mirrored, faces⟩ := first.exchanged opposed willing faces
      obtain ⟨trials', final', later', mirrors, faces⟩ := ih faces
      exact ⟨trial' :: trials', final', .cons first' later', .cons mirrored mirrors, faces⟩

/-- A generation that fails does so with the solvers exchanged, after mirrored trials. -/
theorem Breaks.exchanged
    (breaks : Breaks t total scales s trials (.generation fault) stop final)
    (faces : Faces t t' reference candidate good s s')
    : ∃ trials' final',
        Breaks t' total scales s' trials' (.generation fault) stop final'
          ∧ List.Forall₂ Trial.Mirrored trials trials' := by
  obtain ⟨reached, before, stops⟩ := breaks
  obtain ⟨trials', middle', before', mirrors, faces⟩ := before.exchanged opposed willing faces
  cases stops with
  | generation failed =>
      rw [← faces.generator] at failed
      exact ⟨trials', _, .at reached before' (.generation failed), mirrors⟩

end Simulation

/-- A sweep and the one with the solvers exchanged: the trials that each carries out are mirrored
one by one, and both give the same summary or stop for the same reason.
-/
structure Exchanged (t : Tester K σ τ) (t' : Tester K τ σ) (entropy entropy' : UInt64)
    (reference : σ) (candidate : τ) (reporter : ρ) (trials trials' : List (Trial K))
    : Prop where
  carried
    : ∃ middle,
        Trials t t.config.trialCount (t.config.schedule.take trials.length)
          (opened t entropy reference candidate reporter) trials middle
  carried'
    : ∃ middle,
        Trials t' t'.config.trialCount (t'.config.schedule.take trials'.length)
          (opened t' entropy' candidate reference reporter) trials' middle
  taken
    : (Sweep.run t entropy reference candidate (Receipts.blank reporter : Receipts K ρ)).2.taken
      = trials.map Trial.report
  taken'
    : (Sweep.run t' entropy' candidate reference (Receipts.blank reporter : Receipts K ρ)).2.taken
      = trials'.map Trial.report
  mirrored : List.Forall₂ Trial.Mirrored trials trials'
  result
    : (Sweep.run t' entropy' candidate reference reporter).1
      = (Sweep.run t entropy reference candidate reporter).1
  aborted
    : ∀ stop,
        (Sweep.run t entropy reference candidate reporter).1 = .error stop →
          t.config.trialCount < wordBound →
            stop = .failed (Generator.Fault.exhausted : Generator.Fault K).toError

section Whole

variable {seed entropy entropy' : UInt64} {reporter : ρ}

omit [Scalar.Symmetric K] [NumberText K] [SymmetricSpectrum K] [Reporter K ρ] in
theorem faces_opened (opposed : t.Opposed t' reference candidate answer answer')
    (seeded : t.config.seed = some seed) (well : good reporter)
    : Faces t t' reference candidate good (opened t entropy reference candidate reporter)
        (opened t' entropy' candidate reference reporter) := by
  have generators : t'.generator entropy' = t.generator entropy := by
    simp only [Tester.generator, opposed.config, seeded, Option.getD_some]
  -- The generators are rewritten before any field is compared, so that no seed is evaluated.
  refine ⟨?_, ?_, ?_, ⟨.start, .start⟩, ⟨.start, .start⟩, well⟩ <;>
    simp only [opened, start, generators]

omit [Scalar.Symmetric K] in
theorem Trials.carried (chain : Trials t total scales s trials final)
    : ∃ middle, Trials t total (scales.take trials.length) s trials middle := by
  rw [chain.length_eq, List.take_length]
  exact ⟨final, chain⟩

omit [Scalar.Symmetric K] in
/-- The trials of a sweep that is broken off are those of the first scales. -/
theorem Breaks.carried {cause : Cause K} (breaks : Breaks t total scales s trials cause stop final)
    : ∃ middle, Trials t total (scales.take trials.length) s trials middle := by
  obtain ⟨rfl, before, -⟩ := breaks
  rw [before.length_eq, List.take_left]
  exact ⟨_, before⟩

omit [Scalar.Symmetric K] in
theorem Breaks.stop_eq (breaks : Breaks t total scales s trials (.generation fault) stop final)
    : stop = .failed fault.toError := by
  obtain ⟨-, -, stops⟩ := breaks
  cases stops with
  | generation => rfl

variable (opposed : t.Opposed t' reference candidate answer answer')
  (seeded : t.config.seed = some seed) (willing : Willing K good)
  (well : good reporter)

include opposed seeded willing well

omit [Scalar.Symmetric K] seeded willing well in
/-- A number of trials that is out of range breaks both sweeps down at once. -/
theorem exchanged_of_overflow (overflown : t.config.totalTrials? = none)
    : Exchanged t t' entropy entropy' reference candidate reporter [] [] := by
  have overflown' : t'.config.totalTrials? = none := by rw [opposed.config, overflown]
  refine ⟨⟨_, .nil⟩, ⟨_, .nil⟩, ?_, ?_, .nil, ?_, fun stop _ counted => ?_⟩
  · rw [Sweep.run, overflown]
    rfl
  · rw [Sweep.run, overflown']
    rfl
  · rw [Sweep.run, Sweep.run, overflown, overflown']
  · rw [Config.totalTrials?_eq_some.mpr ⟨counted, rfl⟩] at overflown
    cases overflown

/-- A sweep that comes through its schedule does so with the solvers exchanged. -/
theorem Trials.run_exchanged (counted : t.config.trialCount < wordBound)
    (chain
      : Trials t t.config.trialCount t.config.schedule
          (opened t entropy reference candidate reporter) trials final)
    : ∃ trials', Exchanged t t' entropy entropy' reference candidate reporter trials trials' := by
  obtain ⟨trials', final', chain', mirrors, faces⟩ :=
    chain.exchanged opposed willing (faces_opened opposed seeded well)
  rw [← opposed.config] at chain'
  have counted' : t'.config.trialCount < wordBound := by rwa [opposed.config]
  obtain ⟨reporter', finished⟩ := willing.finish final.summary.totalTrials
    final.summary.failedTrials final.reporter (chain.well_kept willing well)
  obtain ⟨reporter'', finished'⟩ := willing.finish final'.summary.totalTrials
    final'.summary.failedTrials final'.reporter (chain'.well_kept willing well)
  refine ⟨trials', chain.carried, chain'.carried, ?_, ?_, mirrors, ?_, ?_⟩
  · rw [chain.run_receipts counted finished]
  · rw [chain'.run_receipts counted' finished']
  · rw [chain.run_eq counted, chain'.run_eq counted', finished, finished', faces.summary]
  · rw [chain.run_eq counted, finished]
    exact fun _ ended => nomatch ended

/-- A sweep that is broken off by the generator is so with the solvers exchanged, after as many
trials.
-/
theorem Breaks.run_exchanged (counted : t.config.trialCount < wordBound)
    (breaks
      : Breaks t t.config.trialCount t.config.schedule
          (opened t entropy reference candidate reporter) trials (.generation .exhausted) stop
          final)
    : ∃ trials', Exchanged t t' entropy entropy' reference candidate reporter trials trials' := by
  obtain ⟨trials', final', breaks', mirrors⟩ :=
    breaks.exchanged opposed willing (faces_opened opposed seeded well)
  rw [← opposed.config] at breaks'
  have counted' : t'.config.trialCount < wordBound := by rwa [opposed.config]
  have ran := (run_eq_error_iff counted).mpr (.inl ⟨trials, _, final, breaks, rfl⟩)
  have ran' := (run_eq_error_iff counted').mpr (.inl ⟨trials', _, final', breaks', rfl⟩)
  refine ⟨trials', breaks.carried, breaks'.carried, ?_, ?_, mirrors, ?_, ?_⟩
  · rw [breaks.run_receipts counted]
  · rw [breaks'.run_receipts counted']
  · rw [ran, ran']
  · rw [ran]
    rintro _ ⟨⟩ -
    exact breaks.stop_eq

/-- Every sweep of solvers that compute functions is met by the one with the solvers exchanged: by
cases on how it ends, of which only two are left.
-/
theorem exists_exchanged (accepted : t.config.check = .ok ())
    : ∃ trials trials',
        Exchanged t t' entropy entropy' reference candidate reporter trials trials' := by
  cases counts : t.config.totalTrials? with
  | none => exact ⟨[], [], exchanged_of_overflow opposed counts⟩
  | some total =>
      obtain ⟨counted, -⟩ := Config.totalTrials?_eq_some.mp counts
      cases ran
          : runScales t t.config.trialCount t.config.schedule
              (opened t entropy reference candidate reporter) with
      | mk result final =>
          cases result with
          | ok done =>
              obtain ⟨trials, chain⟩ := trials_of_runScales ran
              exact ⟨trials, chain.run_exchanged opposed seeded willing well counted⟩
          | error stop =>
              obtain ⟨trials, cause, breaks⟩ := breaks_of_runScales ran
              have answered := breaks.ne_breakdown opposed.computes.answers
                opposed.computes'.answers ⟨.start, .start⟩
              have untaken := breaks.refused_eq_nil willing well
              cases cause with
              | breakdown => exact absurd rfl answered
              | publication trial => cases untaken
              | generation fault =>
                  cases breaks.exhausted accepted
                  exact ⟨trials, breaks.run_exchanged opposed seeded willing well counted⟩

end Whole

/-- Neither side of a sweep is favoured. With a seed, with solvers that compute functions in time
and with a reporter that takes everything, exchanging the solvers mirrors every trial and gives the
same summary, or stops the sweep after as many trials for the same failed generation.
-/
theorem exchanged_runs (first : Solver K σ) (second : Solver K τ) (config : Config K)
    (accepted : config.validate = .ok ()) (seed : UInt64) (seeded : config.seed = some seed)
    (computes : first.Computes reference answer) (computes' : second.Computes candidate answer')
    (prompt
      : ∀ limit,
          config.solveTimeoutMs = some limit →
            first.Prompt reference limit ∧ second.Prompt candidate limit)
    (willing : Willing K good) (reporter : ρ) (well : good reporter)
    (interleaving interleaving' : Nat → List Role) (entropy entropy' : UInt64)
    : ∃ t t',
        Tester.make first second config interleaving = .ok t
          ∧ Tester.make second first config interleaving' = .ok t'
          ∧ ∃ trials trials',
              Exchanged t t' entropy entropy' reference candidate reporter trials trials' := by
  obtain ⟨t, t', made, made', same, opposed⟩ :=
    Tester.exists_opposed interleaving interleaving' accepted computes computes' prompt
  subst same
  refine ⟨t, t', made, made', ?_⟩
  exact exists_exchanged opposed seeded willing well (Tester.accepted_of_make made).2

/-- A solver that is far off, and fails if there are equalities. -/
def picky : Solver Float Unit where
  name := "picky"
  call inst _ _ :=
    (.immediate (.returned
      (if inst.equality.isSome then .error (.io "no answer") else .ok ⟨[3], .optimal, 0, 1⟩)), ())

/-- A solver that always answers one. -/
def plain : Solver Float Unit where
  name := "plain"
  call _ _ _ := (.immediate (.returned (.ok ⟨[1], .optimal, 0, 1⟩)), ())

/-- The four trials with a deadline of five milliseconds. -/
def timedConfig : Config Float :=
  { fourTrials.config with solveTimeoutMs := some 5 }

/-- A picky reference and a plain candidate, with a deadline for both. -/
def pickyTrials : Tester Float Unit Unit :=
  ⟨⟨picky.timed 5, plain.timed 5⟩, timedConfig, fun _ => []⟩

/-- The reference fails two of four trials and is far off in the others, and so it is with the
solvers exchanged.
-/
theorem picky_exchanged
    : Tester.make picky plain timedConfig (fun _ => []) = .ok pickyTrials
      ∧ (Sweep.run pickyTrials 0 () () (Memory.empty : Memory Float)).1
        = .ok ⟨4, 4, 2, 0, 2, some 7⟩
      ∧ ∃ t',
          Tester.make plain picky timedConfig (fun _ => []) = .ok t'
            ∧ ∃ trials trials',
                Exchanged pickyTrials t' 0 1 () () (Memory.empty : Memory Float) trials
                  trials' := by
  have prompt : ∀ limit,
      timedConfig.solveTimeoutMs = some limit → picky.Prompt () limit ∧ plain.Prompt () limit := by
    rintro _ ⟨⟩
    exact ⟨fun _ _ _ _ => (by decide : 0 < 5), fun _ _ _ _ => (by decide : 0 < 5)⟩
  have made : Tester.make picky plain timedConfig (fun _ => []) = .ok pickyTrials := rfl
  obtain ⟨t, t', made', exchanged, trials, trials', mirrored⟩ :=
    exchanged_runs picky plain timedConfig rfl 7 rfl (fun _ _ _ _ => rfl) (fun _ _ _ _ => rfl)
      prompt (Memory.willing Float) .empty trivial (fun _ => []) (fun _ => []) 0 1
  cases made'.symm.trans made
  exact ⟨made, by decide +kernel, t', exchanged, trials, trials', mirrored⟩

end Sweep

end QuadraticTrials

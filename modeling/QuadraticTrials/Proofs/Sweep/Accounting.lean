import Mathlib
import QuadraticTrials.CommandLine
import QuadraticTrials.Proofs.Sweep.Transcript

/-!
Accounts of a sweep: the counters, the progress and the calls to the reporter stay in step with the
trials that are carried out.
-/

namespace QuadraticTrials

-----------------------------------------------------------------------------------------
-- Counters
-----------------------------------------------------------------------------------------

/-- The counters of a summary stand for a list of trials. -/
structure Summary.Counts {K : Type} [NumberText K] (summary : Summary) (trials : List (Trial K))
    : Prop where
  total : summary.totalTrials = trials.length
  failed
    : summary.failedTrials = trials.countP fun trial => !trial.report.verdict.isPassed
  split
    : summary.failedTrials
      = summary.solverFailures + summary.dimensionMismatches + summary.equivalenceMismatches
  solver
    : summary.solverFailures
      = trials.countP fun trial => trial.outcome.kind == "solver_failure"
  dimension
    : summary.dimensionMismatches
      = trials.countP fun trial => trial.outcome.kind == "dimension_mismatch"
  equivalence
    : summary.equivalenceMismatches
      = trials.countP fun trial => trial.outcome.kind == "equivalence_mismatch"

namespace Trial

variable {K : Type} [NumberText K]

/-- A report fails exactly the trials that did not pass. -/
theorem isPassed_report (trial : Trial K)
    : trial.report.verdict.isPassed = trial.outcome.isPassed := by
  change trial.verdict.isPassed = _
  rw [verdict]
  cases trial.outcome.isPassed <;> rfl

end Trial

namespace Summary.Counts

variable {K : Type} [NumberText K] {summary : Summary} {trials : List (Trial K)}

theorem empty (seed : Option UInt64) : (Summary.empty seed).Counts ([] : List (Trial K)) :=
  ⟨rfl, rfl, rfl, rfl, rfl, rfl⟩

/-- One more trial is counted once, and under its own kind: one case for each kind of outcome. -/
theorem record (counted : summary.Counts trials) (trial : Trial K)
    : (summary.record trial.outcome).Counts (trials ++ [trial]) := by
  obtain ⟨total, failed, split, solver, dimension, equivalence⟩ := counted
  have verdict := trial.isPassed_report
  constructor
  case total => cases trial.outcome <;> simp [Summary.record, total]
  case failed =>
    rw [List.countP_append, ← failed, List.countP_singleton, verdict]
    cases trial.outcome <;> rfl
  case split =>
    cases trial.outcome <;> simp only [Summary.record] <;> omega
  all_goals
    rw [List.countP_append, List.countP_singleton]
    cases trial.outcome <;> simp [Summary.record, Outcome.kind, *]

end Summary.Counts

theorem Summary.seed_record {K : Type} (summary : Summary) (outcome : Outcome K)
    : (summary.record outcome).seed = summary.seed := by
  cases outcome <;> rfl

/-- Progress counts trials up to their number, and stays there. -/
theorem Progress.advance_after (completed total : Nat)
    : (after completed total).advance total = after (completed + 1) total := by
  unfold after
  split
  · rw [if_pos (by omega)]
    rfl
  · rfl

-----------------------------------------------------------------------------------------
-- Calls to the reporter
-----------------------------------------------------------------------------------------

namespace Reporter

/-- A call to a reporter. -/
inductive Call (K : Type)
  | relay (lines : List String)
  | publish (report : Report K)
  | finish (total failed : Nat)

/-- A reporter together with the calls it was given. -/
structure Logged (K ρ : Type) where
  inner : ρ
  calls : List (Call K)

instance {K ρ : Type} [Reporter K ρ] : Reporter K (Logged K ρ) where
  publish report log :=
    let (result, inner) := publish report log.inner
    (result, ⟨inner, log.calls ++ [.publish report]⟩)
  finish total failed log :=
    let (result, inner) := finish K total failed log.inner
    (result, ⟨inner, log.calls ++ [.finish total failed]⟩)
  relay lines log := ⟨relay K lines log.inner, log.calls ++ [.relay lines]⟩

end Reporter

/-- The calls to the reporter that one trial makes. -/
def Trial.calls {K : Type} [NumberText K] (trial : Trial K) : List (Reporter.Call K) :=
  [.relay trial.lines, .publish trial.report]

namespace Sweep

variable {K σ τ ρ : Type} [Scalar K] [NumberText K] [SymmetricSpectrum K] [Reporter K ρ]
  {t : Tester K σ τ} {total : Nat} {scale : K} {scales : List K} {trial : Trial K}
  {trials : List (Trial K)} {s next final : Sweep K σ τ ρ}

omit [Scalar K] [NumberText K] [SymmetricSpectrum K] [Reporter K ρ] in
/-- A sweep whose reporter keeps a log that starts with some calls. -/
def logged (calls : List (Reporter.Call K)) (s : Sweep K σ τ ρ)
    : Sweep K σ τ (Reporter.Logged K ρ) :=
  { s with reporter := ⟨s.reporter, calls⟩ }

/-- A log takes note of a trial and changes nothing else. -/
theorem Carries.logged (carries : Carries t total scale s trial next)
    (calls : List (Reporter.Call K))
    : Carries t total scale (s.logged calls) trial (next.logged (calls ++ trial.calls)) := by
  obtain ⟨generated, evaluated, published, index, summary, progress⟩ := carries
  refine ⟨generated, evaluated, ?_, index, summary, progress⟩
  have kept : calls ++ trial.calls = calls ++ [.relay trial.lines] ++ [.publish trial.report] := by
    rw [List.append_assoc]
    rfl
  simp only [Sweep.logged, Reporter.publish, Reporter.relay, kept, published]

/-- A trial is counted once. -/
theorem Carries.counts (carries : Carries t total scale s trial next) {before : List (Trial K)}
    (counted : s.summary.Counts before)
    : next.summary.Counts (before ++ [trial]) := by
  rw [carries.summary]
  exact counted.record trial

namespace Trials

/-- A log takes note of one trial after the other, by induction along them. -/
theorem logged (chain : Trials t total scales s trials final) (calls : List (Reporter.Call K))
    : Trials t total scales (s.logged calls) trials
        (final.logged (calls ++ trials.flatMap Trial.calls)) := by
  induction chain generalizing calls with
  | nil =>
      rw [List.flatMap_nil, List.append_nil]
      exact .nil
  | cons first later ih =>
      rw [List.flatMap_cons, ← List.append_assoc]
      exact .cons (first.logged calls) (ih _)

/-- The counters stay with the trials, by induction along them. -/
theorem counts (chain : Trials t total scales s trials final) {before : List (Trial K)}
    (counted : s.summary.Counts before)
    : final.summary.Counts (before ++ trials) := by
  induction chain generalizing before with
  | nil => simpa using counted
  | cons first later ih =>
      have all := ih (first.counts counted)
      rwa [List.append_assoc, List.singleton_append] at all

/-- A sweep has come as far as its place says, by induction along the trials. -/
theorem progress_eq (chain : Trials t total scales s trials final)
    (inStep : s.progress = .after s.index total)
    : final.progress = .after final.index total := by
  induction chain with
  | nil => exact inStep
  | cons first later ih =>
      apply ih
      rw [first.progress, first.index, inStep, Progress.advance_after]

/-- The seed is never touched. -/
theorem seed_eq (chain : Trials t total scales s trials final)
    : final.summary.seed = s.summary.seed := by
  induction chain with
  | nil => rfl
  | cons first later ih => rw [ih, first.summary, Summary.seed_record]

end Trials

-----------------------------------------------------------------------------------------
-- Whole sweeps
-----------------------------------------------------------------------------------------

variable {entropy : UInt64} {reference : σ} {candidate : τ} {reporter reporter' : ρ}
  {summary : Summary}

/-- After some trials of its schedule a sweep is done exactly if these are all. -/
theorem Trials.progress_opened {count : Nat} (bounded : count ≤ t.config.trialCount)
    (chain
      : Trials t t.config.trialCount (t.config.schedule.take count)
          (opened t entropy reference candidate reporter) trials final)
    : final.progress = if count < t.config.trialCount then .running count else .done := by
  have place : final.index = count := by
    rw [chain.index_eq, chain.length_eq, List.length_take, t.config.length_schedule]
    exact (Nat.zero_add _).trans (Nat.min_eq_left bounded)
  rw [chain.progress_eq rfl, place, Progress.after]
  split
  · rw [if_neg (by omega)]
  · rw [if_pos (by omega)]

/-- A sweep is done when its rounds are through. -/
theorem done_of_runRounds
    (ran
      : runRounds t t.config.trialCount t.config.repetitions
          (opened t entropy reference candidate reporter) = (.ok (), final))
    : final.progress = .done := by
  rw [runRounds_eq_runScales] at ran
  obtain ⟨trials, chain⟩ := trials_of_runScales ran
  have whole : t.config.schedule = t.config.schedule.take t.config.trialCount := by
    rw [← t.config.length_schedule, List.take_length]
  rw [← Config.schedule, whole] at chain
  rw [chain.progress_opened (Nat.le_refl _), if_neg (Nat.lt_irrefl _)]

/-- A sweep whose trials are all carried out ends with their summary, once its reporter takes the
totals.
-/
theorem run_of_trials (counted : t.config.trialCount < wordBound)
    (chain
      : Trials t t.config.trialCount t.config.schedule
          (opened t entropy reference candidate reporter) trials final)
    (finished
      : Reporter.finish K final.summary.totalTrials final.summary.failedTrials final.reporter
        = (.ok (), reporter'))
    : Sweep.run t entropy reference candidate reporter = (.ok final.summary, reporter') := by
  have rounds := chain.runScales_eq
  rw [Config.schedule, ← runRounds_eq_runScales] at rounds
  have done := done_of_runRounds rounds
  rw [opened] at rounds
  simp only [Sweep.run, Config.totalTrials?_eq_some.mpr ⟨counted, rfl⟩, rounds, finish, done,
    finished]

/-- What a sweep that ended with a summary leaves on its books: its trials in the order of the
schedule, the calls it made, its counters, and its progress after any number of trials.
-/
structure Books (t : Tester K σ τ) (entropy : UInt64) (reference : σ) (candidate : τ)
    (reporter reporter' : ρ) (summary : Summary) (trials : List (Trial K))
    : Prop where
  length_eq : trials.length = t.config.trialCount
  placed
    : ∀ i trial,
        trials[i]? = some trial →
          trial.report.trial = i
            ∧ t.config.costScales[i % t.config.costScales.length]? = some trial.report.costScale
  calls
    : Sweep.run t entropy reference candidate (⟨reporter, []⟩ : Reporter.Logged K ρ)
      = (.ok summary, ⟨reporter',
          trials.flatMap Trial.calls ++ [.finish t.config.trialCount summary.failedTrials]⟩)
  total : summary.totalTrials = t.config.trialCount
  seed : summary.seed = some (t.generator entropy).seed
  counts : summary.Counts trials
  progress
    : ∀ count ≤ t.config.trialCount,
        ∃ middle : Sweep K σ τ ρ,
          Trials t t.config.trialCount (t.config.schedule.take count)
              (opened t entropy reference candidate reporter) (trials.take count) middle
            ∧ middle.progress = if count < t.config.trialCount then .running count else .done

/-- Sweeps keep their books, whatever the solvers answer; and once all rounds are through, no sweep
is still running.
-/
theorem books_of_run (t : Tester K σ τ) (entropy : UInt64) (reference : σ) (candidate : τ)
    (reporter : ρ)
    : (∀ summary reporter',
        Sweep.run t entropy reference candidate reporter = (.ok summary, reporter') →
          ∃ trials, Books t entropy reference candidate reporter reporter' summary trials)
        ∧ ∀ final,
            runRounds t t.config.trialCount t.config.repetitions
                (opened t entropy reference candidate reporter) = (.ok (), final) →
              final.progress = .done := by
  constructor
  · intro summary reporter' ran
    obtain ⟨inRange, trials, final, chain, rfl, finished⟩ := trials_of_run ran
    have length := chain.length_eq.trans t.config.length_schedule
    have counts : final.summary.Counts trials := chain.counts (.empty _)
    have total := counts.total.trans length
    refine ⟨trials, length, ?_, ?_, total, chain.seed_eq, counts, ?_⟩
    · intro i trial found
      obtain ⟨place, scale⟩ := chain.placed found
      have inside : i < t.config.trialCount := length ▸ (List.getElem?_eq_some_iff.mp found).1
      rw [t.config.getElem?_schedule inside] at scale
      exact ⟨place.trans (Nat.zero_add i), scale⟩
    · refine run_of_trials inRange (chain.logged []) ?_
      rw [total] at finished
      simp only [Sweep.logged, Reporter.finish, List.nil_append, total, finished]
    · intro count bounded
      obtain ⟨middle, before⟩ := chain.take count
      exact ⟨middle, before, before.progress_opened bounded⟩
  · intro final ran
    exact done_of_runRounds ran

/-- A reference that is right, far off, of another length and silent in turn. -/
def unsteady : StandIn Float :=
  .sequence "unsteady"
    [.fixed "right" ⟨[1], .optimal, 0, 1⟩, .fixed "far" ⟨[3], .optimal, 0, 1⟩,
      .fixed "long" ⟨[1, 1], .optimal, 0, 1⟩, .failing "silent" (.io "no answer")] 0

def steady : StandIn Float :=
  .fixed "steady" ⟨[1], .optimal, 0, 1⟩

/-- Two rounds over two cost scales. -/
def fourTrials : Tester Float (StandIn Float) (StandIn Float) where
  solvers := ⟨unsteady.solver, steady.solver⟩
  config := { (Config.standard : Config Float) with
    repetitions := 2
    costScales := [1, 2]
    seed := some 7 }
  interleaving _ := []

/-- Four trials of which one passes and the others fail in three ways. -/
theorem fourTrials_books
    : (Sweep.run fourTrials 0 unsteady steady (Memory.empty : Memory Float)).1
        = .ok ⟨4, 3, 1, 1, 1, some 7⟩
      ∧ ∃ reporter' trials,
          Books fourTrials 0 unsteady steady (Memory.empty : Memory Float) reporter'
            ⟨4, 3, 1, 1, 1, some 7⟩ trials := by
  have ran : (Sweep.run fourTrials 0 unsteady steady (Memory.empty : Memory Float)).1
      = .ok ⟨4, 3, 1, 1, 1, some 7⟩ := by decide +kernel
  obtain ⟨trials, books⟩ :=
    (books_of_run fourTrials 0 unsteady steady Memory.empty).1 _ _ (Prod.fst_eq_iff.mp ran)
  exact ⟨ran, _, trials, books⟩

end Sweep

end QuadraticTrials

import Mathlib
import QuadraticTrials.Proofs.CommandLine
import QuadraticTrials.Proofs.Sweep.Simulation

/-!
Replayed sweeps. A seed settles a sweep, whoever chose it; and with fewer repetitions a sweep is the
first part of the longer one.
-/

namespace QuadraticTrials

-----------------------------------------------------------------------------------------
-- Schedules and counters of first parts
-----------------------------------------------------------------------------------------

theorem Config.schedule_initial {K : Type} {short long : Config K}
    (scales : short.costScales = long.costScales) (fewer : short.repetitions ≤ long.repetitions)
    : short.schedule <+: long.schedule := by
  obtain ⟨more, extra⟩ := Nat.exists_eq_add_of_le fewer
  rw [schedule, schedule, scales, extra, List.replicate_add, List.flatten_append]
  exact List.prefix_append _ _

/-- Each counter of a summary is at most the same counter of another. -/
def Summary.AtMost (short long : Summary) : Prop :=
  List.Forall₂ (fun c c' => c.1 = c'.1 ∧ c.2 ≤ c'.2) short.counters long.counters

theorem Summary.Counts.atMost {K : Type} [NumberText K] {short long : Summary}
    {trials trials' : List (Trial K)} (counted : short.Counts trials)
    (counted' : long.Counts trials') (fewer : trials.Sublist trials')
    : short.AtMost long := by
  rw [AtMost, counters, counters, counted.total, counted.failed, counted.solver,
    counted.dimension, counted.equivalence, counted'.total, counted'.failed, counted'.solver,
    counted'.dimension, counted'.equivalence]
  exact .cons ⟨rfl, fewer.length_le⟩ (.cons ⟨rfl, fewer.countP_le⟩ (.cons ⟨rfl, fewer.countP_le⟩
    (.cons ⟨rfl, fewer.countP_le⟩ (.cons ⟨rfl, fewer.countP_le⟩ .nil))))

-----------------------------------------------------------------------------------------
-- Testers that evaluate alike
-----------------------------------------------------------------------------------------

namespace Tester

variable {K σ τ : Type} [Scalar K] [NumberText K] {first : Solver K σ} {second : Solver K τ}
  {config : Config K} {interleaving interleaving' : Nat → List Role} {t t' : Tester K σ τ}

/-- Seed and repetitions have no part in a trial, and neither has the order in which parallel
workers move.
-/
theorem evaluate_of_make {seed : Option UInt64} {repetitions : Nat}
    (made : Tester.make first second config interleaving = .ok t)
    (made' : Tester.make first second { config with seed, repetitions } interleaving' = .ok t')
    : t'.evaluate = t.evaluate := by
  unfold make at made made'
  split at made
  · cases made
  split at made'
  · cases made'
  cases made
  cases made'
  funext index scale inst reference candidate
  cases parallel : config.parallelSolves with
  | true => simp only [evaluate, solveBoth, parallel, if_true, Solvers.solveParallel_eq, options]
  | false =>
      simp only [evaluate, solveBoth, parallel, Bool.false_eq_true, if_false, options]

/-- The same seed gives the same generator, whoever chose it. -/
theorem generator_of_make {seed : Option UInt64} {repetitions : Nat} {entropy entropy' : UInt64}
    (made : Tester.make first second config interleaving = .ok t)
    (made' : Tester.make first second { config with seed, repetitions } interleaving' = .ok t')
    (same : seed.getD entropy' = config.seed.getD entropy)
    : t'.generator entropy' = t.generator entropy := by
  rw [generator, generator, (accepted_of_make made).1, (accepted_of_make made').1]
  dsimp only
  rw [same]

theorem exists_make_seed (seed : Option UInt64) (interleaving' : Nat → List Role)
    (made : Tester.make first second config interleaving = .ok t)
    : ∃ t', Tester.make first second { config with seed } interleaving' = .ok t' := by
  have accepted : ({ config with seed } : Config K).check = .ok () := (accepted_of_make made).2
  exact exists_make accepted first second interleaving'

end Tester

namespace Sweep

open Reporter

variable {K σ τ ρ : Type} [Scalar K] [NumberText K] [SymmetricSpectrum K] [Reporter K ρ]
  {t t' : Tester K σ τ} {reference : σ} {candidate : τ} {reporter : ρ}

-----------------------------------------------------------------------------------------
-- The same seed
-----------------------------------------------------------------------------------------

/-- Testers that evaluate alike carry out the same trials, by induction on the scales. -/
theorem runScales_congr (same : t'.evaluate = t.evaluate) (total : Nat) (scales : List K)
    (s : Sweep K σ τ ρ)
    : runScales t' total scales s = runScales t total scales s := by
  induction scales generalizing s with
  | nil => rfl
  | cons scale rest ih =>
      have trial : runTrial t' total scale s = runTrial t total scale s := by
        rw [runTrial, runTrial, same]
      rw [runScales, runScales, trial]
      split
      · rfl
      · exact ih _

/-- Testers that evaluate alike run the same sweep over the same schedule from the same generator.
-/
theorem run_congr {entropy entropy' : UInt64} (same : t'.evaluate = t.evaluate)
    (generator : t'.generator entropy' = t.generator entropy)
    (scales : t'.config.costScales = t.config.costScales)
    (repetitions : t'.config.repetitions = t.config.repetitions)
    : Sweep.run t' entropy' reference candidate reporter
      = Sweep.run t entropy reference candidate reporter := by
  have count : t'.config.totalTrials? = t.config.totalTrials? := by
    rw [Config.totalTrials?, Config.totalTrials?, scales, repetitions]
  simp only [Sweep.run, runRounds_eq_runScales, runScales_congr same, count, generator, scales,
    repetitions]

theorem seed_of_run {entropy : UInt64} {summary : Summary} {reporter' : ρ}
    (ran : Sweep.run t entropy reference candidate reporter = (.ok summary, reporter'))
    : summary.seed = some (t.config.seed.getD entropy) := by
  obtain ⟨-, trials, final, chain, rfl, -⟩ := trials_of_run ran
  exact chain.seed_eq

-----------------------------------------------------------------------------------------
-- Fewer repetitions
-----------------------------------------------------------------------------------------

/-- A sweep with fewer repetitions, beside the longer one with the same seed. -/
structure Shortens (t t' : Tester K σ τ) (entropy entropy' : UInt64) : Prop where
  evaluate : t'.evaluate = t.evaluate
  generator : t'.generator entropy' = t.generator entropy
  schedule : t.config.schedule <+: t'.config.schedule

variable {entropy entropy' : UInt64} {good : ρ → Prop} {scales : List K}
  {trials : List (Trial K)} {cause : Cause K} {stop : Stop} {final : Sweep K σ τ ρ}

namespace Shortens

variable (shortens : Shortens t t' entropy entropy') (willing : Reporter.Willing K good)
  (well : good reporter)

include shortens willing well

omit [NumberText K] [SymmetricSpectrum K] [Reporter K ρ] willing well in
theorem alike_opened
    : Alike (opened t' entropy' reference candidate reporter)
        (opened t entropy reference candidate reporter) := by
  -- The generators are rewritten before any field is compared, so that no seed is evaluated.
  constructor <;> simp only [opened, start, shortens.generator]

/-- The shorter sweep carries out the trials of any first part of its schedule that the longer one
carries out.
-/
theorem exists_trials {first : List K}
    (chain
      : Trials t' t'.config.trialCount first (opened t' entropy' reference candidate reporter)
          trials final)
    : ∃ final' : Sweep K σ τ ρ,
        Trials t t.config.trialCount first (opened t entropy reference candidate reporter) trials
            final'
          ∧ Alike final final' :=
  have ⟨final', chain', alike, _⟩ :=
    chain.simulate (simulates_alike _ _ willing shortens.evaluate.symm) []
      ⟨shortens.alike_opened, well⟩
  ⟨final', chain', alike⟩

/-- The shorter sweep comes through once the longer one has carried out as many trials, and its
trials are the first ones of the longer one.
-/
theorem run_of_trials (counted : t.config.trialCount < wordBound) {first : List K}
    (initial : first <+: t'.config.schedule) (enough : t.config.trialCount ≤ first.length)
    (chain
      : Trials t' t'.config.trialCount first (opened t' entropy' reference candidate reporter)
          trials final)
    : ∃ summary log,
        Sweep.run t entropy reference candidate (Receipts.blank reporter : Receipts K ρ)
            = (.ok summary, log)
          ∧ log.taken = (trials.take t.config.trialCount).map Trial.report
          ∧ summary.Counts (trials.take t.config.trialCount) := by
  obtain ⟨middle, before⟩ := chain.take t.config.trialCount
  have whole : first.take t.config.trialCount = t.config.schedule := by
    rw [← t.config.length_schedule]
    refine (List.prefix_iff_eq_take.mp ?_).symm
    refine List.prefix_of_prefix_length_le shortens.schedule initial ?_
    rwa [t.config.length_schedule]
  rw [whole] at before
  obtain ⟨final', chain', -⟩ := shortens.exists_trials willing well before
  obtain ⟨reporter', finished⟩ := willing.finish final'.summary.totalTrials
    final'.summary.failedTrials final'.reporter (chain'.well_kept willing well)
  refine ⟨_, _, chain'.run_receipts counted finished, rfl, ?_⟩
  exact chain'.counts (Summary.Counts.empty _)

/-- The shorter sweep is broken off where the longer one is, if it comes so far. -/
theorem run_of_breaks (counted : t.config.trialCount < wordBound)
    (breaks
      : Breaks t' t'.config.trialCount t'.config.schedule
          (opened t' entropy' reference candidate reporter) trials cause stop final)
    (early : trials.length < t.config.trialCount)
    : ∃ log,
        Sweep.run t entropy reference candidate (Receipts.blank reporter : Receipts K ρ)
            = (.error stop, log)
          ∧ log.taken = trials.map Trial.report := by
  have untaken := breaks.refused_eq_nil willing well
  obtain ⟨reached, before, stops⟩ := breaks
  obtain ⟨middle', before', alike⟩ := shortens.exists_trials willing well before
  obtain ⟨next', stops', -⟩ := stops.alike shortens.evaluate.symm alike untaken
  -- The scale at which the longer sweep is broken off stands in the shorter schedule too.
  rename_i done rest scale middle
  have within : done ++ [scale] <+: t'.config.schedule :=
    ⟨rest, by rw [reached, List.append_assoc, List.singleton_append]⟩
  have inside : done ++ [scale] <+: t.config.schedule := by
    refine List.prefix_of_prefix_length_le within shortens.schedule ?_
    rw [t.config.length_schedule, List.length_append, ← before.length_eq]
    exact early
  obtain ⟨more, split⟩ := inside
  rw [List.append_assoc, List.singleton_append] at split
  exact ⟨_, (Breaks.at split.symm before' stops').run_receipts counted, rfl⟩

end Shortens

/-- A sweep gives the first part of what a longer one gives, up to a number of trials: it publishes
the first reports, all of that number if it ends with a summary; it aborts where the longer one
does, if that comes so early, and it ends with a summary otherwise; and its counters are no larger.
-/
structure Begins (count : Nat) (short long : Except Stop Summary × Receipts K ρ) : Prop where
  taken : short.2.taken = long.2.taken.take count
  aborted
    : ∀ stop,
        long.1 = .error stop → long.2.taken.length < count →
          short.1 = .error stop ∧ short.2.taken = long.2.taken
  ended : count ≤ long.2.taken.length → ∃ summary, short.1 = .ok summary
  complete : ∀ summary, short.1 = .ok summary → short.2.taken.length = count
  counters
    : ∀ summary summary', short.1 = .ok summary → long.1 = .ok summary' → summary.AtMost summary'

namespace Shortens

variable (shortens : Shortens t t' entropy entropy') (willing : Reporter.Willing K good)
  (well : good reporter) (counted : t.config.trialCount < wordBound)
  (counted' : t'.config.trialCount < wordBound)

include shortens willing well counted counted'

theorem begins_of_trials
    (chain
      : Trials t' t'.config.trialCount t'.config.schedule
          (opened t' entropy' reference candidate reporter) trials final)
    : Begins t.config.trialCount
        (Sweep.run t entropy reference candidate (Receipts.blank reporter : Receipts K ρ))
        (Sweep.run t' entropy' reference candidate (Receipts.blank reporter : Receipts K ρ)) := by
  have fits : t.config.trialCount ≤ t'.config.schedule.length := by
    rw [← t.config.length_schedule]
    exact shortens.schedule.length_le
  obtain ⟨reporter', finished⟩ := willing.finish final.summary.totalTrials
    final.summary.failedTrials final.reporter (chain.well_kept willing well)
  obtain ⟨summary, log, short, taken, counts⟩ :=
    shortens.run_of_trials willing well counted List.prefix_rfl fits chain
  rw [short, chain.run_receipts counted' finished]
  refine ⟨?_, fun stop aborted => (by cases aborted), fun _ => ⟨summary, rfl⟩, fun _ _ => ?_, ?_⟩
  · rw [taken, List.map_take]
  · rw [← chain.length_eq] at fits
    rw [taken, List.length_map, List.length_take_of_le fits]
  · rintro _ _ ⟨⟩ ⟨⟩
    exact counts.atMost (chain.counts (Summary.Counts.empty _)) (List.take_sublist _ _)

/-- A sweep gives the first part of a longer one that is broken off: it is broken off there too, or
it has come through before.
-/
theorem begins_of_breaks
    (breaks
      : Breaks t' t'.config.trialCount t'.config.schedule
          (opened t' entropy' reference candidate reporter) trials cause stop final)
    : Begins t.config.trialCount
        (Sweep.run t entropy reference candidate (Receipts.blank reporter : Receipts K ρ))
        (Sweep.run t' entropy' reference candidate (Receipts.blank reporter : Receipts K ρ)) := by
  rw [breaks.run_receipts counted']
  rcases Nat.lt_or_ge trials.length t.config.trialCount with early | late
  · obtain ⟨log, short, taken⟩ := shortens.run_of_breaks willing well counted breaks early
    rw [short]
    refine ⟨?_, ?_, fun enough => ?_, fun _ ended => (by cases ended),
      fun _ _ ended => (by cases ended)⟩
    · rw [taken, List.take_of_length_le]
      rw [List.length_map]
      exact early.le
    · rintro _ ⟨⟩ -
      exact ⟨rfl, taken⟩
    · rw [List.length_map] at enough
      omega
  · obtain ⟨reached, before, -⟩ := breaks
    obtain ⟨summary, log, short, taken, -⟩ :=
      shortens.run_of_trials willing well counted (reached ▸ List.prefix_append _ _)
        (before.length_eq ▸ late) before
    rw [short]
    refine ⟨?_, fun _ _ early => ?_, fun _ => ⟨summary, rfl⟩, fun _ _ => ?_,
      fun _ _ _ ended => (by cases ended)⟩
    · rw [taken, List.map_take]
    · rw [List.length_map] at early
      omega
    · rw [taken, List.length_map, List.length_take_of_le late]

/-- A sweep that shortens another gives the first part of it: by cases on how the longer one ends.
-/
theorem begins
    : Begins t.config.trialCount
        (Sweep.run t entropy reference candidate (Receipts.blank reporter : Receipts K ρ))
        (Sweep.run t' entropy' reference candidate (Receipts.blank reporter : Receipts K ρ)) := by
  cases ran
      : runScales t' t'.config.trialCount t'.config.schedule
          (opened t' entropy' reference candidate reporter) with
  | mk result final =>
      cases result with
      | ok done =>
          obtain ⟨trials, chain⟩ := trials_of_runScales ran
          exact shortens.begins_of_trials willing well counted counted' chain
      | error stop =>
          obtain ⟨trials, cause, breaks⟩ := breaks_of_runScales ran
          exact shortens.begins_of_breaks willing well counted counted' breaks

end Shortens

-----------------------------------------------------------------------------------------
-- Sweeps from configurations
-----------------------------------------------------------------------------------------

omit [SymmetricSpectrum K] in
/-- A sweep under a configuration shortens the one with more repetitions and the same seed. -/
theorem shortens_of_make {first : Solver K σ} {second : Solver K τ} {config : Config K}
    {repetitions : Nat} {interleaving interleaving' : Nat → List Role}
    (made : Tester.make first second config interleaving = .ok t)
    (made' : Tester.make first second { config with repetitions } interleaving' = .ok t')
    (fewer : config.repetitions ≤ repetitions)
    (same : config.seed.getD entropy = config.seed.getD entropy')
    : Shortens t t' entropy entropy' := by
  refine ⟨Tester.evaluate_of_make made made', Tester.generator_of_make made made' same.symm, ?_⟩
  rw [(Tester.accepted_of_make made).1, (Tester.accepted_of_make made').1]
  exact Config.schedule_initial rfl fewer

/-- Sweeps can be reproduced. The seed that a summary reports gives the same reports and the same
summary again, and with fewer repetitions the same seed gives the first part of the sweep.
-/
theorem reproducible_runs (first : Solver K σ) (second : Solver K τ)
    (interleaving interleaving' : Nat → List Role) (reference : σ) (candidate : τ) (reporter : ρ)
    : (∀ config t entropy summary log seed,
        Tester.make first second config interleaving = .ok t →
          config.seed = none →
            Sweep.run t entropy reference candidate (Receipts.blank reporter : Receipts K ρ)
                = (.ok summary, log) →
              summary.seed = some seed →
                ∃ t',
                  Tester.make first second { config with seed := some seed } interleaving' = .ok t'
                    ∧ ∀ entropy',
                        Sweep.run t' entropy' reference candidate
                            (Receipts.blank reporter : Receipts K ρ)
                          = (.ok summary, log))
        ∧ ∀ (config : Config K) repetitions t t' entropy entropy' (good : ρ → Prop),
            Tester.make first second config interleaving = .ok t →
              Tester.make first second { config with repetitions } interleaving' = .ok t' →
                config.repetitions ≤ repetitions →
                  ({ config with repetitions } : Config K).trialCount < wordBound →
                    config.seed.getD entropy = config.seed.getD entropy' →
                      Reporter.Willing K good → good reporter →
                        Begins config.trialCount
                          (Sweep.run t entropy reference candidate
                            (Receipts.blank reporter : Receipts K ρ))
                          (Sweep.run t' entropy' reference candidate
                            (Receipts.blank reporter : Receipts K ρ)) := by
  constructor
  · intro config t entropy summary log seed made unseeded ran reported
    obtain ⟨t', made'⟩ := Tester.exists_make_seed (some seed) interleaving' made
    refine ⟨t', made', fun entropy' => ?_⟩
    have chosen := (seed_of_run ran).symm.trans reported
    have same := (Tester.accepted_of_make made).1
    have same' := (Tester.accepted_of_make made').1
    rw [same, unseeded, Option.getD_none] at chosen
    cases chosen
    rw [← ran]
    refine run_congr (Tester.evaluate_of_make made made')
      (Tester.generator_of_make made made' ?_) ?_ ?_
    · rw [unseeded]
      rfl
    all_goals rw [same, same']
  · intro config repetitions t t' entropy entropy' good made made' fewer counted' seeded willing
      well
    have shortens := shortens_of_make made made' fewer seeded
    have fits := shortens.schedule.length_le
    rw [Config.length_schedule, Config.length_schedule] at fits
    obtain ⟨rfl, -⟩ := Tester.accepted_of_make made
    rw [← (Tester.accepted_of_make made').1] at counted'
    exact shortens.begins willing well (fits.trans_lt counted') counted'

/-- The four trials with a seed that is left to chance. -/
def unseededTrials : Tester Float (StandIn Float) (StandIn Float) :=
  { fourTrials with config := { fourTrials.config with seed := none } }

/-- One round over the two cost scales of the four trials. -/
def twoTrials : Tester Float (StandIn Float) (StandIn Float) :=
  { fourTrials with config := { fourTrials.config with repetitions := 1 } }

/-- Chance comes up with the seed of the four trials, which then give their summary again; and two
trials are the first ones of the four.
-/
theorem fourTrials_replayed
    : (∃ summary log,
        summary.seed = some 7
          ∧ Sweep.run unseededTrials 7 unsteady steady
              (Receipts.blank .empty : Receipts Float (Memory Float))
            = (.ok summary, log)
          ∧ ∃ t',
              Tester.make unsteady.solver steady.solver fourTrials.config (fun _ => []) = .ok t'
                ∧ ∀ entropy',
                    Sweep.run t' entropy' unsteady steady
                        (Receipts.blank .empty : Receipts Float (Memory Float))
                      = (.ok summary, log))
      ∧ Begins 2
          (Sweep.run twoTrials 0 unsteady steady
            (Receipts.blank .empty : Receipts Float (Memory Float)))
          (Sweep.run fourTrials 0 unsteady steady
            (Receipts.blank .empty : Receipts Float (Memory Float))) := by
  have ran : (Sweep.run unseededTrials 7 unsteady steady
      (Receipts.blank .empty : Receipts Float (Memory Float))).1
        = .ok ⟨4, 3, 1, 1, 1, some 7⟩ := by decide +kernel
  obtain ⟨replays, shortens⟩ := reproducible_runs unsteady.solver steady.solver (fun _ => [])
    (fun _ => []) unsteady steady (Memory.empty : Memory Float)
  refine ⟨⟨_, _, rfl, Prod.fst_eq_iff.mp ran, ?_⟩, ?_⟩
  · exact replays unseededTrials.config unseededTrials 7 _ _ 7 rfl rfl (Prod.fst_eq_iff.mp ran) rfl
  · exact shortens twoTrials.config 2 twoTrials fourTrials 0 0 _ rfl rfl (by decide) (by decide) rfl
      (Memory.willing Float) trivial

end Sweep

end QuadraticTrials

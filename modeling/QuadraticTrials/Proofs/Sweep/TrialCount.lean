import Mathlib
import QuadraticTrials.Proofs.CommandLine
import QuadraticTrials.Proofs.Sweep.Endings

/-!
Numbers of trials. The check of a configuration does not look at its repetitions, so that it accepts
more trials than a word can count. A sweep counts the trials of its schedule if it can; otherwise it
breaks down before the first one, and the program exits with the code of a breakdown.
-/

namespace QuadraticTrials

-----------------------------------------------------------------------------------------
-- Accepted configurations
-----------------------------------------------------------------------------------------

namespace Config

section Values

variable {K : Type} [Scalar K] {c : Config K}

/-- No number of repetitions makes a configuration acceptable or not. -/
theorem check_repetitions (c : Config K) (repetitions : Nat)
    : ({ c with repetitions } : Config K).check = c.check :=
  rfl

theorem costScales_length_pos (accepted : c.check = .ok ()) : 0 < c.costScales.length := by
  unfold check at accepted
  split at accepted
  · cases accepted
  · rename_i nonempty
    exact List.length_pos_iff.mpr fun empty => nonempty (List.isEmpty_iff.mpr empty)

/-- The trials of an accepted configuration can be counted up to some number of repetitions, the
smaller the more cost scales there are.
-/
theorem trialCount_lt_iff (accepted : c.check = .ok ())
    : c.trialCount < wordBound ↔ c.repetitions ≤ (wordBound - 1) / c.costScales.length := by
  have bound : 0 < wordBound := by decide
  rw [Nat.le_div_iff_mul_le (costScales_length_pos accepted), trialCount]
  omega

end Values

/-- The command line asks only for accepted configurations, as the options are checked last. -/
theorem check_of_configuration {a : Arguments} {contents : Except String String}
    {c : Config Float} (asked : a.configuration contents = .ok c)
    : c.check = .ok () := by
  simp only [Arguments.configuration] at asked
  split at asked
  case h_1 => cases asked
  case h_2 base read =>
    split at asked
    case h_1 => cases asked
    case h_2 valid =>
      cases asked
      exact validate_eq_ok_iff.mp valid

end Config

-----------------------------------------------------------------------------------------
-- Sweeps
-----------------------------------------------------------------------------------------

namespace Sweep

variable {K σ τ ρ : Type} [Scalar K] [NumberText K] [SymmetricSpectrum K] [Reporter K ρ]
  {t : Tester K σ τ}

/-- A sweep of more trials than can be counted breaks down before the first one. -/
theorem run_of_beyond (beyond : wordBound ≤ t.config.trialCount) (entropy : UInt64)
    (reference : σ) (candidate : τ) (reporter : ρ)
    : Sweep.run t entropy reference candidate reporter = (.error .crashed, reporter) := by
  have uncounted : t.config.totalTrials? = none := by
    refine Option.eq_none_iff_forall_ne_some.mpr fun total counted => ?_
    exact beyond.not_gt (Config.totalTrials?_eq_some.mp counted).1
  simp only [Sweep.run, uncounted]

/-- How the sweeps of a tester depend on the length of its schedule. -/
structure Counted (t : Tester K σ τ) (ρ : Type) [Reporter K ρ] : Prop where
  admitted : ∀ repetitions, ({ t.config with repetitions } : Config K).validate = .ok ()
  counted
    : ∀ total,
        t.config.totalTrials? = some total
          ↔ t.config.schedule.length < wordBound ∧ t.config.schedule.length = total
  range
    : t.config.schedule.length < wordBound
      ↔ t.config.repetitions ≤ (wordBound - 1) / t.config.costScales.length
  broken
    : wordBound ≤ t.config.schedule.length →
        ∀ entropy (reference : σ) (candidate : τ) (reporter : ρ),
          Sweep.run t entropy reference candidate reporter = (.error .crashed, reporter)
  carried
    : t.config.schedule.length < wordBound →
        ∀ entropy (reference : σ) (candidate : τ) (reporter : ρ),
          Sweep.run t entropy reference candidate reporter
            = match runScales t t.config.schedule.length t.config.schedule
                (start (t.generator entropy) t.config.schedule.length reference candidate
                  reporter) with
              | (.error stop, s) => (.error stop, s.reporter)
              | (.ok (), s) => s.finish
  summed
    : ∀ entropy (reference : σ) (candidate : τ) (reporter reporter' : ρ) summary,
        Sweep.run t entropy reference candidate reporter = (.ok summary, reporter') →
          summary.totalTrials = t.config.schedule.length
  unbroken
    : t.config.schedule.length < wordBound →
        ∀ (reference : σ) (candidate : τ), Guarded t reference candidate ρ →
          (∀ total failed (r : ρ), (Reporter.finish K total failed r).1 ≠ .error .crashed) →
            ∀ entropy (reporter : ρ),
              (Sweep.run t entropy reference candidate reporter).1 ≠ .error .crashed

theorem counted_of_check (accepted : t.config.check = .ok ()) : Counted t ρ := by
  have length := t.config.length_schedule
  refine ⟨fun repetitions => ?_, fun total => ?_, ?_, fun beyond => ?_, fun inside => ?_, ?_,
    fun inside reference candidate guarded finish => ?_⟩
  · exact Config.validate_eq_ok_iff.mpr (t.config.check_repetitions repetitions ▸ accepted)
  · rw [length]
    exact Config.totalTrials?_eq_some
  · rw [length]
    exact Config.trialCount_lt_iff accepted
  · exact run_of_beyond (length ▸ beyond)
  · rw [length] at inside ⊢
    exact fun entropy reference candidate reporter => run_eq inside
  · intro entropy reference candidate reporter reporter' summary ran
    obtain ⟨-, trials, final, chain, rfl, -⟩ := trials_of_run ran
    rw [(chain.counts (.empty _)).total, List.nil_append, chain.length_eq]
  · exact guarded.run_ne_crashed (length ▸ inside) finish

end Sweep

-----------------------------------------------------------------------------------------
-- Runs of the program
-----------------------------------------------------------------------------------------

namespace CommandLine

variable {a : Arguments} {contents : Except String String} {config : Config Float}

/-- A run that asks for more trials than can be counted shows nothing. -/
theorem execute_of_beyond (asked : a.configuration contents = .ok config)
    (beyond : wordBound ≤ config.trialCount) (entropy : UInt64)
    : execute a contents entropy = ⟨crashCode, none, #[]⟩ := by
  obtain ⟨t, made⟩ := Tester.exists_make (Config.check_of_configuration asked) reference.solver
    candidate.solver fun _ => []
  obtain ⟨same, -⟩ := Tester.accepted_of_make made
  have broken (terminal : Terminal)
      : sweep config entropy terminal = (.error .crashed, terminal) := by
    rw [sweep, made]
    exact Sweep.run_of_beyond (same ▸ beyond) entropy _ _ terminal
  simp only [execute, asked, broken]
  rfl

/-- A run in range has the code of an error or of a verdict. -/
theorem code_execute_le (asked : a.configuration contents = .ok config)
    (inside : config.trialCount < wordBound) (entropy : UInt64)
    : (execute a contents entropy).code ≤ 2 := by
  have unbroken := (exits_execute a contents entropy).unbroken config asked inside
  simp only [execute, asked]
  split
  case h_1 => exact le_rfl
  case h_2 crashed => exact absurd crashed unbroken
  case h_3 summary ended =>
    change summary.exitStatus.code ≤ 2
    cases summary.exitStatus <;> simp [ExitStatus.code]

/-- The program has the code of a breakdown exactly if it is asked for more trials than can be
counted, by cases on what it is called to do.
-/
theorem code_eq_crashCode_iff (words : List String) (contents : Except String String)
    (entropy : UInt64)
    : (run words contents entropy).code = crashCode
      ↔ ∃ a config,
          Arguments.empty.read words = some (.run a) ∧ a.configuration contents = .ok config
            ∧ wordBound ≤ config.schedule.length := by
  constructor
  · intro crashed
    unfold run at crashed
    split at crashed
    case h_1 => cases crashed
    case h_2 => cases crashed
    case h_3 => cases crashed
    case h_4 a parsed =>
      cases asked : a.configuration contents with
      | error e =>
          rw [execute, asked] at crashed
          cases crashed
      | ok config =>
          refine ⟨a, config, parsed, asked, not_lt.mp fun inside => ?_⟩
          rw [config.length_schedule] at inside
          have small := code_execute_le asked inside entropy
          rw [crashed] at small
          exact absurd small (by decide)
  · rintro ⟨a, config, parsed, asked, beyond⟩
    rw [config.length_schedule] at beyond
    simp only [run, parsed, execute_of_beyond asked beyond]

end CommandLine

/-- The check of a configuration leaves the number of its repetitions open. A sweep whose schedule
can be counted carries it out, with its length as total, and any other sweep breaks down before its
first trial; the program exits with the code of a breakdown exactly if it is asked for such a sweep.
-/
theorem sweeps_are_counted {K σ τ : Type} (ρ : Type) [Scalar K] [NumberText K]
    [SymmetricSpectrum K] [Reporter K ρ] (first : Solver K σ) (second : Solver K τ)
    (config : Config K) (interleaving : Nat → List Role)
    : (∀ t, Tester.make first second config interleaving = .ok t →
        t.config = config ∧ Sweep.Counted t ρ)
      ∧ ∀ words contents entropy,
        (CommandLine.run words contents entropy).code = 101
          ↔ ∃ a config,
              Arguments.empty.read words = some (.run a) ∧ a.configuration contents = .ok config
                ∧ wordBound ≤ config.schedule.length := by
  refine ⟨fun t made => ?_, CommandLine.code_eq_crashCode_iff⟩
  obtain ⟨same, accepted⟩ := Tester.accepted_of_make made
  exact ⟨same, Sweep.counted_of_check (same ▸ accepted)⟩

/-- The standard configuration with half as many repetitions as there are words. -/
def Config.endless : Config Float :=
  { Config.standard with repetitions := 9223372036854775808 }

theorem Config.endless_beyond : wordBound ≤ Config.endless.trialCount := by decide +kernel

/-- The endless configuration is accepted, but its sweep breaks down. The program has the code of a
breakdown when it is given this number of repetitions by an option or in a stored configuration, so
that it has been asked for more trials than can be counted.
-/
theorem endless_breaks
    : (∃ t,
        Tester.make CommandLine.reference.solver CommandLine.candidate.solver Config.endless
            (fun _ => []) = .ok t
          ∧ Sweep.run t 0 CommandLine.reference CommandLine.candidate (Memory.empty : Memory Float)
            = (.error .crashed, Memory.empty))
      ∧ (∃ a config,
        Arguments.empty.read ["--repetitions=9223372036854775808"] = some (.run a)
          ∧ a.configuration (.ok "") = .ok config ∧ wordBound ≤ config.schedule.length)
      ∧ ∃ a config,
        Arguments.empty.read ["--config=sweep.json"] = some (.run a)
          ∧ a.configuration (.ok "\x7b\"repetitions\": 9223372036854775808\x7d") = .ok config
          ∧ wordBound ≤ config.schedule.length := by
  obtain ⟨sweeps, programs⟩ := sweeps_are_counted (Memory Float) CommandLine.reference.solver
    CommandLine.candidate.solver Config.endless fun _ => []
  refine ⟨?_, (programs _ _ 0).mp (by decide +kernel), (programs _ _ 0).mp (by decide +kernel)⟩
  obtain ⟨t, made⟩ := Tester.exists_make (show Config.endless.check = .ok () from rfl)
    CommandLine.reference.solver CommandLine.candidate.solver fun _ => []
  obtain ⟨same, counted⟩ := sweeps t made
  refine ⟨t, made, counted.broken ?_ 0 _ _ _⟩
  rw [same, Config.length_schedule]
  exact Config.endless_beyond

/-- An accepted configuration need not have a number of trials in range. -/
theorem not_counted_of_validate
    : ¬∀ c : Config Float, c.repetitions < wordBound → c.validate = .ok () →
        ∃ total, c.totalTrials? = some total ∧ total = c.schedule.length := by
  intro bounded
  have valid : Config.endless.validate = .ok () := Config.validate_eq_ok_iff.mpr rfl
  obtain ⟨total, counted, -⟩ := bounded Config.endless (by decide +kernel) valid
  exact Config.endless_beyond.not_gt (Config.totalTrials?_eq_some.mp counted).1

end QuadraticTrials

import QuadraticTrials.Summary
import QuadraticTrials.Trial

/-!
Sweeps: every cost scale in every repetition gives one generated trial, which is reported and
counted. A failing trial does not end a sweep; a failing generator or reporter does.
-/

namespace QuadraticTrials

/-- A sweep between two trials, with the states of the solvers and of the reporter. -/
structure Sweep (K σ τ ρ : Type) where
  generator : Generator K
  reference : σ
  candidate : τ
  reporter : ρ
  index : Nat
  summary : Summary
  progress : Progress

namespace Sweep

variable {K σ τ ρ : Type} [Scalar K] [NumberText K] [SymmetricSpectrum K] [Reporter K ρ]

omit [Scalar K] [NumberText K] [SymmetricSpectrum K] [Reporter K ρ] in
/-- A sweep before its first trial. -/
def start (generator : Generator K) (total : Nat) (reference : σ) (candidate : τ) (reporter : ρ)
    : Sweep K σ τ ρ where
  generator
  reference
  candidate
  reporter
  index := 0
  summary := .empty (some generator.seed)
  progress := .start total

omit [Scalar K] [SymmetricSpectrum K] in
/-- Reports and counts a trial. -/
def publish (total : Nat) (trial : Trial K) (s : Sweep K σ τ ρ)
    : Except Stop Unit × Sweep K σ τ ρ :=
  match Reporter.publish trial.report (Reporter.relay K trial.lines s.reporter) with
  | (.error stop, reporter) => (.error stop, { s with reporter })
  | (.ok (), reporter) =>
      (.ok (), {
        s with
        reporter
        index := s.index + 1
        summary := s.summary.record trial.outcome
        progress := s.progress.advance total
      })

/-- One trial at a cost scale: generate, solve, judge, report, count. -/
def runTrial (t : Tester K σ τ) (total : Nat) (scale : K) (s : Sweep K σ τ ρ)
    : Except Stop Unit × Sweep K σ τ ρ :=
  match s.generator.generate scale with
  | (.error fault, generator) => (.error (.failed fault.toError), { s with generator })
  | (.ok inst, generator) =>
      let s := { s with generator }
      match t.evaluate s.index scale inst s.reference s.candidate with
      | none => (.error .crashed, s)
      | some (trial, reference, candidate) => publish total trial { s with reference, candidate }

/-- The trials of a list of cost scales, up to the first that stops the sweep. -/
def runScales (t : Tester K σ τ) (total : Nat)
    : List K → Sweep K σ τ ρ → Except Stop Unit × Sweep K σ τ ρ
  | [], s => (.ok (), s)
  | scale :: rest, s =>
      match runTrial t total scale s with
      | (.error stop, s) => (.error stop, s)
      | (.ok (), s) => runScales t total rest s

/-- The trials of a number of repetitions. -/
def runRounds (t : Tester K σ τ) (total : Nat)
    : (rounds : Nat) → Sweep K σ τ ρ → Except Stop Unit × Sweep K σ τ ρ
  | 0, s => (.ok (), s)
  | rounds + 1, s =>
      match runScales t total t.config.costScales s with
      | (.error stop, s) => (.error stop, s)
      | (.ok (), s) => runRounds t total rounds s

omit [Scalar K] [NumberText K] [SymmetricSpectrum K] in
/-- Hands the totals to the reporter, once every trial is done. -/
def finish (s : Sweep K σ τ ρ) : Except Stop Summary × ρ :=
  match s.progress with
  | .running _ => (.error .crashed, s.reporter)
  | .done =>
      match Reporter.finish K s.summary.totalTrials s.summary.failedTrials s.reporter with
      | (.error stop, reporter) => (.error stop, reporter)
      | (.ok (), reporter) => (.ok s.summary, reporter)

/-- A whole sweep. A number of trials that is out of range breaks it down at once. -/
def run (t : Tester K σ τ) (entropy : UInt64) (reference : σ) (candidate : τ) (reporter : ρ)
    : Except Stop Summary × ρ :=
  match t.config.totalTrials? with
  | none => (.error .crashed, reporter)
  | some total =>
      match runRounds t total t.config.repetitions
          (start (t.generator entropy) total reference candidate reporter) with
      | (.error stop, s) => (.error stop, s.reporter)
      | (.ok (), s) => s.finish

end Sweep

end QuadraticTrials

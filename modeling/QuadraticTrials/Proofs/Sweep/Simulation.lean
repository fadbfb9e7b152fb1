import Mathlib
import QuadraticTrials.Proofs.Sweep.Endings

/-!
Sweeps that go along with others: one that takes receipts of its reports, one that keeps logs of its
calls to the solvers, and one whose reporter takes everything.
-/

namespace QuadraticTrials

namespace Sweep

-----------------------------------------------------------------------------------------
-- Simulations
-----------------------------------------------------------------------------------------

section Simulation

variable {K σ τ ρ σ' τ' ρ' : Type} [Scalar K] [NumberText K] [SymmetricSpectrum K] [Reporter K ρ]
  [Reporter K ρ']

/-- A trial that is carried out in one sweep is carried out in a linked one as well, and the sweeps
stay linked. The link may depend on the trials so far.
-/
def Simulates (t : Tester K σ τ) (total : Nat) (t' : Tester K σ' τ') (total' : Nat)
    (link : List (Trial K) → Sweep K σ τ ρ → Sweep K σ' τ' ρ' → Prop)
    : Prop :=
  ∀ scale before s s' trial next,
    link before s s' →
      Carries t total scale s trial next →
        ∃ next', Carries t' total' scale s' trial next' ∧ link (before ++ [trial]) next next'

/-- Linked sweeps carry out the same trials, by induction along them. -/
theorem Trials.simulate {t : Tester K σ τ} {total : Nat} {t' : Tester K σ' τ'} {total' : Nat}
    {link : List (Trial K) → Sweep K σ τ ρ → Sweep K σ' τ' ρ' → Prop} {scales : List K}
    {trials : List (Trial K)} {s final : Sweep K σ τ ρ} {s' : Sweep K σ' τ' ρ'}
    (chain : Trials t total scales s trials final) (step : Simulates t total t' total' link)
    (before : List (Trial K)) (linked : link before s s')
    : ∃ final',
        Trials t' total' scales s' trials final' ∧ link (before ++ trials) final final' := by
  induction chain generalizing before s' with
  | nil =>
      rw [List.append_nil]
      exact ⟨s', .nil, linked⟩
  | cons first later ih =>
      obtain ⟨next', first', linked⟩ := step _ _ _ _ _ _ linked first
      obtain ⟨final', later', linked⟩ := ih _ linked
      rw [List.append_assoc, List.singleton_append] at linked
      exact ⟨final', .cons first' later', linked⟩

end Simulation

/-- Trials can be carried out after others, by induction along the first. -/
theorem Trials.append {K σ τ ρ : Type} [Scalar K] [NumberText K] [SymmetricSpectrum K]
    [Reporter K ρ] {t : Tester K σ τ} {total : Nat} {first later : List K}
    {s middle final : Sweep K σ τ ρ} {trials trials' : List (Trial K)}
    (before : Trials t total first s trials middle)
    (after : Trials t total later middle trials' final)
    : Trials t total (first ++ later) s (trials ++ trials') final := by
  induction before with
  | nil => exact after
  | cons carried rest ih => exact .cons carried (ih after)

end Sweep

-----------------------------------------------------------------------------------------
-- Receipts
-----------------------------------------------------------------------------------------

/-- A reporter together with the reports that it took and refused, and the totals it was given. -/
structure Reporter.Receipts (K ρ : Type) where
  inner : ρ
  taken : List (Report K)
  refused : List (Report K)
  totals : List (Nat × Nat)

namespace Reporter.Receipts

variable {K ρ : Type}

def blank (reporter : ρ) : Receipts K ρ :=
  ⟨reporter, [], [], []⟩

instance [Reporter K ρ] : Reporter K (Receipts K ρ) where
  publish report r :=
    match Reporter.publish report r.inner with
    | (.ok (), inner) => (.ok (), { r with inner, taken := r.taken ++ [report] })
    | (.error stop, inner) => (.error stop, { r with inner, refused := r.refused ++ [report] })
  finish total failed r :=
    let (result, inner) := Reporter.finish K total failed r.inner
    (result, { r with inner, totals := r.totals ++ [(total, failed)] })
  relay lines r := { r with inner := Reporter.relay K lines r.inner }

end Reporter.Receipts

namespace Sweep

section Receipts

open Reporter

variable {K σ τ ρ : Type} [Scalar K] [NumberText K] [SymmetricSpectrum K] [Reporter K ρ]
  {t : Tester K σ τ} {total : Nat} {scale : K} {scales : List K} {trials : List (Trial K)}
  {cause : Cause K} {stop : Stop} {s next final : Sweep K σ τ ρ}

omit [Scalar K] [NumberText K] [SymmetricSpectrum K] [Reporter K ρ] in
/-- A sweep whose reporter took and refused some reports. -/
def receipted (taken refused : List (Report K)) (s : Sweep K σ τ ρ)
    : Sweep K σ τ (Receipts K ρ) :=
  { s with reporter := ⟨s.reporter, taken, refused, []⟩ }

theorem simulates_receipted (t : Tester K σ τ) (total : Nat)
    : Simulates t total t total fun trials (s : Sweep K σ τ ρ) s' =>
        s' = s.receipted (trials.map Trial.report) [] := by
  rintro scale before s _ trial next rfl carries
  obtain ⟨generated, evaluated, published, index, summary, progress⟩ := carries
  refine ⟨next.receipted _ [], ⟨generated, evaluated, ?_, index, summary, progress⟩, rfl⟩
  simp only [receipted, Reporter.publish, Reporter.relay, published, List.map_append,
    List.map_singleton]

theorem Stops.receipted (stops : Stops t scale s cause stop next) (taken : List (Report K))
    : Stops t scale (s.receipted taken []) cause stop
        (next.receipted taken (cause.refused.map Trial.report)) := by
  cases stops with
  | generation failed => exact .generation failed
  | breakdown generated crashed => exact .breakdown generated crashed
  | publication generated evaluated refused =>
      refine .publication generated evaluated ?_
      simp only [Sweep.receipted, Reporter.publish, Reporter.relay, refused]
      rfl

theorem Trials.receipted (chain : Trials t total scales s trials final)
    : Trials t total scales (s.receipted [] []) trials
        (final.receipted (trials.map Trial.report) []) := by
  obtain ⟨_, chain, rfl⟩ := chain.simulate (simulates_receipted t total) [] rfl
  exact chain

/-- A sweep that is broken off leaves the reports of its trials taken, and no report refused but
that of the trial which was carried out in vain.
-/
theorem Breaks.receipted (breaks : Breaks t total scales s trials cause stop final)
    : Breaks t total scales (s.receipted [] []) trials cause stop
        (final.receipted (trials.map Trial.report) (cause.refused.map Trial.report)) := by
  obtain ⟨reached, before, stops⟩ := breaks
  exact .at reached before.receipted (stops.receipted _)

variable {entropy : UInt64} {reference : σ} {candidate : τ} {reporter reporter' : ρ}
  {result : Except Stop Unit}

/-- The receipts of a sweep that is broken off: no totals are given. -/
theorem Breaks.run_receipts (counted : t.config.trialCount < wordBound)
    (breaks
      : Breaks t t.config.trialCount t.config.schedule
          (opened t entropy reference candidate reporter) trials cause stop final)
    : Sweep.run t entropy reference candidate (Receipts.blank reporter : Receipts K ρ)
      = (.error stop, ⟨final.reporter, trials.map Trial.report,
          cause.refused.map Trial.report, []⟩) :=
  (run_eq_error_iff counted).mpr (.inl ⟨_, _, _, breaks.receipted, rfl⟩)

/-- The receipts of a sweep that comes through its schedule: the totals are given once. -/
theorem Trials.run_receipts (counted : t.config.trialCount < wordBound)
    (chain
      : Trials t t.config.trialCount t.config.schedule
          (opened t entropy reference candidate reporter) trials final)
    (finished
      : Reporter.finish K final.summary.totalTrials final.summary.failedTrials final.reporter
        = (result, reporter'))
    : Sweep.run t entropy reference candidate (Receipts.blank reporter : Receipts K ρ)
      = (result.map fun () => final.summary, ⟨reporter', trials.map Trial.report, [],
          [(final.summary.totalTrials, final.summary.failedTrials)]⟩) := by
  refine (chain.receipted.run_eq counted).trans ?_
  simp only [Sweep.receipted, Reporter.finish, finished, List.nil_append]

end Receipts

-----------------------------------------------------------------------------------------
-- Logs of the solvers
-----------------------------------------------------------------------------------------

section Logs

variable {K σ τ ρ : Type} [Scalar K] [NumberText K] [SymmetricSpectrum K] [Reporter K ρ]
  {t : Tester K σ τ} {total : Nat} {scale : K} {scales : List K} {trials : List (Trial K)}
  {cause : Cause K} {stop : Stop} {s next final : Sweep K σ τ ρ}

omit [Scalar K] [NumberText K] [SymmetricSpectrum K] [Reporter K ρ] in
/-- A sweep whose solvers were both called on some instances. -/
def watched (calls : List (Instance K)) (s : Sweep K σ τ ρ)
    : Sweep K (Solver.Logged K σ) (Solver.Logged K τ) ρ :=
  { s with reference := ⟨s.reference, calls⟩, candidate := ⟨s.candidate, calls⟩ }

theorem simulates_watched (t : Tester K σ τ) (total : Nat)
    : Simulates t total t.logged total fun trials (s : Sweep K σ τ ρ) s' =>
        s' = s.watched (trials.map Trial.inst) := by
  rintro scale before s _ trial next rfl carries
  obtain ⟨generated, evaluated, published, index, summary, progress⟩ := carries
  refine ⟨next.watched _, ⟨generated, ?_, published, index, summary, progress⟩, rfl⟩
  rw [Tester.evaluate_logged]
  simp only [watched, evaluated, Option.map_some, List.map_append, List.map_singleton]

/-- A trial stops a sweep that keeps logs for the same cause, once its own calls are noted. -/
theorem Stops.watched (stops : Stops t scale s cause stop next) (answered : cause ≠ .breakdown)
    (calls : List (Instance K))
    : Stops t.logged scale (s.watched calls) cause stop
        (next.watched (calls ++ cause.refused.map Trial.inst)) := by
  cases stops with
  | generation failed =>
      rw [Cause.refused, List.map_nil, List.append_nil]
      exact .generation failed
  | breakdown => exact absurd rfl answered
  | publication generated evaluated refused =>
      refine .publication generated ?_ refused
      rw [Tester.evaluate_logged]
      simp only [Sweep.watched, evaluated, Option.map_some, Cause.refused, List.map_singleton]

/-- In a sweep that is broken off both solvers were called on the instances of its trials, and
of the one that was carried out in vain, once each and in order.
-/
theorem Breaks.watched (breaks : Breaks t total scales s trials cause stop final)
    (answered : cause ≠ .breakdown)
    : Breaks t.logged total scales (s.watched []) trials cause stop
        (final.watched ((trials ++ cause.refused).map Trial.inst)) := by
  obtain ⟨reached, before, stops⟩ := breaks
  obtain ⟨_, before, rfl⟩ := before.simulate (simulates_watched t total) [] rfl
  rw [List.map_append]
  exact .at reached before (stops.watched answered _)

end Logs

end Sweep

-----------------------------------------------------------------------------------------
-- Reporters that take everything
-----------------------------------------------------------------------------------------

/-- In good states a reporter takes the report of every trial and all totals, and it stays in
such states.
-/
structure Reporter.Willing (K : Type) [NumberText K] {ρ : Type} [Reporter K ρ] (good : ρ → Prop)
    : Prop where
  publish
    : ∀ (trial : Trial K) r,
        good r →
          ∃ r',
            Reporter.publish trial.report (Reporter.relay K trial.lines r) = (.ok (), r') ∧ good r'
  finish : ∀ total failed r, good r → ∃ r', Reporter.finish K total failed r = (.ok (), r')

theorem Memory.willing (K : Type) [NumberText K]
    : Reporter.Willing K fun _ : Memory K => True :=
  ⟨fun _ _ _ => ⟨_, rfl, trivial⟩, fun _ _ _ _ => ⟨_, rfl⟩⟩

namespace Sweep

section Willing

variable {K σ τ ρ ρ' : Type} [Scalar K] [NumberText K] [SymmetricSpectrum K] [Reporter K ρ]
  [Reporter K ρ'] {t t' : Tester K σ τ} {total total' : Nat} {scale : K} {scales : List K}
  {trials : List (Trial K)} {cause : Cause K} {stop : Stop} {s next final : Sweep K σ τ ρ}
  {s' : Sweep K σ τ ρ'} {good : ρ' → Prop}

omit [Scalar K] [NumberText K] [SymmetricSpectrum K] [Reporter K ρ] [Reporter K ρ'] in
/-- Two sweeps stand alike, but for their reporters and their progress. -/
structure Alike (s : Sweep K σ τ ρ) (s' : Sweep K σ τ ρ') : Prop where
  generator : s'.generator = s.generator
  reference : s'.reference = s.reference
  candidate : s'.candidate = s.candidate
  index : s'.index = s.index
  summary : s'.summary = s.summary

namespace Alike

omit [NumberText K] [Reporter K ρ] [Reporter K ρ'] in
theorem generate_eq (alike : Alike s s') (scale : K)
    : s'.generator.generate scale = s.generator.generate scale := by
  rw [alike.generator]

omit [NumberText K] [SymmetricSpectrum K] [Reporter K ρ] [Reporter K ρ'] in
theorem evaluate_eq (alike : Alike s s') (same : t'.evaluate = t.evaluate) (scale : K)
    (inst : Instance K)
    : t'.evaluate s'.index scale inst s'.reference s'.candidate
      = t.evaluate s.index scale inst s.reference s.candidate := by
  rw [same, alike.index, alike.reference, alike.candidate]

omit [Reporter K ρ] in
/-- A trial that one sweep evaluates is carried out in another that stands alike, if the reporter of
that one takes everything.
-/
theorem exists_carries (alike : Alike s s') (total' : Nat) (willing : Reporter.Willing K good)
    (same : t'.evaluate = t.evaluate) (well : good s'.reporter) {trial : Trial K}
    {generator : Generator K} {reference : σ} {candidate : τ}
    (generated : s.generator.generate scale = (.ok trial.inst, generator))
    (evaluated
      : t.evaluate s.index scale trial.inst s.reference s.candidate
        = some (trial, reference, candidate))
    : ∃ next' : Sweep K σ τ ρ',
        Carries t' total' scale s' trial next' ∧ next'.generator = generator
          ∧ next'.reference = reference ∧ next'.candidate = candidate ∧ good next'.reporter := by
  rw [← alike.generate_eq] at generated
  rw [← alike.evaluate_eq same] at evaluated
  obtain ⟨reporter, published, better⟩ := willing.publish trial s'.reporter well
  refine ⟨{
      generator, reference, candidate, reporter
      index := s'.index + 1
      summary := s'.summary.record trial.outcome
      progress := s'.progress.advance total'
    }, ⟨generated, evaluated, published, rfl, rfl, rfl⟩, rfl, rfl, rfl, better⟩

end Alike

/-- A sweep whose reporter takes everything goes along, if its trials are evaluated alike. -/
theorem simulates_alike (total total' : Nat) (willing : Reporter.Willing K good)
    (same : t'.evaluate = t.evaluate)
    : Simulates t total t' total' fun _ (s : Sweep K σ τ ρ) s' =>
        Alike s s' ∧ good s'.reporter := by
  rintro scale before s s' trial next ⟨alike, well⟩ carries
  obtain ⟨generated, evaluated, -, index, summary, -⟩ := carries
  obtain ⟨next', carries', generator, reference, candidate, better⟩ :=
    alike.exists_carries total' willing same well generated evaluated
  refine ⟨next', carries', ⟨generator, reference, candidate, ?_, ?_⟩, better⟩
  · rw [carries'.index, index, alike.index]
  · rw [carries'.summary, summary, alike.summary]

/-- A trial stops a sweep with another reporter too, unless the reporter was what stopped it. -/
theorem Stops.alike (stops : Stops t scale s cause stop next) (same : t'.evaluate = t.evaluate)
    (alike : Alike s s') (taken : cause.refused = [])
    : ∃ next', Stops t' scale s' cause stop next' ∧ next'.reporter = s'.reporter
        ∧ next.reporter = s.reporter := by
  cases stops with
  | generation failed =>
      rw [← alike.generate_eq] at failed
      exact ⟨_, .generation failed, rfl, rfl⟩
  | breakdown generated crashed =>
      rw [← alike.generate_eq] at generated
      rw [← alike.evaluate_eq same] at crashed
      exact ⟨_, .breakdown generated crashed, rfl, rfl⟩
  | publication => cases taken

/-- Carried trials keep a reporter that takes everything in good states, by induction along them. -/
theorem Trials.well_kept {good : ρ → Prop} (willing : Reporter.Willing K good)
    (chain : Trials t total scales s trials final) (well : good s.reporter)
    : good final.reporter := by
  induction chain with
  | nil => exact well
  | @cons _ _ s _ _ trial _ first later ih =>
      obtain ⟨_, published, better⟩ := willing.publish trial s.reporter well
      cases published.symm.trans first.published
      exact ih better

/-- A reporter that takes everything never stops a sweep. -/
theorem Breaks.refused_eq_nil {good : ρ → Prop} (willing : Reporter.Willing K good)
    (breaks : Breaks t total scales s trials cause stop final) (well : good s.reporter)
    : cause.refused = [] := by
  obtain ⟨-, before, stops⟩ := breaks
  cases stops with
  | generation | breakdown => rfl
  | @publication trial _ _ _ _ _ generated evaluated refused =>
      obtain ⟨_, published, -⟩ := willing.publish trial _ (before.well_kept willing well)
      cases published.symm.trans refused

/-- A sweep whose reporter takes everything outlasts one that is broken off: it carries out the same
trials, and the one that was carried out in vain.
-/
theorem Breaks.outlasted (breaks : Breaks t total scales s trials cause stop final)
    (total' : Nat) (willing : Reporter.Willing K good) (same : t'.evaluate = t.evaluate)
    (alike : Alike s s') (well : good s'.reporter)
    : ∃ first later final',
        scales = first ++ later
          ∧ Trials t' total' first s' (trials ++ cause.refused) final' := by
  obtain ⟨reached, before, stops⟩ := breaks
  obtain ⟨middle', before', alike, well⟩ :=
    before.simulate (simulates_alike total total' willing same) [] ⟨alike, well⟩
  cases stops with
  | generation | breakdown =>
      rw [Cause.refused, List.append_nil]
      exact ⟨_, _, _, reached, before'⟩
  | publication generated evaluated refused =>
      -- What the other reporter refused is taken here.
      obtain ⟨next', carries', -⟩ :=
        alike.exists_carries total' willing same well generated evaluated
      rw [List.append_cons] at reached
      exact ⟨_, _, _, reached, before'.append (.cons carries' .nil)⟩

end Willing

end Sweep

end QuadraticTrials

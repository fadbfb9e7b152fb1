import Mathlib
import QuadraticTrials.Proofs.Generator.WellPosed
import QuadraticTrials.Proofs.Solver.Calls
import QuadraticTrials.Proofs.Sweep.Accounting

/-!
How sweeps end. A sweep that gives no summary is broken off after some trials that were carried out:
by the generator, by a solver or by the reporter.
-/

namespace QuadraticTrials

-----------------------------------------------------------------------------------------
-- Scales that are accepted
-----------------------------------------------------------------------------------------

/-- An accepted configuration has usable scales only. -/
theorem Config.isPositive_of_check {K : Type} [Scalar K] {config : Config K}
    (accepted : config.check = .ok ()) {scale : K} (member : scale ∈ config.costScales)
    : Scalar.isPositive scale = true := by
  unfold check at accepted
  split at accepted
  · cases accepted
  split at accepted
  · cases accepted
  rename_i all
  simpa using List.find?_eq_none.mp all scale member

theorem Generator.eq_exhausted {K : Type} [Scalar K] [SymmetricSpectrum K] {scale : K}
    (usable : Scalar.isPositive scale = true) {g g' : Generator K} {fault : Fault K}
    (failed : g.generate scale = (.error fault, g'))
    : fault = .exhausted := by
  rw [generate, if_pos usable] at failed
  split at failed
  case h_1 => exact (Except.error.inj (Prod.mk.inj failed).1).symm
  case h_2 => cases failed

theorem Config.mem_costScales {K : Type} {config : Config K} {scale : K}
    (member : scale ∈ config.schedule)
    : scale ∈ config.costScales := by
  obtain ⟨scales, round, member⟩ := List.mem_flatten.mp member
  rwa [(List.mem_replicate.mp round).2] at member

namespace Sweep

variable {K σ τ ρ : Type} [Scalar K] [NumberText K] [SymmetricSpectrum K] [Reporter K ρ]

-----------------------------------------------------------------------------------------
-- Trials that stop a sweep
-----------------------------------------------------------------------------------------

/-- Why a trial stops a sweep. -/
inductive Cause (K : Type)
  /-- There is no instance. -/
  | generation (fault : Generator.Fault K)
  /-- A solver broke down with nobody to notice. -/
  | breakdown
  /-- The report was refused. -/
  | publication (trial : Trial K)

/-- The trial that was carried out in vain, if there is one. -/
def Cause.refused {K : Type} : Cause K → List (Trial K)
  | .publication trial => [trial]
  | .generation _ | .breakdown => []

/-- A trial at a cost scale stops a sweep. -/
inductive Stops (t : Tester K σ τ) (scale : K) (s : Sweep K σ τ ρ)
    : Cause K → Stop → Sweep K σ τ ρ → Prop
  | generation {fault : Generator.Fault K} {generator : Generator K}
      (failed : s.generator.generate scale = (.error fault, generator))
    : Stops t scale s (.generation fault) (.failed fault.toError) { s with generator }
  | breakdown {inst : Instance K} {generator : Generator K}
      (generated : s.generator.generate scale = (.ok inst, generator))
      (crashed : t.evaluate s.index scale inst s.reference s.candidate = none)
    : Stops t scale s .breakdown .crashed { s with generator }
  | publication {trial : Trial K} {generator : Generator K} {reference : σ} {candidate : τ}
      {stop : Stop} {reporter : ρ}
      (generated : s.generator.generate scale = (.ok trial.inst, generator))
      (evaluated
        : t.evaluate s.index scale trial.inst s.reference s.candidate
          = some (trial, reference, candidate))
      (refused
        : Reporter.publish trial.report (Reporter.relay K trial.lines s.reporter)
          = (.error stop, reporter))
    : Stops t scale s (.publication trial) stop { s with generator, reference, candidate, reporter }

variable {t : Tester K σ τ} {total : Nat} {scale : K} {scales : List K} {trial : Trial K}
  {trials : List (Trial K)} {cause : Cause K} {stop : Stop} {s next middle final : Sweep K σ τ ρ}

/-- A trial that does not come through stops the sweep for one of the causes. -/
theorem stops_of_runTrial (ran : runTrial t total scale s = (.error stop, next))
    : ∃ cause, Stops t scale s cause stop next := by
  unfold runTrial at ran
  split at ran
  case h_1 fault generator failed =>
    cases ran
    exact ⟨_, .generation failed⟩
  case h_2 inst generator generated =>
    dsimp only at ran
    split at ran
    case h_1 crashed =>
      cases ran
      exact ⟨_, .breakdown generated crashed⟩
    case h_2 trial reference candidate evaluated =>
      unfold publish at ran
      split at ran
      case h_2 => cases ran
      case h_1 stop reporter refused =>
        cases ran
        obtain ⟨solved, -, rfl, -, -⟩ := evaluate_eq_some evaluated
        exact ⟨_, .publication generated evaluated refused⟩

theorem Stops.runTrial_eq (stops : Stops t scale s cause stop next) (total : Nat)
    : runTrial t total scale s = (.error stop, next) := by
  cases stops with
  | generation failed => simp only [runTrial, failed]
  | breakdown generated crashed => simp only [runTrial, generated, crashed]
  | publication generated evaluated refused =>
      simp only [runTrial, generated, evaluated, publish, refused]

/-- A refused trial stands at the place that the sweep has reached, at the scale it was carried out
at.
-/
theorem Stops.placed (stops : Stops t scale s cause stop next) (member : trial ∈ cause.refused)
    : trial.index = s.index ∧ trial.costScale = scale := by
  cases stops with
  | generation | breakdown => cases member
  | publication generated evaluated refused =>
      rw [List.mem_singleton.mp member]
      obtain ⟨solved, -, same, -, -⟩ := evaluate_eq_some evaluated
      rw [same]
      exact ⟨rfl, rfl⟩

-----------------------------------------------------------------------------------------
-- Schedules that are broken off
-----------------------------------------------------------------------------------------

/-- A sweep over some cost scales is broken off: some trials are carried out, and the next one stops
the sweep.
-/
inductive Breaks (t : Tester K σ τ) (total : Nat) (scales : List K) (s : Sweep K σ τ ρ)
    (trials : List (Trial K)) (cause : Cause K) (stop : Stop) (final : Sweep K σ τ ρ)
    : Prop
  | at {done rest : List K} {scale : K} {middle : Sweep K σ τ ρ}
      (reached : scales = done ++ scale :: rest) (before : Trials t total done s trials middle)
      (stops : Stops t scale middle cause stop final)

/-- Cost scales that are not come through are broken off at some trial, by induction over them. -/
theorem breaks_of_runScales (ran : runScales t total scales s = (.error stop, final))
    : ∃ trials cause, Breaks t total scales s trials cause stop final := by
  induction scales generalizing s with
  | nil => cases ran
  | cons scale rest ih =>
      rw [runScales] at ran
      split at ran
      case h_1 stop next stopped =>
        cases ran
        obtain ⟨cause, stops⟩ := stops_of_runTrial stopped
        exact ⟨[], cause, .at (List.nil_append _).symm .nil stops⟩
      case h_2 next passed =>
        obtain ⟨trial, carries⟩ := carries_of_runTrial passed
        obtain ⟨trials, cause, reached, before, stops⟩ := ih ran
        exact ⟨trial :: trials, cause, .at (congrArg _ reached) (.cons carries before) stops⟩

namespace Breaks

theorem runScales_eq (breaks : Breaks t total scales s trials cause stop final)
    : runScales t total scales s = (.error stop, final) := by
  obtain ⟨rfl, before, stops⟩ := breaks
  simp only [runScales_append, before.runScales_eq, runScales, stops.runTrial_eq]

theorem length_lt (breaks : Breaks t total scales s trials cause stop final)
    : trials.length < scales.length := by
  obtain ⟨rfl, before, stops⟩ := breaks
  rw [before.length_eq, List.length_append, List.length_cons]
  omega

/-- Each trial stands at its place and was carried out at the scale of that place, and so was the
one that was carried out in vain.
-/
theorem placed (breaks : Breaks t total scales s trials cause stop final) {i : Nat}
    (found : (trials ++ cause.refused)[i]? = some trial)
    : trial.index = s.index + i ∧ scales[i]? = some trial.costScale := by
  obtain ⟨rfl, before, stops⟩ := breaks
  have same := before.length_eq
  rcases Nat.lt_or_ge i trials.length with carried | later
  · rw [List.getElem?_append_left carried] at found
    rw [List.getElem?_append_left (by omega)]
    exact before.placed found
  · rw [List.getElem?_append_right later] at found
    obtain ⟨place, at_scale⟩ := stops.placed (List.mem_of_getElem? found)
    -- At most one trial is refused, so that its place is the one after the others.
    have last : i = trials.length := by
      have inside := (List.getElem?_eq_some_iff.mp found).1
      have single : cause.refused.length ≤ 1 := by cases cause <;> simp [Cause.refused]
      omega
    rw [List.getElem?_append_right (by omega), place, before.index_eq, last, same, Nat.sub_self,
      at_scale]
    exact ⟨rfl, rfl⟩

end Breaks

-----------------------------------------------------------------------------------------
-- Whole sweeps
-----------------------------------------------------------------------------------------

variable {entropy : UInt64} {reference : σ} {candidate : τ} {reporter reporter' : ρ}

/-- A sweep comes through its schedule, but its totals are refused. -/
inductive Refuses (t : Tester K σ τ) (entropy : UInt64) (reference : σ) (candidate : τ)
    (reporter : ρ) (stop : Stop) (reporter' : ρ)
    : Prop
  | totals {trials : List (Trial K)} {final : Sweep K σ τ ρ}
      (chain
        : Trials t t.config.trialCount t.config.schedule
            (opened t entropy reference candidate reporter) trials final)
      (refused
        : Reporter.finish K final.summary.totalTrials final.summary.failedTrials final.reporter
          = (.error stop, reporter'))

theorem runRounds_opened (t : Tester K σ τ) (entropy : UInt64) (reference : σ)
    (candidate : τ) (reporter : ρ)
    : runRounds t t.config.trialCount t.config.repetitions
          (opened t entropy reference candidate reporter)
      = runScales t t.config.trialCount t.config.schedule
          (opened t entropy reference candidate reporter) :=
  runRounds_eq_runScales _ _

/-- A sweep in range is its schedule, and then its totals. -/
theorem run_eq (counted : t.config.trialCount < wordBound)
    : Sweep.run t entropy reference candidate reporter
      = match runScales t t.config.trialCount t.config.schedule
            (opened t entropy reference candidate reporter) with
        | (.error stop, s) => (.error stop, s.reporter)
        | (.ok (), s) => s.finish := by
  rw [run_eq_schedule, Config.totalTrials?_eq_some.mpr ⟨counted, rfl⟩]
  rfl

/-- A sweep in range that comes through its schedule ends as its reporter takes the totals. -/
theorem Trials.run_eq (counted : t.config.trialCount < wordBound)
    (chain
      : Trials t t.config.trialCount t.config.schedule
          (opened t entropy reference candidate reporter) trials final)
    : Sweep.run t entropy reference candidate reporter
      = ((Reporter.finish K final.summary.totalTrials final.summary.failedTrials
            final.reporter).1.map fun () => final.summary,
          (Reporter.finish K final.summary.totalTrials final.summary.failedTrials
            final.reporter).2) := by
  have passed := chain.runScales_eq
  rw [Sweep.run_eq counted, passed]
  rw [← runRounds_opened] at passed
  simp only [finish, done_of_runRounds passed]
  split <;> rename_i finished <;> rw [finished] <;> rfl

/-- A sweep in range gives no summary exactly if it is broken off or its totals are refused. -/
theorem run_eq_error_iff (counted : t.config.trialCount < wordBound)
    : Sweep.run t entropy reference candidate reporter = (.error stop, reporter')
      ↔ (∃ trials cause final,
          Breaks t t.config.trialCount t.config.schedule
              (opened t entropy reference candidate reporter) trials cause stop final
            ∧ final.reporter = reporter')
        ∨ Refuses t entropy reference candidate reporter stop reporter' := by
  constructor
  · intro ran
    cases passed
        : runScales t t.config.trialCount t.config.schedule
            (opened t entropy reference candidate reporter) with
    | mk result final =>
        cases result with
        | error stop =>
            rw [run_eq counted, passed] at ran
            cases ran
            obtain ⟨trials, cause, breaks⟩ := breaks_of_runScales passed
            exact .inl ⟨trials, cause, final, breaks, rfl⟩
        | ok done =>
            obtain ⟨trials, chain⟩ := trials_of_runScales passed
            rw [chain.run_eq counted] at ran
            obtain ⟨result, same⟩ := Prod.mk.inj ran
            refine .inr (.totals chain (Prod.ext ?_ same))
            cases refused
                : (Reporter.finish K final.summary.totalTrials final.summary.failedTrials
                    final.reporter).1 with
            | error stop =>
                rw [refused] at result
                exact congrArg Except.error (Except.error.inj result)
            | ok done =>
                rw [refused] at result
                cases result
  · rintro (⟨trials, cause, final, breaks, rfl⟩ | ⟨chain, refused⟩)
    · rw [run_eq counted, breaks.runScales_eq]
    · rw [chain.run_eq counted, refused]
      rfl

-----------------------------------------------------------------------------------------
-- Causes that are left
-----------------------------------------------------------------------------------------

/-- Under an accepted configuration a generation fails only for want of draws. -/
theorem Breaks.exhausted {fault : Generator.Fault K} (accepted : t.config.check = .ok ())
    (breaks : Breaks t total t.config.schedule s trials (.generation fault) stop final)
    : fault = .exhausted := by
  obtain ⟨reached, before, stops⟩ := breaks
  cases stops with
  | generation failed =>
      refine Generator.eq_exhausted (Config.isPositive_of_check accepted ?_) failed
      apply Config.mem_costScales
      rw [reached]
      exact List.mem_append_right _ List.mem_cons_self

omit [NumberText K] [SymmetricSpectrum K] [Reporter K ρ] in
/-- The solvers of a sweep are in states that calls have led them to. -/
structure Led (t : Tester K σ τ) (reference : σ) (candidate : τ) (s : Sweep K σ τ ρ) : Prop where
  reference : t.solvers.reference.Reaches reference s.reference
  candidate : t.solvers.candidate.Reaches candidate s.candidate

theorem Carries.led (answers : t.solvers.reference.Answers reference)
    (answers' : t.solvers.candidate.Answers candidate)
    (carries : Carries t total scale s trial next) (led : Led t reference candidate s)
    : Led t reference candidate next := by
  obtain ⟨_, _, _, evaluated, reached, reached'⟩ :=
    Tester.exists_evaluate answers answers' led.reference led.candidate s.index scale trial.inst
  cases carries.evaluated.symm.trans evaluated
  exact ⟨reached, reached'⟩

/-- Carried trials lead their solvers on, by induction along them. -/
theorem Trials.led (answers : t.solvers.reference.Answers reference)
    (answers' : t.solvers.candidate.Answers candidate)
    (chain : Trials t total scales s trials final) (led : Led t reference candidate s)
    : Led t reference candidate final := by
  induction chain with
  | nil => exact led
  | cons first later ih => exact ih (first.led answers answers' led)

/-- Solvers that answer do not break a sweep off. -/
theorem Breaks.ne_breakdown (answers : t.solvers.reference.Answers reference)
    (answers' : t.solvers.candidate.Answers candidate) (led : Led t reference candidate s)
    (breaks : Breaks t total scales s trials cause stop final)
    : cause ≠ .breakdown := by
  obtain ⟨-, before, stops⟩ := breaks
  have reached := before.led answers answers' led
  cases stops with
  | generation | publication => simp
  | @breakdown inst _ generated crashed =>
      obtain ⟨_, _, _, evaluated, -, -⟩ :=
        Tester.exists_evaluate answers answers' reached.reference reached.candidate _ _ inst
      cases crashed.symm.trans evaluated

end Sweep

end QuadraticTrials

import Mathlib
import QuadraticTrials.Sweep

/-!
Sweeps as chains of trials. A sweep that comes through its schedule has carried out one trial for
each cost scale, in order; what one trial can do to a sweep is said once, by the relation
`Sweep.Carries`.
-/

namespace QuadraticTrials

-----------------------------------------------------------------------------------------
-- Schedules
-----------------------------------------------------------------------------------------

namespace Config

variable {K : Type}

/-- The number of trials that a configuration asks for. -/
def trialCount (c : Config K) : Nat :=
  c.repetitions * c.costScales.length

theorem length_schedule (c : Config K) : c.schedule.length = c.trialCount := by
  simp [schedule, trialCount]

/-- A configuration is valid if it passes the check. -/
theorem validate_eq_ok_iff [Scalar K] [NumberText K] {c : Config K}
    : c.validate = .ok () ↔ c.check = .ok () := by
  rw [validate]
  cases c.check <;> simp [Except.mapError]

/-- The number of trials is counted when it is a word. -/
theorem totalTrials?_eq_some {c : Config K} {total : Nat}
    : c.totalTrials? = some total ↔ c.trialCount < wordBound ∧ c.trialCount = total := by
  rw [totalTrials?, ← trialCount, Option.ite_none_right_eq_some, Option.some.injEq]

/-- Repeating a list repeats its places, by induction on the repetitions. -/
theorem getElem?_flatten_replicate {α : Type} (rounds : Nat) (values : List α) {i : Nat}
    (inside : i < rounds * values.length)
    : (List.replicate rounds values).flatten[i]? = values[i % values.length]? := by
  induction rounds generalizing i with
  | zero => omega
  | succ rounds ih =>
      rw [List.replicate_succ, List.flatten_cons]
      rcases Nat.lt_or_ge i values.length with first | later
      · rw [List.getElem?_append_left first, Nat.mod_eq_of_lt first]
      · rw [Nat.add_mul, Nat.one_mul] at inside
        rw [List.getElem?_append_right later, ih (by omega), Nat.mod_eq_sub_mod later]

/-- The cost scales come round and round. -/
theorem getElem?_schedule (c : Config K) {i : Nat} (inside : i < c.trialCount)
    : c.schedule[i]? = c.costScales[i % c.costScales.length]? :=
  getElem?_flatten_replicate c.repetitions c.costScales inside

end Config

namespace Sweep

variable {K σ τ ρ : Type} [Scalar K] [NumberText K] [SymmetricSpectrum K] [Reporter K ρ]

-----------------------------------------------------------------------------------------
-- One trial
-----------------------------------------------------------------------------------------

/-- A trial is carried out at a cost scale between two states of a sweep: its instance is generated,
both solvers answer on it, its report is taken, and it is counted.
-/
structure Carries (t : Tester K σ τ) (total : Nat) (scale : K) (s : Sweep K σ τ ρ) (trial : Trial K)
    (next : Sweep K σ τ ρ)
    : Prop where
  generated : s.generator.generate scale = (.ok trial.inst, next.generator)
  evaluated
    : t.evaluate s.index scale trial.inst s.reference s.candidate
      = some (trial, next.reference, next.candidate)
  published
    : Reporter.publish trial.report (Reporter.relay K trial.lines s.reporter)
      = (.ok (), next.reporter)
  index : next.index = s.index + 1
  summary : next.summary = s.summary.record trial.outcome
  progress : next.progress = s.progress.advance total

variable {t : Tester K σ τ} {total : Nat} {scale : K} {scales : List K} {trial : Trial K}
  {s next final : Sweep K σ τ ρ}

omit [NumberText K] [SymmetricSpectrum K] in
/-- An evaluated trial records its place, its scale and its instance, and it is judged by what both
calls on that instance give.
-/
theorem evaluate_eq_some {index : Nat} {inst : Instance K} {reference reference' : σ}
    {candidate candidate' : τ}
    (evaluated
      : t.evaluate index scale inst reference candidate = some (trial, reference', candidate'))
    : ∃ solved : Solved K σ τ,
        t.solveBoth index inst reference candidate = some solved
          ∧ trial = {
              index, costScale := scale, inst
              reference := solved.reference.toOption
              candidate := solved.candidate.toOption
              outcome := Trial.judge t.config.tolerance solved.reference solved.candidate
              lines := solved.lines
            }
          ∧ reference' = solved.referenceState ∧ candidate' = solved.candidateState := by
  obtain ⟨solved, answered, same⟩ := Option.map_eq_some_iff.mp evaluated
  cases same
  exact ⟨solved, answered, rfl, rfl, rfl⟩

/-- A trial that comes through has been carried out. -/
theorem carries_of_runTrial (ran : runTrial t total scale s = (.ok (), next))
    : ∃ trial, Carries t total scale s trial next := by
  unfold runTrial at ran
  split at ran
  · cases ran
  rename_i inst generator generated
  dsimp only at ran
  split at ran
  · cases ran
  rename_i trial reference candidate evaluated
  unfold publish at ran
  split at ran
  · cases ran
  rename_i reporter published
  cases ran
  obtain ⟨solved, -, rfl, -, -⟩ := evaluate_eq_some evaluated
  exact ⟨_, generated, evaluated, published, rfl, rfl, rfl⟩

namespace Carries

/-- A trial that can be carried out comes through. -/
theorem runTrial_eq (carries : Carries t total scale s trial next)
    : runTrial t total scale s = (.ok (), next) := by
  obtain ⟨generated, evaluated, published, index, summary, progress⟩ := carries
  cases next
  simp only at generated evaluated published index summary progress
  subst index summary progress
  simp only [runTrial, generated, evaluated, publish, published]

/-- A trial stands at the place that the sweep has reached, at the scale it is carried out at. -/
theorem placed (carries : Carries t total scale s trial next)
    : trial.index = s.index ∧ trial.costScale = scale := by
  obtain ⟨solved, -, same, -, -⟩ := evaluate_eq_some carries.evaluated
  rw [same]
  exact ⟨rfl, rfl⟩

end Carries

-----------------------------------------------------------------------------------------
-- Whole schedules
-----------------------------------------------------------------------------------------

/-- The trials of some cost scales are carried out one after the other. -/
inductive Trials (t : Tester K σ τ) (total : Nat)
    : List K → Sweep K σ τ ρ → List (Trial K) → Sweep K σ τ ρ → Prop
  | nil {s : Sweep K σ τ ρ} : Trials t total [] s [] s
  | cons {scale : K} {rest : List K} {s next final : Sweep K σ τ ρ} {trial : Trial K}
      {trials : List (Trial K)} (first : Carries t total scale s trial next)
      (later : Trials t total rest next trials final)
    : Trials t total (scale :: rest) s (trial :: trials) final

/-- Cost scales that are come through have had their trials carried out, by induction over them. -/
theorem trials_of_runScales (ran : runScales t total scales s = (.ok (), final))
    : ∃ trials, Trials t total scales s trials final := by
  induction scales generalizing s with
  | nil =>
      cases ran
      exact ⟨[], .nil⟩
  | cons scale rest ih =>
      rw [runScales] at ran
      split at ran
      · cases ran
      rename_i next first
      obtain ⟨trial, carries⟩ := carries_of_runTrial first
      obtain ⟨trials, later⟩ := ih ran
      exact ⟨trial :: trials, .cons carries later⟩

/-- Running over cost scales in two parts stops where the first part stops. -/
theorem runScales_append (first later : List K) (s : Sweep K σ τ ρ)
    : runScales t total (first ++ later) s
      = match runScales t total first s with
        | (.error stop, s) => (.error stop, s)
        | (.ok (), s) => runScales t total later s := by
  induction first generalizing s with
  | nil => rfl
  | cons scale rest ih =>
      rw [List.cons_append, runScales, runScales]
      cases runTrial t total scale s with
      | mk result next =>
          cases result with
          | error stop => rfl
          | ok done => exact ih next

/-- The rounds of a sweep run over its schedule, by induction on their number. -/
theorem runRounds_eq_runScales (rounds : Nat) (s : Sweep K σ τ ρ)
    : runRounds t total rounds s
      = runScales t total (List.replicate rounds t.config.costScales).flatten s := by
  induction rounds generalizing s with
  | zero => rfl
  | succ rounds ih =>
      rw [runRounds, List.replicate_succ, List.flatten_cons, runScales_append]
      cases runScales t total t.config.costScales s with
      | mk result next =>
          cases result with
          | error stop => rfl
          | ok done => exact ih next

namespace Trials

variable {trials : List (Trial K)}

/-- Trials that can be carried out come through, by induction along them. -/
theorem runScales_eq (chain : Trials t total scales s trials final)
    : runScales t total scales s = (.ok (), final) := by
  induction chain with
  | nil => rfl
  | cons first later ih => simp only [runScales, first.runTrial_eq, ih]

theorem length_eq (chain : Trials t total scales s trials final)
    : trials.length = scales.length := by
  induction chain with
  | nil => rfl
  | cons first later ih => rw [List.length_cons, List.length_cons, ih]

/-- The place that a sweep has reached counts the trials behind it. -/
theorem index_eq (chain : Trials t total scales s trials final)
    : final.index = s.index + trials.length := by
  induction chain with
  | nil => rfl
  | cons first later ih =>
      rw [ih, first.index, List.length_cons]
      omega

/-- Each trial stands at its place and was carried out at the scale of that place. -/
theorem placed (chain : Trials t total scales s trials final) {i : Nat}
    (found : trials[i]? = some trial)
    : trial.index = s.index + i ∧ scales[i]? = some trial.costScale := by
  induction chain generalizing i with
  | nil => cases found
  | cons first later ih =>
      cases i with
      | zero =>
          cases found
          obtain ⟨place, scale⟩ := first.placed
          exact ⟨place, congrArg some scale.symm⟩
      | succ i =>
          obtain ⟨place, scale⟩ := ih found
          rw [first.index] at place
          exact ⟨by omega, scale⟩

/-- The trials of the first scales are the first trials. -/
theorem take (chain : Trials t total scales s trials final) (count : Nat)
    : ∃ middle, Trials t total (scales.take count) s (trials.take count) middle := by
  induction chain generalizing count with
  | nil => exact ⟨_, by simpa using .nil⟩
  | cons first later ih =>
      cases count with
      | zero => exact ⟨_, .nil⟩
      | succ count =>
          obtain ⟨middle, before⟩ := ih count
          exact ⟨middle, .cons first before⟩

/-- Every trial is judged by what both calls on its instance gave. -/
theorem exists_solved (chain : Trials t total scales s trials final) (member : trial ∈ trials)
    : ∃ solved : Solved K σ τ,
        trial.reference = solved.reference.toOption
          ∧ trial.candidate = solved.candidate.toOption
          ∧ trial.outcome = Trial.judge t.config.tolerance solved.reference solved.candidate := by
  induction chain with
  | nil => cases member
  | cons first later ih =>
      rcases List.mem_cons.mp member with rfl | member
      · obtain ⟨solved, -, same, -, -⟩ := evaluate_eq_some first.evaluated
        rw [same]
        exact ⟨solved, rfl, rfl, rfl⟩
      · exact ih member

end Trials

-----------------------------------------------------------------------------------------
-- Whole sweeps
-----------------------------------------------------------------------------------------

variable {entropy : UInt64} {reference : σ} {candidate : τ} {reporter reporter' : ρ}
  {summary : Summary}

/-- A sweep is its schedule, and then its totals, if its number of trials is in range. -/
theorem run_eq_schedule (t : Tester K σ τ) (entropy : UInt64) (reference : σ) (candidate : τ)
    (reporter : ρ)
    : Sweep.run t entropy reference candidate reporter
      = match t.config.totalTrials? with
        | none => (.error .crashed, reporter)
        | some total =>
            match runScales t total t.config.schedule
                (start (t.generator entropy) total reference candidate reporter) with
            | (.error stop, s) => (.error stop, s.reporter)
            | (.ok (), s) => s.finish := by
  simp only [Sweep.run, runRounds_eq_runScales]
  rfl

/-- A sweep under a tester before its first trial. -/
def opened (t : Tester K σ τ) (entropy : UInt64) (reference : σ) (candidate : τ) (reporter : ρ)
    : Sweep K σ τ ρ :=
  start (t.generator entropy) (t.config.trialCount) reference candidate reporter

/-- A sweep that ends with a summary has a number of trials in range. It has carried out the
trials of its schedule, and has handed their totals to the reporter.
-/
theorem trials_of_run
    (ran : Sweep.run t entropy reference candidate reporter = (.ok summary, reporter'))
    : t.config.trialCount < wordBound
      ∧ ∃ trials final,
          Trials t t.config.trialCount t.config.schedule
              (opened t entropy reference candidate reporter) trials final
            ∧ final.summary = summary
            ∧ Reporter.finish K summary.totalTrials summary.failedTrials final.reporter
              = (.ok (), reporter') := by
  unfold Sweep.run at ran
  split at ran
  · cases ran
  rename_i total counted
  obtain ⟨inRange, rfl⟩ := Config.totalTrials?_eq_some.mp counted
  split at ran
  · cases ran
  rename_i final rounds
  rw [runRounds_eq_runScales] at rounds
  obtain ⟨trials, chain⟩ := trials_of_runScales rounds
  unfold finish at ran
  split at ran
  · cases ran
  split at ran
  · cases ran
  rename_i reporter finished
  cases ran
  exact ⟨inRange, trials, final, chain, rfl, finished⟩

end Sweep

end QuadraticTrials

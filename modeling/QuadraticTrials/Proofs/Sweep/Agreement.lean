import Mathlib
import QuadraticTrials.CommandLine
import QuadraticTrials.Proofs.Finite
import QuadraticTrials.Proofs.Sweep.Accounting

/-!
Verdicts of sweeps. A sweep succeeds exactly if in each of its trials both solvers found an optimum
and the two points agree; its exit code tells the two cases apart.
-/

namespace QuadraticTrials

-----------------------------------------------------------------------------------------
-- Agreement of two answers
-----------------------------------------------------------------------------------------

/-- Two answers are optima at points of one length whose coordinates are pairwise within the
tolerance.
-/
structure Solution.Agrees {K : Type} [Scalar K] (tolerance : K) (r c : Solution K) : Prop where
  reference : r.status = .optimal
  candidate : c.status = .optimal
  length_eq : r.x.length = c.x.length
  within : ∀ pair ∈ r.x.zip c.x, Scalar.abs (pair.1 - pair.2) ≤ tolerance

/-- Both sides of a trial answered, and their answers agree. -/
def Trial.Agrees {K : Type} [Scalar K] (tolerance : K) (trial : Trial K) : Prop :=
  ∃ r c, trial.reference = some r ∧ trial.candidate = some c ∧ Solution.Agrees tolerance r c

section Agreement

variable {K : Type} [Scalar K] {tolerance : K}

instance (r c : Solution K) : Decidable (Solution.Agrees tolerance r c) :=
  decidable_of_iff
    (r.status = .optimal ∧ c.status = .optimal ∧ r.x.length = c.x.length
      ∧ ∀ pair ∈ r.x.zip c.x, Scalar.abs (pair.1 - pair.2) ≤ tolerance)
    ⟨fun ⟨reference, candidate, length_eq, within⟩ => ⟨reference, candidate, length_eq, within⟩,
      fun ⟨reference, candidate, length_eq, within⟩ => ⟨reference, candidate, length_eq, within⟩⟩

instance (trial : Trial K) : Decidable (trial.Agrees tolerance) :=
  match reference : trial.reference, candidate : trial.candidate with
  | some r, some c =>
      decidable_of_iff (Solution.Agrees tolerance r c)
        ⟨fun agrees => ⟨r, c, reference, candidate, agrees⟩, fun ⟨_, _, first, second, agrees⟩ => by
          cases reference.symm.trans first
          cases candidate.symm.trans second
          exact agrees⟩
  | none, _ => isFalse fun ⟨_, _, first, _, _⟩ => nomatch reference.symm.trans first
  | some _, none => isFalse fun ⟨_, _, _, second, _⟩ => nomatch candidate.symm.trans second

/-- Nothing is found out of tolerance exactly if everything is within it, by induction on the
differences.
-/
theorem Comparison.firstOutside_eq_none {index : Nat} {differences : List K}
    : firstOutside tolerance index differences = none
      ↔ ∀ difference ∈ differences, difference ≤ tolerance := by
  induction differences generalizing index with
  | nil => simp [firstOutside]
  | cons difference rest ih =>
      rw [firstOutside, List.forall_mem_cons]
      split
      case isTrue within => rw [ih, and_iff_right within]
      case isFalse outside => simp [outside]

/-- A comparison finds two points equivalent exactly if they have one length and no coordinates out
of tolerance.
-/
theorem Comparison.isEquivalent_check {r c : List K}
    : (check tolerance r c).isEquivalent = true
      ↔ r.length = c.length ∧ ∀ pair ∈ r.zip c, Scalar.abs (pair.1 - pair.2) ≤ tolerance := by
  have zipped : (∀ pair ∈ r.zip c, Scalar.abs (pair.1 - pair.2) ≤ tolerance)
      ↔ firstOutside tolerance 0 (distances r c) = none := by
    rw [firstOutside_eq_none, distances, ← List.map_uncurry_zip_eq_zipWith, List.forall_mem_map]
    rfl
  rw [zipped, check]
  split
  case isTrue different => simp [isEquivalent, different]
  case isFalse same =>
    rw [and_iff_right (not_not.mp same)]
    cases firstOutside tolerance 0 (distances r c) <;> simp [isEquivalent]

omit [Scalar K] in
theorem Outcome.isPassed_ofComparison (comparison : Comparison K)
    : (ofComparison comparison).isPassed = comparison.isEquivalent := by
  cases comparison <;> rfl

omit [Scalar K] in
@[simp]
theorem Solution.isOptimal_eq (solution : Solution K)
    : solution.isOptimal = decide (solution.status = .optimal) :=
  rfl

/-- Two answers are judged as passed exactly if they agree: the cases follow the order in which they
are judged.
-/
theorem Trial.isPassed_judge_ok {r c : Solution K}
    : (judge tolerance (.ok r) (.ok c)).isPassed = true ↔ Solution.Agrees tolerance r c := by
  by_cases reference : r.status = .optimal
  case neg =>
    rw [judge, if_pos (by simpa using reference)]
    simp only [unsolved, Outcome.isPassed, Bool.false_eq_true, false_iff]
    exact fun agrees => reference agrees.reference
  by_cases candidate : c.status = .optimal
  case neg =>
    rw [judge, if_neg (by simpa using reference), if_pos (by simpa using candidate)]
    simp only [unsolved, Outcome.isPassed, Bool.false_eq_true, false_iff]
    exact fun agrees => candidate agrees.candidate
  rw [judge, if_neg (by simpa using reference), if_neg (by simpa using candidate),
    Outcome.isPassed_ofComparison, Comparison.isEquivalent_check]
  constructor
  · rintro ⟨length_eq, within⟩
    exact ⟨reference, candidate, length_eq, within⟩
  · intro agrees
    exact ⟨agrees.length_eq, agrees.within⟩

/-- A trial passes exactly if both sides answered and their answers agree. -/
theorem Trial.isPassed_judge {reference candidate : Except Error (Solution K)}
    : (judge tolerance reference candidate).isPassed = true
      ↔ ∃ r c,
          reference.toOption = some r ∧ candidate.toOption = some c
            ∧ Solution.Agrees tolerance r c := by
  cases reference with
  | error e => simp [judge, Outcome.isPassed, Except.toOption]
  | ok r =>
      cases candidate with
      | error e => simp [judge, Outcome.isPassed, Except.toOption]
      | ok c => simp [Except.toOption, isPassed_judge_ok]

-----------------------------------------------------------------------------------------
-- Finite tolerances
-----------------------------------------------------------------------------------------

/-- An accepted tolerance is finite. -/
theorem Config.isFinite_tolerance {config : Config K} (accepted : config.check = .ok ())
    : Scalar.isFinite config.tolerance = true := by
  unfold check at accepted
  split at accepted
  · cases accepted
  split at accepted
  · cases accepted
  split at accepted
  · cases accepted
  rename_i usable
  simp only [Bool.not_eq_eq_eq_not, Bool.not_true, Bool.not_eq_false, Bool.and_eq_true] at usable
  exact usable.1

/-- Answers that agree within a finite tolerance have finite coordinates only. -/
theorem Solution.Agrees.isFinite [Scalar.Confining K] {r c : Solution K}
    (agrees : Solution.Agrees tolerance r c) (finite : Scalar.isFinite tolerance = true)
    : (∀ value ∈ r.x, Scalar.isFinite value = true)
      ∧ ∀ value ∈ c.x, Scalar.isFinite value = true := by
  have pairs : ∀ pair ∈ r.x.zip c.x,
      Scalar.isFinite pair.1 = true ∧ Scalar.isFinite pair.2 = true := fun pair member =>
    Scalar.Confining.isFinite_of_abs_sub_le finite (agrees.within pair member)
  constructor
  · intro value member
    rw [← List.map_fst_zip (Nat.le_of_eq agrees.length_eq), List.mem_map] at member
    obtain ⟨pair, member, rfl⟩ := member
    exact (pairs pair member).1
  · intro value member
    rw [← List.map_snd_zip (Nat.le_of_eq agrees.length_eq.symm), List.mem_map] at member
    obtain ⟨pair, member, rfl⟩ := member
    exact (pairs pair member).2

end Agreement

-----------------------------------------------------------------------------------------
-- Verdicts
-----------------------------------------------------------------------------------------

/-- The verdict of a summary on a list of trials is whether all of them agree. -/
structure Summary.Judges {K : Type} [Scalar K] (tolerance : K) (summary : Summary)
    (trials : List (Trial K))
    : Prop where
  success : summary.exitStatus = .success ↔ ∀ trial ∈ trials, trial.Agrees tolerance
  failure
    : (¬∀ trial ∈ trials, trial.Agrees tolerance) →
        summary.exitStatus = .failure (trials.countP fun trial => ¬trial.Agrees tolerance)
  code : summary.exitStatus.code = if ∀ trial ∈ trials, trial.Agrees tolerance then 0 else 1

/-- Counted trials that pass exactly when they agree are judged by their agreement. -/
theorem Summary.Counts.judges {K : Type} [Scalar K] [NumberText K] {tolerance : K}
    {summary : Summary} {trials : List (Trial K)} (counted : summary.Counts trials)
    (passed : ∀ trial ∈ trials, trial.outcome.isPassed = true ↔ trial.Agrees tolerance)
    : summary.Judges tolerance trials := by
  have failed : summary.failedTrials = trials.countP fun trial => ¬trial.Agrees tolerance := by
    refine counted.failed.trans (List.countP_congr fun trial member => ?_)
    rw [trial.isPassed_report, decide_eq_true_eq, ← passed trial member, Bool.not_eq_true,
      Bool.not_eq_true']
  have none : summary.failedTrials = 0 ↔ ∀ trial ∈ trials, trial.Agrees tolerance := by
    rw [failed, List.countP_eq_zero]
    exact forall₂_congr fun trial _ => by rw [decide_eq_true_eq, not_not]
  have success : summary.exitStatus = .success ↔ ∀ trial ∈ trials, trial.Agrees tolerance := by
    rw [← none, exitStatus, isPassed]
    by_cases zero : summary.failedTrials = 0 <;> simp [zero]
  have failure : (¬∀ trial ∈ trials, trial.Agrees tolerance) →
      summary.exitStatus = .failure summary.failedTrials := by
    intro disagree
    rw [← none] at disagree
    rw [exitStatus, isPassed, if_neg (by simpa using disagree)]
  refine ⟨success, fun disagree => failed ▸ failure disagree, ?_⟩
  split
  case isTrue agree => rw [success.mpr agree, ExitStatus.code]
  case isFalse disagree => rw [failure disagree, ExitStatus.code]

namespace Sweep

variable {K σ τ ρ : Type} [Scalar K] [NumberText K] [SymmetricSpectrum K] [Reporter K ρ]
  {t : Tester K σ τ} {entropy : UInt64} {reference : σ} {candidate : τ} {reporter reporter' : ρ}
  {summary : Summary}

/-- What a sweep says about its trials: they are those of its schedule, its verdict is whether all
of them agree, and coordinates that agree are finite.
-/
structure Verdict (t : Tester K σ τ) (entropy : UInt64) (reference : σ) (candidate : τ)
    (reporter : ρ) (summary : Summary) (trials : List (Trial K))
    : Prop where
  carried
    : ∃ final,
        Trials t t.config.trialCount t.config.schedule
          (opened t entropy reference candidate reporter) trials final
  judges : summary.Judges t.config.tolerance trials
  finite
    : ∀ trial ∈ trials,
        trial.Agrees t.config.tolerance →
          ∀ solution,
            trial.reference = some solution ∨ trial.candidate = some solution →
              ∀ value ∈ solution.x, Scalar.isFinite value = true

/-- A sweep under an accepted configuration that ends with a summary judges its trials by their
agreement.
-/
theorem verdict_of_run [Scalar.Confining K] (accepted : t.config.check = .ok ())
    (ran : Sweep.run t entropy reference candidate reporter = (.ok summary, reporter'))
    : ∃ trials, Verdict t entropy reference candidate reporter summary trials := by
  obtain ⟨-, trials, final, chain, rfl, -⟩ := trials_of_run ran
  refine ⟨trials, ⟨final, chain⟩, (chain.counts (.empty _)).judges ?_, ?_⟩
  · intro trial member
    obtain ⟨solved, first, second, judged⟩ := chain.exists_solved member
    rw [judged, Trial.isPassed_judge, ← first, ← second, Trial.Agrees]
  · rintro trial - ⟨r, c, first, second, agrees⟩ solution shown
    obtain ⟨reference, candidate⟩ := agrees.isFinite (Config.isFinite_tolerance accepted)
    rcases shown with shown | shown
    · cases first.symm.trans shown
      exact reference
    · cases second.symm.trans shown
      exact candidate

end Sweep

end QuadraticTrials

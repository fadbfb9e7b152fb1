import Mathlib
import QuadraticTrials.Proofs.Sweep.Console

/-!
Aborted sweeps. Under an accepted configuration and with solvers that answer, a sweep gives no
summary only for want of draws or when its reporter refuses something; what is left of it then is
the part before that point.
-/

namespace QuadraticTrials

namespace Sweep

open Reporter

variable {K σ τ ρ : Type} [Scalar K] [NumberText K] [SymmetricSpectrum K] [Reporter K ρ]
  {t : Tester K σ τ} {entropy : UInt64} {reference : σ} {candidate : τ} {reporter reporter' : ρ}
  {trials : List (Trial K)} {cause : Cause K} {stop : Stop} {final : Sweep K σ τ ρ}

/-- What is left of a sweep that a trial breaks off. The reports of the trials before it are taken,
in order and no others; its own report is refused, if it has one. Both solvers were called on the
instances of these trials, once each and in order, and on no others. No totals were given.
-/
structure Remains (t : Tester K σ τ) (entropy : UInt64) (reference : σ) (candidate : τ)
    (reporter reporter' : ρ) (trials : List (Trial K)) (cause : Cause K) (stop : Stop)
    : Prop where
  length_lt : trials.length < t.config.trialCount
  placed
    : ∀ i trial,
        (trials ++ cause.refused)[i]? = some trial →
          trial.report.trial = i
            ∧ t.config.costScales[i % t.config.costScales.length]? = some trial.report.costScale
  reported
    : Sweep.run t entropy reference candidate (Receipts.blank reporter : Receipts K ρ)
      = (.error stop,
          ⟨reporter', trials.map Trial.report, cause.refused.map Trial.report, []⟩)
  called
    : ∃ final : Sweep K (Solver.Logged K σ) (Solver.Logged K τ) ρ,
        runRounds t.logged t.config.trialCount t.config.repetitions
            (opened t.logged entropy ⟨reference, []⟩ ⟨candidate, []⟩ reporter)
          = (.error stop, final)
          ∧ final.reference.calls = (trials ++ cause.refused).map Trial.inst
          ∧ final.candidate.calls = (trials ++ cause.refused).map Trial.inst
          ∧ final.reporter = reporter'

theorem Breaks.remains (counted : t.config.trialCount < wordBound)
    (answered : cause ≠ .breakdown)
    (breaks
      : Breaks t t.config.trialCount t.config.schedule
          (opened t entropy reference candidate reporter) trials cause stop final)
    : Remains t entropy reference candidate reporter final.reporter trials cause stop := by
  have short := breaks.length_lt
  rw [t.config.length_schedule] at short
  refine ⟨short, fun i trial found => ?_, breaks.run_receipts counted, ?_⟩
  · obtain ⟨place, scale⟩ := breaks.placed found
    have inside : i < t.config.trialCount := by
      rw [← t.config.length_schedule]
      exact (List.getElem?_eq_some_iff.mp scale).1
    rw [t.config.getElem?_schedule inside] at scale
    exact ⟨place.trans (Nat.zero_add i), scale⟩
  · have ran := (breaks.watched answered).runScales_eq
    exact ⟨_, (runRounds_opened t.logged _ _ _ _).trans ran, rfl, rfl, rfl⟩

/-- The cause of a broken sweep is the generator or the reporter, if the solvers answer. -/
theorem breaks_iff (accepted : t.config.check = .ok ())
    (answers : t.solvers.reference.Answers reference)
    (answers' : t.solvers.candidate.Answers candidate)
    : (∃ trials cause final,
        Breaks t t.config.trialCount t.config.schedule
            (opened t entropy reference candidate reporter) trials cause stop final
          ∧ final.reporter = reporter')
      ↔ (∃ trials final,
          Breaks t t.config.trialCount t.config.schedule
              (opened t entropy reference candidate reporter) trials (.generation .exhausted) stop
              final
            ∧ final.reporter = reporter')
        ∨ ∃ trials trial final,
            Breaks t t.config.trialCount t.config.schedule
                (opened t entropy reference candidate reporter) trials (.publication trial) stop
                final
              ∧ final.reporter = reporter' := by
  constructor
  · rintro ⟨trials, cause, final, breaks, same⟩
    have answered := breaks.ne_breakdown answers answers' ⟨.start, .start⟩
    cases cause with
    | generation fault =>
        cases breaks.exhausted accepted
        exact .inl ⟨trials, final, breaks, same⟩
    | breakdown => exact absurd rfl answered
    | publication trial => exact .inr ⟨trials, trial, final, breaks, same⟩
  · rintro (⟨trials, final, breaks, same⟩ | ⟨trials, trial, final, breaks, same⟩)
    · exact ⟨trials, _, final, breaks, same⟩
    · exact ⟨trials, _, final, breaks, same⟩

variable (ρ) in
/-- A sweep gives no summary exactly if a generation fails, a report is refused or the totals are
refused; a trial that breaks it off leaves exactly the part before it; a generation fails only for
want of draws; and a console has written a first part of what it would have written.
-/
theorem remains_of_abort (ω ω' : Type) [Sink ω] [Sink ω'] (first : Solver K σ) (second : Solver K τ)
    (config : Config K) (interleaving : Nat → List Role) (t : Tester K σ τ)
    (made : Tester.make first second config interleaving = .ok t)
    (counted : config.trialCount < wordBound) (reference : σ) (candidate : τ)
    (answers : first.Answers reference) (answers' : second.Answers candidate) (entropy : UInt64)
    : (∀ (reporter reporter' : ρ) stop,
        Sweep.run t entropy reference candidate reporter = (.error stop, reporter')
          ↔ (∃ trials final,
              Breaks t t.config.trialCount t.config.schedule
                  (opened t entropy reference candidate reporter) trials (.generation .exhausted)
                  stop final
                ∧ final.reporter = reporter')
            ∨ (∃ trials trial final,
                Breaks t t.config.trialCount t.config.schedule
                    (opened t entropy reference candidate reporter) trials (.publication trial)
                    stop final
                  ∧ final.reporter = reporter')
            ∨ Refuses t entropy reference candidate reporter stop reporter')
        ∧ (Tester.make first.logged second.logged config interleaving = .ok t.logged
          ∧ ∀ (reporter : ρ) trials cause stop final,
              Breaks t t.config.trialCount t.config.schedule
                  (opened t entropy reference candidate reporter) trials cause stop final →
                Remains t entropy reference candidate reporter final.reporter trials cause stop)
        ∧ (∀ scale ∈ config.costScales, ∀ (g g' : Generator K) fault,
            g.generate scale = (.error fault, g') → fault = .exhausted)
        ∧ ∀ (taken : ω → List UInt8) (taken' : ω' → List UInt8) (ready : ω' → Prop),
            Sink.Keeps taken → Sink.Keeps taken' → Sink.Unfailing ready →
              ∀ verbose (sink : ω) (sink' : ω'),
                ready sink' →
                  ∃ accepted text,
                    taken (Sweep.run t entropy reference candidate
                          (⟨verbose, sink⟩ : Console ω)).2.sink
                        = taken sink ++ accepted
                      ∧ taken' (Sweep.run t entropy reference candidate
                            (⟨verbose, sink'⟩ : Console ω')).2.sink
                          = taken' sink' ++ text
                      ∧ accepted <+: text := by
  obtain ⟨rfl, accepted⟩ := Tester.accepted_of_make made
  obtain ⟨answering, answering'⟩ := Tester.answers_of_make made answers answers'
  refine ⟨fun reporter reporter' stop => ?_, ⟨Tester.make_logged made, ?_⟩, ?_, ?_⟩
  · rw [run_eq_error_iff counted, breaks_iff accepted answering answering', or_assoc]
  · intro reporter trials cause stop final breaks
    exact breaks.remains counted (breaks.ne_breakdown answering answering' ⟨.start, .start⟩)
  · intro scale member g g' fault failed
    exact Generator.eq_exhausted (Config.isPositive_of_check accepted member) failed
  · intro taken taken' ready keeps keeps' unfailing verbose sink sink' well
    exact written_initial counted keeps keeps' unfailing well verbose

theorem answers_unsteady : unsteady.solver.Answers unsteady := by
  refine Solver.answers_of_invariant
    (fun d => ∃ calls : Nat, d = .sequence "unsteady"
      [.fixed "right" ⟨[1], .optimal, 0, 1⟩, .fixed "far" ⟨[3], .optimal, 0, 1⟩,
        .fixed "long" ⟨[1, 1], .optimal, 0, 1⟩, .failing "silent" (.io "no answer")] calls)
    ⟨0, rfl⟩ ?_
  rintro _ ⟨calls, rfl⟩ inst options
  have place : calls % 4 = 0 ∨ calls % 4 = 1 ∨ calls % 4 = 2 ∨ calls % 4 = 3 := by omega
  rcases place with place | place | place | place <;>
    simp [StandIn.solver, StandIn.call, StandIn.callAt, Call.immediate, place]

theorem answers_steady : steady.solver.Answers steady :=
  Solver.answers_of_invariant (· = steady) rfl fun _ same inst options => by
    cases same
    simp [steady, StandIn.solver, StandIn.call, Call.immediate]

/-- A reporter with room for a number of reports. -/
structure Room where
  left : Nat

instance {K : Type} : Reporter K Room where
  publish _ room :=
    match room.left with
    | 0 => (.error (.failed (.io "no room")), room)
    | left + 1 => (.ok (), ⟨left⟩)
  finish _ _ room := (.ok (), room)
  relay _ room := room

/-- With room for one report, the second of four trials is carried out in vain. A console over a
sink of a hundred bytes has written a first part of what it would have written.
-/
theorem fourTrials_aborted
    : (∃ trials trial final,
        trials.length = 1
          ∧ Breaks fourTrials 4 fourTrials.config.schedule
              (opened fourTrials 0 unsteady steady (⟨1⟩ : Room)) trials (.publication trial)
              (.failed (.io "no room")) final
          ∧ Remains fourTrials 0 unsteady steady (⟨1⟩ : Room) final.reporter trials
              (.publication trial) (.failed (.io "no room")))
      ∧ ∃ accepted text,
          (Sweep.run fourTrials 0 unsteady steady
              (⟨true, .empty (some 100)⟩ : Console ByteSink)).2.sink.taken.toList
            = accepted
            ∧ (Sweep.run fourTrials 0 unsteady steady
                (⟨true, .empty none⟩ : Console ByteSink)).2.sink.taken.toList
              = text
            ∧ accepted <+: text := by
  obtain ⟨ends, ⟨-, remains⟩, -, written⟩ :=
    remains_of_abort Room ByteSink ByteSink unsteady.solver steady.solver fourTrials.config
      (fun _ => []) fourTrials rfl (by decide) unsteady steady answers_unsteady answers_steady 0
  refine ⟨?_, written _ _ _ ByteSink.keeps ByteSink.keeps ByteSink.unfailing true
    (.empty (some 100)) (.empty none) rfl⟩
  -- The ending and the number of reports that were taken are computed; they leave one case only.
  have ran : (Sweep.run fourTrials 0 unsteady steady (⟨1⟩ : Room)).1
      = .error (.failed (.io "no room")) := by decide +kernel
  have taken : (Sweep.run fourTrials 0 unsteady steady
      (Receipts.blank ⟨1⟩ : Receipts Float Room)).2.taken.length = 1 := by decide +kernel
  rcases (ends ⟨1⟩ _ _).mp (Prod.fst_eq_iff.mp ran) with
    ⟨trials, final, ⟨_, _, stops⟩, _⟩ | ⟨trials, trial, final, breaks, _⟩ | ⟨_, refused⟩
  · cases stops
  · have left := remains _ _ _ _ _ breaks
    rw [left.reported, List.length_map] at taken
    exact ⟨trials, trial, final, taken, breaks, left⟩
  · cases refused

end Sweep

end QuadraticTrials

import Mathlib
import QuadraticTrials.Proofs.CommandLine
import QuadraticTrials.Proofs.Sweep.Simulation

/-!
What a console writes during a sweep. A sink that fails somewhere has taken a first part of the text
that the same sweep writes to a sink that never fails.
-/

namespace QuadraticTrials

-----------------------------------------------------------------------------------------
-- Sinks
-----------------------------------------------------------------------------------------

namespace Sink

def bytes (text : String) : List UInt8 :=
  text.toUTF8.data.toList

theorem bytes_append (s t : String) : bytes (s ++ t) = bytes s ++ bytes t := by
  simp [bytes, String.toByteArray_append]

/-- A joined text has the bytes of its pieces, by induction on them. -/
theorem bytes_join (pieces : List String) : bytes (String.join pieces) = pieces.flatMap bytes := by
  induction pieces with
  | nil => rfl
  | cons piece rest ih => rw [String.join_cons, bytes_append, ih, List.flatMap_cons]

theorem bytes_injective : Function.Injective bytes := by
  intro s t same
  exact String.toByteArray_inj.mp (ByteArray.ext (Array.toList_inj.mp same))

/-- What a sink has taken grows by the pieces that it accepts, by a first part of a piece that it
refuses, and by nothing else.
-/
structure Keeps {σ : Type} [Sink σ] (taken : σ → List UInt8) : Prop where
  written : ∀ text s s', Sink.write text s = (.ok (), s') → taken s' = taken s ++ bytes text
  refused
    : ∀ text s reason s',
        Sink.write text s = (.error reason, s') →
          ∃ part, part <+: bytes text ∧ taken s' = taken s ++ part
  flushed : ∀ s, taken (Sink.flush s).2 = taken s

/-- In ready states a sink refuses nothing, and it stays in such states. -/
structure Unfailing {σ : Type} [Sink σ] (ready : σ → Prop) : Prop where
  write : ∀ text s, ready s → ∃ s', Sink.write text s = (.ok (), s') ∧ ready s'
  flush : ∀ s, ready s → ∃ s', Sink.flush s = (.ok (), s') ∧ ready s'

/-- Bytes grow by a first part of a text, and by all of it unless something failed. -/
def Grows {ε : Type} (text : List UInt8) (before after : List UInt8) (result : Except ε Unit)
    : Prop :=
  ∃ part, part <+: text ∧ after = before ++ part ∧ (result = .ok () → part = text)

end Sink

namespace ByteSink

theorem keeps : Sink.Keeps fun s : ByteSink => s.taken.toList := by
  refine ⟨fun text s s' accepted => ?_, fun text s reason s' refused => ?_, fun s => rfl⟩
  · change write text s = _ at accepted
    unfold write at accepted
    dsimp only at accepted
    split at accepted
    case h_1 =>
      cases accepted
      exact Array.toList_append
    case h_2 limit limited =>
      split at accepted
      case isFalse => cases accepted
      case isTrue room =>
        cases accepted
        exact Array.toList_append
  · change write text s = _ at refused
    unfold write at refused
    dsimp only at refused
    split at refused
    case h_1 => cases refused
    case h_2 limit limited =>
      split at refused
      case isTrue => cases refused
      case isFalse full =>
        cases refused
        refine ⟨_, List.take_prefix (limit - s.taken.size) _, ?_⟩
        simp [Sink.bytes]

theorem unfailing : Sink.Unfailing fun s : ByteSink => s.limit = none := by
  refine ⟨fun text s unlimited => ?_, fun s unlimited => ⟨s, rfl, unlimited⟩⟩
  refine ⟨{ s with taken := s.taken ++ text.toUTF8.data }, ?_, unlimited⟩
  change write text s = _
  simp only [write, unlimited]

end ByteSink

-----------------------------------------------------------------------------------------
-- Consoles
-----------------------------------------------------------------------------------------

namespace Console

open Sink

/-- The bytes that a report is written as; none if the console is quiet about it. -/
def reportBytes {K : Type} [NumberText K] (verbose : Bool) (r : Report K) : List UInt8 :=
  if verbose || !r.verdict.isPassed then ((pieces? r).getD []).flatMap bytes else []

section Keeping

variable {σ : Type} [Sink σ] {taken : σ → List UInt8} (keeps : Keeps taken)

include keeps

/-- Pieces are taken one after the other up to the first that is refused, by induction on them. -/
theorem grows_writeAll (texts : List String) (s : σ)
    : Grows (texts.flatMap bytes) (taken s) (taken (writeAll texts s).2)
        (writeAll texts s).1 := by
  induction texts generalizing s with
  | nil =>
      refine ⟨[], List.prefix_rfl, ?_, fun _ => rfl⟩
      rw [writeAll, keeps.flushed, List.append_nil]
  | cons piece rest ih =>
      rw [writeAll, List.flatMap_cons]
      split
      case h_1 reason s' refused =>
        -- Of the refused piece a first part may have been taken; the rest is not tried.
        obtain ⟨part, initial, grown⟩ := keeps.refused _ _ _ _ refused
        exact ⟨part, initial.trans (List.prefix_append _ _), grown, fun passed => by cases passed⟩
      case h_2 s' accepted =>
        obtain ⟨part, initial, grown, whole⟩ := ih s'
        rw [keeps.written _ _ _ accepted, List.append_assoc] at grown
        exact ⟨_, (List.prefix_append_right_inj _).mpr initial, grown, fun passed => by
          rw [whole passed]⟩

theorem grows_put (texts : List String) (c : Console σ)
    : Grows (texts.flatMap bytes) (taken c.sink) (taken (c.put texts).2.sink) (c.put texts).1 := by
  obtain ⟨part, initial, grown, whole⟩ := grows_writeAll keeps texts c.sink
  refine ⟨part, initial, grown, fun passed => whole ?_⟩
  cases result : (writeAll texts c.sink).1 with
  | ok done => rfl
  | error reason =>
      simp only [put, result] at passed
      cases passed

/-- A console writes a first part of a report, and all of it unless it fails. -/
theorem grows_publish {K : Type} [NumberText K] (r : Report K) (c : Console σ)
    : Grows (reportBytes c.verbose r) (taken c.sink) (taken (c.publish r).2.sink)
        (c.publish r).1 := by
  rw [publish, reportBytes]
  split
  · split
    case h_1 missing =>
      rw [missing]
      exact ⟨[], List.nil_prefix, (List.append_nil _).symm, fun passed => by cases passed⟩
    case h_2 texts shown =>
      rw [shown]
      exact grows_put keeps texts c
  · exact ⟨[], List.prefix_rfl, (List.append_nil _).symm, fun _ => rfl⟩

end Keeping

section Unfailing

variable {σ : Type} [Sink σ] {ready : σ → Prop} (unfailing : Unfailing ready)

include unfailing

theorem exists_writeAll (texts : List String) {s : σ} (well : ready s)
    : ∃ s', writeAll texts s = (.ok (), s') ∧ ready s' := by
  induction texts generalizing s with
  | nil => exact unfailing.flush s well
  | cons piece rest ih =>
      obtain ⟨s', accepted, better⟩ := unfailing.write piece s well
      simp only [writeAll, accepted]
      exact ih better

theorem exists_put (texts : List String) {c : Console σ} (well : ready c.sink)
    : ∃ c', c.put texts = (.ok (), c') ∧ ready c'.sink := by
  obtain ⟨s', written, better⟩ := exists_writeAll unfailing texts well
  refine ⟨{ c with sink := s' }, ?_, better⟩
  simp only [put, written]
  rfl

/-- A console over a sink that refuses nothing takes every report that is made. -/
theorem exists_publish {K : Type} [NumberText K] {r : Report K} (made : r.IsMade) {c : Console σ}
    (well : ready c.sink)
    : ∃ c', c.publish r = (.ok (), c') ∧ ready c'.sink := by
  rw [publish, pieces?_of_isMade made]
  split
  · exact exists_put unfailing _ well
  · exact ⟨c, rfl, well⟩

/-- A console over a sink that refuses nothing takes the reports of all trials and all totals. -/
theorem willing (K : Type) [NumberText K]
    : Reporter.Willing K fun c : Console σ => ready c.sink := by
  constructor
  · exact fun trial c well => exists_publish unfailing trial.isMade_report well
  · intro total failed c well
    obtain ⟨c', written, -⟩ := exists_put unfailing [totalsLine total failed] well
    exact ⟨c', written⟩

end Unfailing

theorem verbose_publish {K σ : Type} [NumberText K] [Sink σ] (r : Report K) (c : Console σ)
    : (c.publish r).2.verbose = c.verbose := by
  unfold publish
  split
  · split <;> rfl
  · rfl

end Console

-----------------------------------------------------------------------------------------
-- Sweeps
-----------------------------------------------------------------------------------------

namespace Sweep

open Sink Console

variable {K σ τ ω : Type} [Scalar K] [NumberText K] [SymmetricSpectrum K] [Sink ω]
  {taken : ω → List UInt8} {t : Tester K σ τ} {total : Nat} {scale : K} {scales : List K}
  {trial : Trial K} {trials : List (Trial K)} {cause : Cause K} {stop : Stop}
  {s next final : Sweep K σ τ (Console ω)}

/-- The bytes that the reports of some trials are written as. -/
def trialBytes (verbose : Bool) (trials : List (Trial K)) : List UInt8 :=
  trials.flatMap fun trial => reportBytes verbose trial.report

theorem Carries.taken_eq (keeps : Keeps taken) (carries : Carries t total scale s trial next)
    : taken next.reporter.sink
          = taken s.reporter.sink ++ reportBytes s.reporter.verbose trial.report
        ∧ next.reporter.verbose = s.reporter.verbose := by
  have published : s.reporter.publish trial.report = (.ok (), next.reporter) := carries.published
  obtain ⟨part, -, grown, whole⟩ := grows_publish keeps trial.report s.reporter
  have same := verbose_publish trial.report s.reporter
  rw [published] at grown whole same
  rw [whole rfl] at grown
  exact ⟨grown, same⟩

/-- Carried trials have their whole reports written, by induction along them. -/
theorem Trials.taken_eq (keeps : Keeps taken) (chain : Trials t total scales s trials final)
    : taken final.reporter.sink
          = taken s.reporter.sink ++ trialBytes s.reporter.verbose trials
        ∧ final.reporter.verbose = s.reporter.verbose := by
  induction chain with
  | nil => exact ⟨(List.append_nil _).symm, rfl⟩
  | cons first later ih =>
      obtain ⟨grown, same⟩ := first.taken_eq keeps
      rw [same, grown] at ih
      rw [trialBytes, List.flatMap_cons, ← List.append_assoc]
      exact ih

/-- A trial that stops a sweep has a first part of its report written, if it has one. -/
theorem Stops.taken_eq (keeps : Keeps taken) (stops : Stops t scale s cause stop next)
    : ∃ part,
        part <+: trialBytes s.reporter.verbose cause.refused
          ∧ taken next.reporter.sink = taken s.reporter.sink ++ part := by
  cases stops with
  | generation | breakdown => exact ⟨[], List.prefix_rfl, (List.append_nil _).symm⟩
  | @publication trial _ _ _ _ _ generated evaluated refused =>
      change s.reporter.publish trial.report = _ at refused
      obtain ⟨part, initial, grown, -⟩ := grows_publish keeps trial.report s.reporter
      rw [refused] at grown
      refine ⟨part, ?_, grown⟩
      rwa [trialBytes, Cause.refused, List.flatMap_singleton]

/-- The trials of some cost scales only add to what is written. -/
theorem exists_taken_runScales (keeps : Keeps taken) (t : Tester K σ τ) (total : Nat)
    (scales : List K) (s : Sweep K σ τ (Console ω))
    : ∃ more,
        taken (runScales t total scales s).2.reporter.sink = taken s.reporter.sink ++ more := by
  cases ran : runScales t total scales s with
  | mk result final =>
      cases result with
      | ok done =>
          obtain ⟨trials, chain⟩ := trials_of_runScales ran
          exact ⟨_, (chain.taken_eq keeps).1⟩
      | error stop =>
          obtain ⟨trials, cause, -, before, stops⟩ := breaks_of_runScales ran
          obtain ⟨part, -, grown⟩ := stops.taken_eq keeps
          rw [(before.taken_eq keeps).1, List.append_assoc] at grown
          exact ⟨_, grown⟩

-----------------------------------------------------------------------------------------
-- Whole sweeps
-----------------------------------------------------------------------------------------

omit [Scalar K] [SymmetricSpectrum K] in
theorem exists_taken_finish (keeps : Keeps taken) (s : Sweep K σ τ (Console ω))
    : ∃ more, taken s.finish.2.sink = taken s.reporter.sink ++ more := by
  obtain ⟨part, -, grown, -⟩ :=
    grows_put keeps [totalsLine s.summary.totalTrials s.summary.failedTrials] s.reporter
  unfold finish
  split
  · exact ⟨[], (List.append_nil _).symm⟩
  · split
    all_goals
      rename_i finished
      change s.reporter.put _ = _ at finished
      rw [finished] at grown
      exact ⟨part, grown⟩

variable {entropy : UInt64} {reference : σ} {candidate : τ} {console : Console ω}

/-- What a sweep writes starts with the reports of the trials that it carries out first. -/
theorem Trials.exists_taken_run (counted : t.config.trialCount < wordBound) (keeps : Keeps taken)
    {first later : List K} (reached : t.config.schedule = first ++ later)
    (before
      : Trials t t.config.trialCount first (opened t entropy reference candidate console) trials
          final)
    : ∃ more,
        taken (Sweep.run t entropy reference candidate console).2.sink
          = taken console.sink ++ (trialBytes console.verbose trials ++ more) := by
  have written := (before.taken_eq keeps).1
  obtain ⟨more, grown⟩ := exists_taken_runScales keeps t t.config.trialCount later final
  rw [Sweep.run_eq counted, reached, runScales_append, before.runScales_eq]
  simp only
  cases ran : runScales t t.config.trialCount later final with
  | mk result last =>
      rw [ran, written, List.append_assoc] at grown
      cases result with
      | error stop => exact ⟨more, grown⟩
      | ok done =>
          obtain ⟨totals, added⟩ := exists_taken_finish keeps last
          rw [grown, List.append_assoc, List.append_assoc] at added
          exact ⟨_, added⟩

/-- A sweep that comes through its schedule writes the reports of its trials and then its totals, or
a first part of them if that fails.
-/
theorem Trials.grows_run (counted : t.config.trialCount < wordBound) (keeps : Keeps taken)
    (chain
      : Trials t t.config.trialCount t.config.schedule
          (opened t entropy reference candidate console) trials final)
    : Grows (bytes (totalsLine final.summary.totalTrials final.summary.failedTrials))
        (taken console.sink ++ trialBytes console.verbose trials)
        (taken (Sweep.run t entropy reference candidate console).2.sink)
        (Reporter.finish K final.summary.totalTrials final.summary.failedTrials
          final.reporter).1 := by
  have totals := grows_put keeps
    [totalsLine final.summary.totalTrials final.summary.failedTrials] final.reporter
  rw [(chain.taken_eq keeps).1, List.flatMap_singleton] at totals
  rw [chain.run_eq counted]
  exact totals

/-- A sweep that is broken off has written the reports of its trials, and a first part of the report
that was refused.
-/
theorem Breaks.exists_taken_run (counted : t.config.trialCount < wordBound) (keeps : Keeps taken)
    (breaks
      : Breaks t t.config.trialCount t.config.schedule
          (opened t entropy reference candidate console) trials cause stop final)
    : ∃ part,
        part <+: trialBytes console.verbose cause.refused
          ∧ taken (Sweep.run t entropy reference candidate console).2.sink
            = taken console.sink ++ (trialBytes console.verbose trials ++ part) := by
  have ran := breaks.runScales_eq
  obtain ⟨-, before, stops⟩ := breaks
  obtain ⟨written, same⟩ := before.taken_eq keeps
  obtain ⟨part, initial, grown⟩ := stops.taken_eq keeps
  rw [written, List.append_assoc] at grown
  rw [same] at initial
  rw [run_eq counted, ran]
  exact ⟨part, initial, grown⟩

variable {ω' : Type} [Sink ω'] {taken' : ω' → List UInt8} {ready : ω' → Prop} {sink : ω}
  {sink' : ω'}

/-- A console over a sink that may fail anywhere has written a first part of what the same sweep
writes over a sink that never fails.
-/
theorem written_initial (counted : t.config.trialCount < wordBound) (keeps : Keeps taken)
    (keeps' : Keeps taken') (unfailing : Unfailing ready) (well : ready sink') (verbose : Bool)
    : ∃ accepted text,
        taken (Sweep.run t entropy reference candidate (⟨verbose, sink⟩ : Console ω)).2.sink
            = taken sink ++ accepted
          ∧ taken' (Sweep.run t entropy reference candidate (⟨verbose, sink'⟩ : Console ω')).2.sink
            = taken' sink' ++ text
          ∧ accepted <+: text := by
  have alike : Alike (opened t entropy reference candidate (⟨verbose, sink⟩ : Console ω))
      (opened t entropy reference candidate (⟨verbose, sink'⟩ : Console ω')) :=
    ⟨rfl, rfl, rfl, rfl, rfl⟩
  cases ran
      : runScales t t.config.trialCount t.config.schedule
          (opened t entropy reference candidate (⟨verbose, sink⟩ : Console ω)) with
  | mk result final =>
      cases result with
      | error stop =>
          obtain ⟨trials, cause, breaks⟩ := breaks_of_runScales ran
          obtain ⟨first, later, final', reached, chain'⟩ :=
            breaks.outlasted t.config.trialCount (willing unfailing K) rfl alike well
          obtain ⟨more, text⟩ := chain'.exists_taken_run counted keeps' reached
          obtain ⟨part, initial, accepted⟩ := breaks.exists_taken_run counted keeps
          refine ⟨_, _, accepted, text, ?_⟩
          rw [trialBytes, trialBytes, List.flatMap_append, List.append_assoc]
          exact (List.prefix_append_right_inj _).mpr (initial.trans (List.prefix_append _ _))
      | ok done =>
          obtain ⟨trials, chain⟩ := trials_of_runScales ran
          obtain ⟨final', chain', same, better⟩ :=
            chain.simulate (simulates_alike _ _ (willing unfailing K) rfl) [] ⟨alike, well⟩
          obtain ⟨part, initial, accepted, -⟩ := chain.grows_run counted keeps
          obtain ⟨part', -, text, whole⟩ := chain'.grows_run counted keeps'
          obtain ⟨_, finished⟩ := (willing unfailing K).finish final'.summary.totalTrials
            final'.summary.failedTrials final'.reporter better
          rw [List.append_assoc] at accepted text
          refine ⟨_, _, accepted, text, (List.prefix_append_right_inj _).mpr ?_⟩
          rw [whole (by rw [finished]), same.summary]
          exact initial

end Sweep

end QuadraticTrials

import Mathlib
import QuadraticTrials.Proofs.Sweep.Agreement

/-!
Exit codes of the program. Its two solvers answer every call and its terminal takes every report,
so that a sweep in range ends with a summary or with an error, and the exit code tells which.
-/

namespace QuadraticTrials

-----------------------------------------------------------------------------------------
-- Digests can be shown in part
-----------------------------------------------------------------------------------------

namespace Digest

/-- A digest consists of hexadecimal digits, which are single bytes. -/
theorem utf8Size_sha256 (text : String)
    : ∀ c ∈ (sha256 text).toList, c.utf8Size = 1 := by
  have digit : ∀ n < 16, (Nat.digitChar n).utf8Size = 1 := by decide
  intro c member
  simp only [sha256, String.toList_join, List.mem_flatMap, List.mem_map] at member
  obtain ⟨_, ⟨w, -, rfl⟩, member⟩ := member
  simp only [hexWord, String.toList_ofList, List.mem_map] at member
  obtain ⟨i, -, rfl⟩ := member
  exact digit _ (Nat.mod_lt _ (by decide))

end Digest

/-- A report is made for a trial, which puts in the digest of the inputs. -/
def Report.IsMade {K : Type} [NumberText K] (r : Report K) : Prop :=
  ∃ trial costScale inputs outputs verdict, r = .make trial costScale inputs outputs verdict

theorem Trial.isMade_report {K : Type} [NumberText K] (trial : Trial K) : trial.report.IsMade :=
  ⟨_, _, _, _, _, rfl⟩

namespace Console

/-- A text of single bytes can be cut anywhere, by induction on it. -/
theorem bytePrefix?_eq_take (count : Nat) {text : List Char} (single : ∀ c ∈ text, c.utf8Size = 1)
    : bytePrefix? count text = some (text.take count) := by
  induction text generalizing count with
  | nil => rw [bytePrefix?, List.take_nil]
  | cons c rest ih =>
      have one := single c List.mem_cons_self
      have more := ih (count - 1) fun c member => single c (List.mem_cons_of_mem _ member)
      rw [bytePrefix?, one, more]
      cases count with
      | zero => rfl
      | succ count => rfl

/-- The text of a report in pieces, with the first digits of its digest. -/
def pieces {K : Type} [NumberText K] (r : Report K) : List String :=
  [line ("[trial " ++ toString r.trial ++ " | cost scale " ++ NumberText.plain r.costScale
      ++ " | input " ++ String.ofList (r.inputHash.toList.take shownDigest) ++ "]"),
    line "[Test input matrices]"]
    ++ fieldLines inputKeys r.inputs
    ++ [line "", line "[Solutions]"]
    ++ fieldLines [] r.outputs
    ++ [verdictLine r.verdict, line ruler]

/-- A report that is made with the digest of its inputs has a text. -/
theorem pieces?_of_isMade {K : Type} [NumberText K] {r : Report K} (made : r.IsMade)
    : pieces? r = some (pieces r) := by
  obtain ⟨trial, costScale, inputs, outputs, verdict, rfl⟩ := made
  have shown := bytePrefix?_eq_take shownDigest (Digest.utf8Size_sha256 inputs.compact)
  simp only [pieces?, Report.make, Report.digest, shown]
  rfl

/-- Writing is refused, if at all, with a reason. -/
theorem put_ne_crashed {σ : Type} [Sink σ] (texts : List String) (c : Console σ)
    : (c.put texts).1 ≠ .error .crashed := by
  cases written : writeAll texts c.sink with
  | mk result sink => cases result <;> simp [put, written, Except.mapError]

end Console

/-- A terminal does not break down on the report of a trial. -/
theorem Terminal.publish_ne_crashed (trial : Trial Float) (terminal : Terminal)
    : (Reporter.publish trial.report terminal).1 ≠ .error .crashed := by
  change (terminal.console.publish trial.report).1 ≠ _
  rw [Console.publish]
  split
  case isFalse => simp
  case isTrue =>
    rw [Console.pieces?_of_isMade trial.isMade_report]
    exact Console.put_ne_crashed _ terminal.console

theorem Terminal.finish_ne_crashed (total failed : Nat) (terminal : Terminal)
    : (Reporter.finish Float total failed terminal).1 ≠ .error .crashed := by
  change (terminal.console.put [Console.totalsLine total failed]).1 ≠ _
  exact Console.put_ne_crashed _ terminal.console

-----------------------------------------------------------------------------------------
-- Solvers that answer every call
-----------------------------------------------------------------------------------------

/-- A solver answers every call in a state, and stays in it. -/
def Solver.Steady {K σ : Type} (solver : Solver K σ) (state : σ) : Prop :=
  ∀ inst options,
    (∃ result, (solver.call inst options state).1.reply = .returned result)
      ∧ (solver.call inst options state).2 = state

theorem Solver.Steady.timed {K σ : Type} {solver : Solver K σ} {state : σ}
    (steady : solver.Steady state) (limit : Nat)
    : (solver.timed limit).Steady state := by
  intro inst options
  exact ⟨⟨_, rfl⟩, (steady inst options).2⟩

theorem CommandLine.reference_steady : reference.solver.Steady reference := by
  intro inst options
  constructor
  · exact ⟨Conic.solve inst, by simp [reference, StandIn.solver, StandIn.call, Call.immediate]⟩
  · simp [reference, StandIn.solver, StandIn.call]

theorem CommandLine.candidate_steady : candidate.solver.Steady candidate := by
  intro inst options
  constructor
  · exact ⟨InteriorPoint.solve .standard options inst, by
      simp [candidate, StandIn.solver, StandIn.call]⟩
  · simp [candidate, StandIn.solver, StandIn.call]

/-- The state that a worker has, before its call or after it. -/
def Worker.state {K σ : Type} : Worker K σ → σ
  | waiting state => state
  | done _ state => state

namespace Worker

variable {K σ : Type} {solver : Solver K σ} {state : σ} {worker : Worker K σ}

theorem state_work (steady : solver.Steady state) (place : worker.state = state)
    (inst : Instance K) (options : Options K)
    : (worker.work solver inst options).state = state := by
  cases worker with
  | waiting current =>
      cases place
      exact (steady inst options).2
  | done call current => exact place

theorem state_join (steady : solver.Steady state) (place : worker.state = state)
    (inst : Instance K) (options : Options K)
    : (worker.join solver inst options).2 = state := by
  cases worker with
  | waiting current =>
      cases place
      exact (steady inst options).2
  | done call current => exact place

end Worker

/-- Workers of steady solvers stay in their states, by induction on the schedule. -/
theorem Solvers.state_moves {K σ τ : Type} {pair : Solvers K σ τ} {reference : σ} {candidate : τ}
    (steady : pair.reference.Steady reference) (steady' : pair.candidate.Steady candidate)
    (schedule : List Role) (inst : Instance K) (options : Options K)
    {workers : Worker K σ × Worker K τ} (first : workers.1.state = reference)
    (second : workers.2.state = candidate)
    : (schedule.foldl (pair.move inst options) workers).1.state = reference
      ∧ (schedule.foldl (pair.move inst options) workers).2.state = candidate := by
  induction schedule generalizing workers with
  | nil => exact ⟨first, second⟩
  | cons role rest ih =>
      rw [List.foldl_cons]
      cases role with
      | reference => exact ih (Worker.state_work steady first inst options) second
      | candidate => exact ih first (Worker.state_work steady' second inst options)

namespace Tester

variable {K σ τ : Type} [Scalar K] [NumberText K] {t : Tester K σ τ} {reference : σ}
  {candidate : τ}

omit [Scalar K] [NumberText K] in
/-- Steady solvers answer on every instance, in turn or side by side. -/
theorem exists_solveBoth (steady : t.solvers.reference.Steady reference)
    (steady' : t.solvers.candidate.Steady candidate) (index : Nat) (inst : Instance K)
    : ∃ solved,
        t.solveBoth index inst reference candidate = some solved
          ∧ solved.referenceState = reference ∧ solved.candidateState = candidate := by
  rw [solveBoth]
  split
  case isTrue parallel =>
    obtain ⟨first, second⟩ :=
      Solvers.state_moves steady steady' (t.interleaving index) inst t.options
        (show (Worker.waiting reference, Worker.waiting candidate).1.state = reference from rfl) rfl
    exact ⟨_, rfl, Worker.state_join steady first inst t.options,
      Worker.state_join steady' second inst t.options⟩
  case isFalse inTurn =>
    obtain ⟨⟨result, answered⟩, kept⟩ := steady inst t.options
    obtain ⟨⟨result', answered'⟩, kept'⟩ := steady' inst t.options
    simp only [Solvers.solveInTurn, answered, answered']
    exact ⟨_, rfl, kept, kept'⟩

/-- A tester is made of an accepted configuration. -/
theorem accepted_of_make {reference : Solver K σ} {candidate : Solver K τ} {config : Config K}
    {interleaving : Nat → List Role} {t : Tester K σ τ}
    (made : Tester.make reference candidate config interleaving = .ok t)
    : t.config = config ∧ config.check = .ok () := by
  unfold make at made
  split at made
  case h_1 => cases made
  case h_2 valid =>
    cases made
    exact ⟨rfl, Config.validate_eq_ok_iff.mp valid⟩

/-- An accepted configuration makes a tester. -/
theorem exists_make {config : Config K} (accepted : config.check = .ok ())
    (reference : Solver K σ) (candidate : Solver K τ) (interleaving : Nat → List Role)
    : ∃ t, Tester.make reference candidate config interleaving = .ok t := by
  unfold make
  split
  case h_1 e refused => cases (Config.validate_eq_ok_iff.mpr accepted).symm.trans refused
  case h_2 => exact ⟨_, rfl⟩

end Tester

-----------------------------------------------------------------------------------------
-- Sweeps that do not break down
-----------------------------------------------------------------------------------------

namespace Sweep

variable {K σ τ ρ : Type} [Scalar K] [NumberText K] [SymmetricSpectrum K] [Reporter K ρ]
  {t : Tester K σ τ} {reference : σ} {candidate : τ}

/-- Nothing that a trial calls on breaks down: the solvers answer every call in the states that the
sweep has them in, and the reporter takes or refuses every report.
-/
structure Guarded (t : Tester K σ τ) (reference : σ) (candidate : τ) (ρ : Type) [Reporter K ρ]
    : Prop where
  reference : t.solvers.reference.Steady reference
  candidate : t.solvers.candidate.Steady candidate
  publish : ∀ (trial : Trial K) (r : ρ), (Reporter.publish trial.report r).1 ≠ .error .crashed

variable {total : Nat} {s : Sweep K σ τ ρ}

/-- A sweep has come to a state in which neither it nor its solvers are broken. -/
structure Unbroken (reference : σ) (candidate : τ) (result : Except Stop Unit × Sweep K σ τ ρ)
    : Prop where
  stop : result.1 ≠ .error .crashed
  reference : result.2.reference = reference
  candidate : result.2.candidate = candidate

omit [Scalar K] [SymmetricSpectrum K] in
theorem unbroken_publish (trial : Trial K)
    (taken : ∀ r : ρ, (Reporter.publish trial.report r).1 ≠ .error .crashed)
    : Unbroken s.reference s.candidate (publish total trial s) := by
  have result := taken (Reporter.relay K trial.lines s.reporter)
  unfold publish
  split
  case h_1 stop reporter refused =>
    rw [refused] at result
    exact ⟨result, rfl, rfl⟩
  case h_2 => exact ⟨by simp, rfl, rfl⟩

namespace Guarded

variable (guarded : Guarded t reference candidate ρ)

include guarded

theorem unbroken_runTrial (total : Nat) (scale : K) (first : s.reference = reference)
    (second : s.candidate = candidate)
    : Unbroken reference candidate (runTrial t total scale s) := by
  cases first
  cases second
  unfold runTrial
  split
  · exact ⟨by simp, rfl, rfl⟩
  rename_i inst generator generated
  obtain ⟨solved, answered, kept, kept'⟩ :=
    Tester.exists_solveBoth guarded.reference guarded.candidate s.index inst
  simp only [Tester.evaluate, answered, Option.map_some, kept, kept']
  exact unbroken_publish (s := { s with generator }) _ (guarded.publish _)

/-- No trial of some cost scales breaks down, by induction over them. -/
theorem unbroken_runScales (total : Nat) (scales : List K) (first : s.reference = reference)
    (second : s.candidate = candidate)
    : Unbroken reference candidate (runScales t total scales s) := by
  induction scales generalizing s with
  | nil => exact ⟨by simp [runScales], first, second⟩
  | cons scale rest ih =>
      have unbroken := guarded.unbroken_runTrial total scale first second
      rw [runScales]
      split
      case h_1 stop next stopped =>
        rw [stopped] at unbroken
        exact unbroken
      case h_2 next passed =>
        rw [passed] at unbroken
        exact ih unbroken.reference unbroken.candidate

/-- A guarded sweep in range ends with a summary or with an error. -/
theorem run_ne_crashed (counted : t.config.trialCount < wordBound)
    (finish : ∀ total failed (r : ρ), (Reporter.finish K total failed r).1 ≠ .error .crashed)
    (entropy : UInt64) (reporter : ρ)
    : (Sweep.run t entropy reference candidate reporter).1 ≠ .error .crashed := by
  have unbroken := guarded.unbroken_runScales t.config.trialCount t.config.schedule
    (s := opened t entropy reference candidate reporter) rfl rfl
  rw [Config.schedule, ← runRounds_eq_runScales, opened] at unbroken
  simp only [Sweep.run, Config.totalTrials?_eq_some.mpr ⟨counted, rfl⟩]
  split
  case h_1 stop next stopped =>
    rw [stopped] at unbroken
    intro crashed
    cases crashed
    exact unbroken.stop rfl
  case h_2 final passed =>
    have taken := finish final.summary.totalTrials final.summary.failedTrials final.reporter
    rw [Sweep.finish, done_of_runRounds passed]
    dsimp only
    split
    case h_1 stop next refused =>
      rw [refused] at taken
      intro crashed
      cases crashed
      exact taken rfl
    case h_2 => simp

end Guarded

end Sweep

-----------------------------------------------------------------------------------------
-- Exit codes
-----------------------------------------------------------------------------------------

namespace CommandLine

/-- The tester that the program makes has solvers that answer every call, with or without a time
limit.
-/
theorem guarded_of_make {config : Config Float} {interleaving : Nat → List Role}
    {t : Tester Float (StandIn Float) (StandIn Float)}
    (made : Tester.make reference.solver candidate.solver config interleaving = .ok t)
    : Sweep.Guarded t reference candidate Terminal := by
  unfold Tester.make at made
  split at made
  · cases made
  cases made
  refine ⟨?_, ?_, Terminal.publish_ne_crashed⟩
  · cases config.solveTimeoutMs with
    | none => exact reference_steady
    | some limit => exact reference_steady.timed limit
  · cases config.solveTimeoutMs with
    | none => exact candidate_steady
    | some limit => exact candidate_steady.timed limit

/-- What an exit code says: two for a configuration that is refused or a sweep that is aborted, and
for a summary the code of its verdict on the trials. No sweep in range ends otherwise.
-/
structure Exits (a : Arguments) (contents : Except String String) (entropy : UInt64) (code : Nat)
    : Prop where
  refused : ∀ e, a.configuration contents = .error e → code = 2
  aborted
    : ∀ config e,
        a.configuration contents = .ok config →
          (sweep config entropy ⟨⟨!a.quiet, .empty none⟩⟩).1 = .error (.failed e) → code = 2
  judged
    : ∀ config summary,
        a.configuration contents = .ok config →
          (sweep config entropy ⟨⟨!a.quiet, .empty none⟩⟩).1 = .ok summary →
            code = summary.exitStatus.code
              ∧ ∃ t trials,
                  Tester.make reference.solver candidate.solver config (fun _ => []) = .ok t
                    ∧ Sweep.Verdict t entropy reference candidate
                        (⟨⟨!a.quiet, .empty none⟩⟩ : Terminal) summary trials
  unbroken
    : ∀ config,
        a.configuration contents = .ok config → config.trialCount < wordBound →
          (sweep config entropy ⟨⟨!a.quiet, .empty none⟩⟩).1 ≠ .error .crashed

/-- The exit code by cases on the configuration and on how its sweep ends. -/
theorem exits_execute (a : Arguments) (contents : Except String String) (entropy : UInt64)
    : Exits a contents entropy (execute a contents entropy).code := by
  constructor
  · intro e refused
    simp only [execute, refused, environmentCode]
  · intro config e accepted aborted
    simp only [execute, accepted, aborted, environmentCode]
  · intro config summary accepted ended
    refine ⟨by simp only [execute, accepted, ended], ?_⟩
    unfold sweep at ended
    split at ended
    · cases ended
    rename_i t made
    obtain ⟨same, checked⟩ := Tester.accepted_of_make made
    obtain ⟨trials, verdict⟩ := Sweep.verdict_of_run (same ▸ checked) (Prod.fst_eq_iff.mp ended)
    exact ⟨t, trials, made, verdict⟩
  · intro config accepted counted
    unfold sweep
    split
    case h_1 e refused => simp
    case h_2 t made =>
      obtain ⟨same, -⟩ := Tester.accepted_of_make made
      exact (guarded_of_make made).run_ne_crashed (same ▸ counted) Terminal.finish_ne_crashed
        entropy _

/-- A run of the program on words that are read executes what they ask for. -/
theorem run_of_read {words : List String} {a : Arguments}
    (parsed : Arguments.empty.read words = some (.run a)) (contents : Except String String)
    (entropy : UInt64)
    : run words contents entropy = execute a contents entropy := by
  simp only [run, parsed]

/-- An aborted sweep leaves its error as the reason. -/
theorem aborted_execute {a : Arguments} {contents : Except String String} {entropy : UInt64}
    {config : Config Float} {e : Error} (accepted : a.configuration contents = .ok config)
    (aborted : (sweep config entropy ⟨⟨!a.quiet, .empty none⟩⟩).1 = .error (.failed e))
    : (execute a contents entropy).aborted = some e.message := by
  simp only [execute, accepted, aborted]

end CommandLine

/-- A sweep under an accepted configuration succeeds exactly if all its trials agree, whatever the
two solvers answer; and the program exits with that verdict, or with two if there is none.
-/
theorem exitCode_is_agreement {K σ τ ρ : Type} [Scalar K] [Scalar.Confining K] [NumberText K]
    [SymmetricSpectrum K] [Reporter K ρ] (first : Solver K σ) (second : Solver K τ)
    (config : Config K) (interleaving : Nat → List Role)
    : (∀ t entropy reference candidate (reporter : ρ) summary reporter',
        Tester.make first second config interleaving = .ok t →
          Sweep.run t entropy reference candidate reporter = (.ok summary, reporter') →
            t.config = config
              ∧ ∃ trials, Sweep.Verdict t entropy reference candidate reporter summary trials)
        ∧ ∀ words a contents entropy,
            Arguments.empty.read words = some (.run a) →
              CommandLine.Exits a contents entropy
                (CommandLine.run words contents entropy).code := by
  constructor
  · intro t entropy reference candidate reporter summary reporter' made ran
    obtain ⟨same, checked⟩ := Tester.accepted_of_make made
    exact ⟨same, Sweep.verdict_of_run (same ▸ checked) ran⟩
  · intro words a contents entropy parsed
    rw [CommandLine.run_of_read parsed]
    exact CommandLine.exits_execute a contents entropy

/-- A configuration text whose only cost scale is so small that every drawn cost vanishes. -/
def vanishingCosts : String :=
  "\x7b\"cost_scales\": [5e-324], \"seed\": 7\x7d"

/-- The sweep over vanishing costs finds no cost that it accepts, by computation. -/
theorem exists_vanishing_aborted
    : ∃ config,
        Arguments.configuration { Arguments.empty with config := some "costs" } (.ok vanishingCosts)
            = .ok config
          ∧ (CommandLine.sweep config 0 ⟨⟨true, .empty none⟩⟩).1
            = .error (.failed (.generation "no positive-definite cost matrix after 16 draws")) := by
  have computed : (Arguments.configuration { Arguments.empty with config := some "costs" }
        (.ok vanishingCosts)).toOption.map
        (fun config => (CommandLine.sweep config 0 ⟨⟨true, .empty none⟩⟩).1)
      = some (.error (.failed
          (.generation "no positive-definite cost matrix after 16 draws"))) := by
    decide +kernel
  cases configured : Arguments.configuration { Arguments.empty with config := some "costs" }
      (.ok vanishingCosts) with
  | error e =>
      rw [configured] at computed
      cases computed
  | ok config =>
      rw [configured] at computed
      exact ⟨config, rfl, Option.some.inj computed⟩

/-- Three of four trials disagree, a negative tolerance is refused, a sweep over vanishing costs is
aborted, and no trials agree.
-/
theorem fourTrials_exitCodes
    : (∃ trials,
        Sweep.Verdict Sweep.fourTrials 0 Sweep.unsteady Sweep.steady (Memory.empty : Memory Float)
            ⟨4, 3, 1, 1, 1, some 7⟩ trials
          ∧ ¬∀ trial ∈ trials, trial.Agrees (1 : Float))
      ∧ (CommandLine.run ["--tolerance=-1"] (.ok "") 0).code = 2
      ∧ (CommandLine.run ["--config=costs"] (.ok vanishingCosts) 0).aborted
        = some "Generation error: no positive-definite cost matrix after 16 draws"
      ∧ (CommandLine.run ["--config=costs"] (.ok vanishingCosts) 0).code = 2
      ∧ (CommandLine.run ["--repetitions=0"] (.ok "") 0).code = 0 := by
  have made : Tester.make Sweep.unsteady.solver Sweep.steady.solver Sweep.fourTrials.config
      (fun _ => []) = .ok Sweep.fourTrials := rfl
  have ran : (Sweep.run Sweep.fourTrials 0 Sweep.unsteady Sweep.steady
      (Memory.empty : Memory Float)).1 = .ok ⟨4, 3, 1, 1, 1, some 7⟩ := by decide +kernel
  obtain ⟨sweeps, programs⟩ := exitCode_is_agreement Sweep.unsteady.solver Sweep.steady.solver
    (ρ := Memory Float) Sweep.fourTrials.config (fun _ => [])
  obtain ⟨-, trials, verdict⟩ :=
    sweeps Sweep.fourTrials 0 Sweep.unsteady Sweep.steady Memory.empty _ _ made
      (Prod.fst_eq_iff.mp ran)
  have parsed : Arguments.empty.read ["--config=costs"]
      = some (.run { Arguments.empty with config := some "costs" }) := rfl
  obtain ⟨config, configured, aborted⟩ := exists_vanishing_aborted
  refine ⟨⟨trials, verdict, fun agree => ?_⟩, ?_, ?_, ?_, ?_⟩
  · cases verdict.judges.success.mpr agree
  · exact (programs ["--tolerance=-1"] _ (.ok "") 0 rfl).refused _ rfl
  · have message : (Error.generation "no positive-definite cost matrix after 16 draws").message
        = "Generation error: no positive-definite cost matrix after 16 draws" := by decide +kernel
    rw [CommandLine.run_of_read parsed, CommandLine.aborted_execute configured aborted, message]
  · exact (programs _ _ (.ok vanishingCosts) 0 parsed).aborted config _ configured aborted
  · exact ((programs ["--repetitions=0"] _ (.ok "") 0 rfl).judged _ ⟨0, 0, 0, 0, 0, some 0⟩ rfl
      (by decide +kernel)).1

end QuadraticTrials

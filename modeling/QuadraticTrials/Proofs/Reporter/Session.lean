import Mathlib
import QuadraticTrials.Proofs.Reporter.Fields

/-!
What a console prints over all the calls that it gets. Each call adds its own text to what stands
there, whatever came before; a quiet console prints what a verbose one prints of the failing trials.
-/

namespace QuadraticTrials

-----------------------------------------------------------------------------------------
-- Calls
-----------------------------------------------------------------------------------------

namespace Reporter

variable {K ρ : Type} [Reporter K ρ]

/-- What a call returns; relayed lines are always taken. -/
def Call.on : Call K → ρ → Except Stop Unit × ρ
  | .relay lines, reporter => (.ok (), Reporter.relay K lines reporter)
  | .publish report, reporter => Reporter.publish report reporter
  | .finish total failed, reporter => Reporter.finish K total failed reporter

/-- Makes calls one after the other, whatever they return. -/
def callAll : List (Call K) → ρ → List (Except Stop Unit) × ρ
  | [], reporter => ([], reporter)
  | call :: rest, reporter =>
      let (result, reporter) := call.on reporter
      let (results, reporter) := callAll rest reporter
      (result :: results, reporter)

/-- The calls that publish some reports and then finish some times over. -/
def session (reports : List (Report K)) (totals : List (Nat × Nat)) : List (Call K) :=
  reports.map .publish ++ totals.map fun (total, failed) => .finish total failed

end Reporter

namespace Console

open Sink Reporter

variable {K σ : Type} [NumberText K] [Sink σ] {taken : σ → List UInt8} {ready : σ → Prop}
  {reports : List (Report K)} {calls : List (Reporter.Call K)}

/-- The reports of some calls are made for trials. -/
def AllMade (calls : List (Reporter.Call K)) : Prop :=
  ∀ report, .publish report ∈ calls → report.IsMade

/-- The bytes that a call adds. -/
def callBytes (verbose : Bool) : Reporter.Call K → List UInt8
  | .relay _ => []
  | .publish report => reportBytes verbose report
  | .finish total failed => bytes (totalsLine total failed)

/-- A console passes all calls and writes a text. -/
structure Writes (taken : σ → List UInt8) (c : Console σ) (calls : List (Reporter.Call K))
    (text : List UInt8)
    : Prop where
  passed : (callAll calls c).1 = calls.map fun _ => .ok ()
  written : taken (callAll calls c).2.sink = taken c.sink ++ text

/-- A call of a console adds its bytes, by cases on the call. -/
theorem exists_on (keeps : Keeps taken) (unfailing : Unfailing ready) {call : Reporter.Call K}
    (made : ∀ report, call = .publish report → report.IsMade) {c : Console σ}
    (well : ready c.sink)
    : ∃ c',
        call.on c = (.ok (), c') ∧ ready c'.sink ∧ c'.verbose = c.verbose
          ∧ taken c'.sink = taken c.sink ++ callBytes c.verbose call := by
  cases call with
  | relay lines => exact ⟨c, rfl, well, rfl, (List.append_nil _).symm⟩
  | publish report =>
      obtain ⟨c', published, better⟩ := exists_publish unfailing (made report rfl) well
      obtain ⟨part, -, grown, whole⟩ := grows_publish keeps report c
      have same := verbose_publish report c
      rw [published] at grown whole same
      rw [whole rfl] at grown
      exact ⟨c', published, better, same, grown⟩
  | finish total failed =>
      obtain ⟨c', finished, better⟩ := exists_put unfailing [totalsLine total failed] well
      obtain ⟨part, -, grown, whole⟩ := grows_put keeps [totalsLine total failed] c
      have same : (c.put [totalsLine total failed]).2.verbose = c.verbose := rfl
      rw [finished] at grown whole same
      rw [whole rfl, List.flatMap_singleton] at grown
      exact ⟨c', finished, better, same, grown⟩

/-- Calls add their bytes one after the other, by induction on them. -/
theorem writes_calls (keeps : Keeps taken) (unfailing : Unfailing ready) (made : AllMade calls)
    {c : Console σ} (well : ready c.sink)
    : Writes taken c calls (calls.flatMap (callBytes c.verbose)) := by
  induction calls generalizing c with
  | nil => exact ⟨rfl, (List.append_nil _).symm⟩
  | cons call calls ih =>
      obtain ⟨c', returned, better, same, grown⟩ := exists_on keeps unfailing
        (fun report here => made report (here ▸ List.mem_cons_self)) well
      obtain ⟨passed, written⟩ :=
        ih (fun report member => made report (List.mem_cons_of_mem _ member)) better
      rw [same, grown, List.append_assoc, ← List.flatMap_cons] at written
      constructor
      · rw [callAll, returned, List.map_cons, ← passed]
      · rw [callAll, returned]
        exact written

theorem allMade_session (made : ∀ report ∈ reports, report.IsMade) (totals : List (Nat × Nat))
    : AllMade (session reports totals) := by
  intro report member
  rcases List.mem_append.mp member with published | finished
  · obtain ⟨_, listed, same⟩ := List.mem_map.mp published
    cases same
    exact made _ listed
  · obtain ⟨_, _, same⟩ := List.mem_map.mp finished
    cases same

/-- The bytes of a session are those of its reports, and then those of its totals. -/
theorem flatMap_session (verbose : Bool) (reports : List (Report K)) (totals : List (Nat × Nat))
    : (session reports totals).flatMap (callBytes verbose)
      = reports.flatMap (reportBytes verbose)
        ++ totals.flatMap fun (total, failed) => bytes (totalsLine total failed) := by
  rw [session, List.flatMap_append, List.flatMap_map, List.flatMap_map]
  rfl

-----------------------------------------------------------------------------------------
-- Quiet consoles
-----------------------------------------------------------------------------------------

/-- The reports of failing trials. -/
def failing (reports : List (Report K)) : List (Report K) :=
  reports.filter fun report => report.verdict ≠ .passed

/-- A quiet console shows of some reports what a verbose one shows of the failing ones, by induction
on them.
-/
theorem flatMap_failing (reports : List (Report K))
    : reports.flatMap (reportBytes false) = (failing reports).flatMap (reportBytes true) := by
  induction reports with
  | nil => rfl
  | cons report reports ih =>
      rw [List.flatMap_cons, ih, failing, failing, List.filter_cons]
      cases verdict : report.verdict with
      | passed => simp [reportBytes, verdict, Verdict.isPassed]
      | failed reason => simp [reportBytes, verdict, Verdict.isPassed]

-----------------------------------------------------------------------------------------
-- Printed reports
-----------------------------------------------------------------------------------------

/-- How a report is closed. -/
inductive Closes : Verdict → String → Prop
  | passed : Closes .passed "\n[trial passed]\n"
  | failed (reason : String) : Closes (.failed reason) ("\n[trial FAILED: " ++ reason ++ "]\n")

/-- What is printed of a report: a line with the start of its digest, the inputs with the data of
the program in front, the outputs, the verdict and a ruler.
-/
def Shows (report : Report K) (text : String) : Prop :=
  ∃ inputs outputs closing,
    ShowsData ["P", "q", "A", "b", "A_eq", "b_eq"] report.inputs inputs
      ∧ ShowsData [] report.outputs outputs
      ∧ Closes report.verdict closing
      ∧ text
        = "[trial " ++ toString report.trial ++ " | cost scale "
          ++ NumberText.plain report.costScale
          ++ " | input " ++ String.ofList (report.inputHash.toList.take 12) ++ "]\n"
          ++ "[Test input matrices]\n" ++ inputs ++ "\n[Solutions]\n" ++ outputs ++ closing
          ++ "=============================================================\n"

theorem closes_verdictLine (verdict : Verdict) : Closes verdict (verdictLine verdict) := by
  cases verdict with
  | passed => exact .passed
  | failed reason =>
      have same : verdictLine (.failed reason) = "\n[trial FAILED: " ++ reason ++ "]\n" := by
        simp [verdictLine, line, String.append_assoc]
      rw [same]
      exact .failed reason

/-- The pieces of a report are what is to be printed of it. -/
theorem shows_pieces (report : Report K) : Shows report (String.join (pieces report)) := by
  have ruled : line ruler = "=============================================================\n" := by
    decide +kernel
  refine ⟨_, _, _, showsData (by decide) report.inputs, showsData List.nodup_nil report.outputs,
    closes_verdictLine report.verdict, ?_⟩
  simp only [pieces, String.join_append, String.join_cons, String.join_nil, ruled]
  simp [line, shownDigest, inputKeys, String.append_assoc]

/-- A verbose console writes the pieces of a report that is made for a trial. -/
theorem reportBytes_of_isMade {report : Report K} (made : report.IsMade)
    : reportBytes true report = bytes (String.join (pieces report)) := by
  rw [bytes_join, reportBytes, pieces?_of_isMade made]
  rfl

-----------------------------------------------------------------------------------------
-- Sessions
-----------------------------------------------------------------------------------------

/-- The texts of some reports, and a line for each pair of totals after them. -/
def transcript (text : Report K → String) (reports : List (Report K)) (totals : List (Nat × Nat))
    : String :=
  String.join (reports.map text)
    ++ String.join (totals.map fun (total, failed) =>
      "failed trials: " ++ toString failed ++ " of " ++ toString total ++ "\n")

/-- A verbose console writes of a session the transcript of its pieces. -/
theorem flatMap_session_eq_transcript (made : ∀ report ∈ reports, report.IsMade)
    (totals : List (Nat × Nat))
    : (session reports totals).flatMap (callBytes true)
      = bytes (transcript (fun report => String.join (pieces report)) reports totals) := by
  rw [flatMap_session, transcript, bytes_append, bytes_join, bytes_join, List.flatMap_map,
    List.flatMap_map]
  have texts := List.flatMap_congr fun report member => reportBytes_of_isMade (made report member)
  rw [texts]
  rfl

/-- A console over a sink that refuses nothing passes all calls of a session. Each report has its
text, whatever is printed before it: a verbose console adds the texts of all reports, a quiet one
those of the failing reports, as a verbose one does that gets only these, and both add the totals.
-/
theorem session_printed (keeps : Keeps taken) (unfailing : Unfailing ready)
    : ∃ text : Report K → String,
        (∀ report, report.IsMade → Shows report (text report))
          ∧ ∀ (reports : List (Report K)) totals,
              (∀ report ∈ reports, report.IsMade) →
                (∀ c : Console σ,
                    ready c.sink →
                      Writes taken c (session reports totals)
                        (bytes (transcript text (if c.verbose then reports else failing reports)
                          totals)))
                  ∧ ∀ sink sink' : σ,
                      ready sink → ready sink' →
                        ∃ written,
                          Writes taken ⟨false, sink⟩ (session reports totals) written
                            ∧ Writes taken ⟨true, sink'⟩ (session (failing reports) totals)
                              written := by
  refine ⟨fun report => String.join (pieces report), fun report _ => shows_pieces report, ?_⟩
  intro reports totals made
  have made' : ∀ report ∈ failing reports, report.IsMade :=
    fun report member => made report (List.mem_of_mem_filter member)
  have printed (c : Console σ) (well : ready c.sink)
      : Writes taken c (session reports totals)
          (bytes (transcript (fun report => String.join (pieces report))
            (if c.verbose then reports else failing reports) totals)) := by
    have written := writes_calls keeps unfailing (allMade_session made totals) well
    cases verbose : c.verbose with
    | true =>
        rw [verbose, flatMap_session_eq_transcript made] at written
        exact written
    | false =>
        rw [verbose, flatMap_session, flatMap_failing, ← flatMap_session,
          flatMap_session_eq_transcript made'] at written
        exact written
  refine ⟨printed, fun sink sink' well well' => ⟨_, printed ⟨false, sink⟩ well, ?_⟩⟩
  have written := writes_calls keeps unfailing (allMade_session made' totals)
    (c := ⟨true, sink'⟩) well'
  rw [flatMap_session_eq_transcript made'] at written
  exact written

/-- The report of a trial that passed. -/
def passedReport : Report Float :=
  .make 0 1 (.object [("P", .array [.array [.integer 1]]), ("q", .array [.integer 2])])
    (.object []) .passed

/-- The report of a trial that failed, with a key between the preferred ones. -/
def failedReport : Report Float :=
  .make 1 1
    (.object [("P", .array [.array [.integer 1, .integer 0], .array [.integer 0, .integer 1]]),
      ("n", .integer 2), ("q", .array [.integer 2, .integer 3])])
    (.object [("kind", .text "mismatch")]) (.failed "x[0] differs")

/-- The text of the failed report, its cost with a line for each row. -/
def failedText : String :=
  "[trial 1 | cost scale 1 | input 192f3b156df5]\n"
    ++ "[Test input matrices]\n"
    ++ "P =\n  [1,0]\n  [0,1]\n"
    ++ "q =\n  [2,3]\n"
    ++ "n =\n  2\n"
    ++ "\n[Solutions]\n"
    ++ "kind =\n  \"mismatch\"\n"
    ++ "\n[trial FAILED: x[0] differs]\n"
    ++ "=============================================================\n"

/-- Of a passed and a failed trial a quiet console prints the text of the failed one and the totals,
and so does a verbose one that gets the failed trial alone.
-/
theorem failedReport_printed
    : Shows failedReport failedText
      ∧ Writes (fun s : ByteSink => s.taken.toList) ⟨false, .empty none⟩
          (session [passedReport, failedReport] [(2, 1)])
          (bytes (failedText ++ "failed trials: 1 of 2\n"))
      ∧ Writes (fun s : ByteSink => s.taken.toList) ⟨true, .empty none⟩
          (session [failedReport] [(2, 1)]) (bytes (failedText ++ "failed trials: 1 of 2\n")) := by
  obtain ⟨text, shows, sessions⟩ :=
    session_printed (K := Float) ByteSink.keeps ByteSink.unfailing
  have passed : passedReport.IsMade := ⟨_, _, _, _, _, rfl⟩
  have failed : failedReport.IsMade := ⟨_, _, _, _, _, rfl⟩
  have both : ∀ report ∈ [passedReport, failedReport], report.IsMade := by
    simp [passed, failed]
  have alone : ∀ report ∈ [failedReport], report.IsMade := by
    simp [failed]
  -- The text is read off what the failed report alone is written as.
  have same : text failedReport = failedText := by
    have written := ((sessions [failedReport] [] alone).1 ⟨true, .empty none⟩ rfl).written
    have computed : (callAll (session [failedReport] [])
        (⟨true, .empty none⟩ : Console ByteSink)).2.sink.taken.toList = bytes failedText := by
      decide +kernel
    rw [computed] at written
    apply bytes_injective
    simpa [transcript, ByteSink.empty] using written.symm
  have quiet := (sessions [passedReport, failedReport] [(2, 1)] both).1 ⟨false, .empty none⟩ rfl
  have verbose := (sessions [failedReport] [(2, 1)] alone).1 ⟨true, .empty none⟩ rfl
  refine ⟨same ▸ shows failedReport failed, ?_, ?_⟩
  · rw [← same]
    exact quiet
  · rw [← same]
    exact verbose

end Console

end QuadraticTrials

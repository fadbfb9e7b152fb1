import Mathlib
import QuadraticTrials.Proofs.InteriorPoint.Cutoff
import QuadraticTrials.Proofs.InteriorPoint.Descent
import QuadraticTrials.Proofs.Unsized.Refinement

/-!
A solve that prints as it goes gives the same answer as one that is silent, and its lines are the
table of the run: a header and one row for each visited point, from the start to the last one.
-/

namespace QuadraticTrials

variable {K : Type} [Scalar K] [NumberText K] {n m p : Nat}

-----------------------------------------------------------------------------------------
-- Printing along the way
-----------------------------------------------------------------------------------------

/-- Adds a line to those printed so far, if lines are wanted. -/
def printLine (visible : Bool) (line : String) : StateM (List String) Unit :=
  modify fun printed => if visible then printed ++ [line] else printed

/-- The answer at a visited point. -/
def Record.answer (r : Record K n m p) (status : Status) : Solution K :=
  ⟨r.iterate.x.toList, status, r.objective, r.index⟩

/-- The loop from a visited point, which is printed before anything is asked of it. -/
def Program.solveFrom (prog : Program K n m p) (visible : Bool) (fraction tolerance : K)
    : (remaining : Nat) → Record K n m p
      → StateM (List String) (Except (InteriorPoint.Fault K) (Solution K))
  | remaining, r => do
      printLine visible (Run.row r)
      if prog.accepts tolerance r then return .ok (r.answer .optimal)
      else
        match remaining with
        | 0 => return .ok (r.answer .maxIterations)
        | remaining + 1 =>
            match prog.move fraction r with
            | .stalled => return .ok (r.answer .numericalError)
            | .singular => return .error (.singularAt r.index)
            | .advance next length =>
                prog.solveFrom visible fraction tolerance remaining
                  (prog.record (r.index + 1) length next)

namespace InteriorPoint

/-- The solve on a program, which prints the header after its checks and then follows the loop. -/
def solveOn (settings : Settings K) (visible : Bool) (prog : Program K n m p)
    : StateM (List String) (Except (Fault K) (Solution K)) :=
  if Scalar.isPositive settings.tolerance then
    match prog.start settings.infeasibleStart with
    | .error fault => return .error fault
    | .ok it => do
        printLine visible Run.header
        prog.solveFrom visible settings.stepFraction settings.tolerance settings.maxIterations
          (prog.record 0 0 it)
  else return .error (.badTolerance settings.tolerance)

/-- The solve on an instance that prints along the way. -/
def solveAloud (settings : Settings K) (options : Options K) (inst : Instance K)
    : StateM (List String) (Except Error (Solution K)) :=
  match passed : inst.check with
  | .error fault => return .error fault.toError
  | .ok () =>
      Except.mapError Fault.toError
        <$> solveOn (settings.withOptions options) options.showProgress
          (inst.toProgram (Instance.wellShaped_of_check passed))

end InteriorPoint

/-- The rows of a run, if lines are wanted. -/
def Run.rows (visible : Bool) (run : Run K n m p) : List String :=
  if visible then run.records.map Run.row else []

omit [Scalar K] [NumberText K] in
theorem run_printLine {α : Type} (visible : Bool) (line : String)
    (next : StateM (List String) α) (printed : List String)
    : (do printLine visible line; next).run printed
      = next.run (printed ++ if visible then [line] else []) := by
  cases visible with
  | false => exact congrArg next.run (List.append_nil printed).symm
  | true => rfl

/-- The loop gives the answer of its run and prints the rows of it, by induction on the steps still
allowed.
-/
theorem Program.run_solveFrom (prog : Program K n m p) (visible : Bool) (fraction tolerance : K)
    (remaining : Nat) (r : Record K n m p) (printed : List String)
    : (prog.solveFrom visible fraction tolerance remaining r).run printed
      = (InteriorPoint.answer (prog.runFrom fraction tolerance remaining r),
          printed ++ (prog.runFrom fraction tolerance remaining r).rows visible) := by
  induction remaining generalizing r printed with
  | zero =>
      unfold solveFrom runFrom
      rw [run_printLine]
      split <;> rfl
  | succ remaining ih =>
      unfold solveFrom runFrom
      rw [run_printLine]
      split
      · rfl
      cases prog.move fraction r with
      | stalled => rfl
      | singular => rfl
      | advance next length =>
          simp only [ih]
          refine Prod.ext rfl ?_
          cases visible with
          | false => simp [Run.rows]
          | true => simp [Run.rows, Run.records]

-----------------------------------------------------------------------------------------
-- Solves with output
-----------------------------------------------------------------------------------------

namespace InteriorPoint

variable {settings : Settings K} {options : Options K} {inst : Instance K} {error : Error}

/-- A solve is refused before its run begins: at an invalid instance, at an unusable tolerance or
without a starting point.
-/
inductive Refused (settings : Settings K) (options : Options K) (inst : Instance K) : Error → Prop
  | invalid {fault : Instance.Fault} (unfit : inst.check = .error fault)
    : Refused settings options inst fault.toError
  | tolerance (passed : inst.check = .ok ())
      (unusable : ¬Scalar.isPositive (settings.withOptions options).tolerance = true)
    : Refused settings options inst
        (Fault.badTolerance (settings.withOptions options).tolerance).toError
  | start {fault : Fault K} (passed : inst.check = .ok ())
      (usable : Scalar.isPositive (settings.withOptions options).tolerance = true)
      (unstarted
        : (inst.toProgram (Instance.wellShaped_of_check passed)).start settings.infeasibleStart
          = .error fault)
    : Refused settings options inst fault.toError

/-- A solve that is not refused begins a run, by following the checks. -/
theorem refused_or_started (settings : Settings K) (options : Options K) (inst : Instance K)
    : (∃ error, Refused settings options inst error)
      ∨ ∃ run, start? settings options inst = .ok run := by
  cases checked : inst.check with
  | error fault => exact .inl ⟨_, .invalid checked⟩
  | ok passed =>
      by_cases usable : Scalar.isPositive (settings.withOptions options).tolerance = true
      case neg => exact .inl ⟨_, .tolerance checked usable⟩
      cases begun : (inst.toProgram (Instance.wellShaped_of_check checked)).start
          settings.infeasibleStart with
      | error fault => exact .inl ⟨_, .start checked usable begun⟩
      | ok it => exact .inr ⟨_, start?_eq_ok_iff.mpr ⟨checked, it, usable, begun, rfl⟩⟩

theorem start?_of_refused (refused : Refused settings options inst error)
    : start? settings options inst = .error error := by
  cases refused with
  | invalid unfit =>
      unfold start?
      split
      case h_1 fault unfit' =>
        cases unfit.symm.trans unfit'
        rfl
      case h_2 passed => cases unfit.symm.trans passed
  | tolerance passed unusable =>
      rw [start?_of_check passed, run?, if_neg unusable]
      rfl
  | start passed usable unstarted =>
      have unstarted' : (inst.toProgram (Instance.wellShaped_of_check passed)).start
          (settings.withOptions options).infeasibleStart = _ := unstarted
      rw [start?_of_check passed, run?, if_pos usable, unstarted']
      rfl

theorem solveAloud_of_check (passed : inst.check = .ok ())
    : solveAloud settings options inst
      = Except.mapError Fault.toError
        <$> solveOn (settings.withOptions options) options.showProgress
          (inst.toProgram (Instance.wellShaped_of_check passed)) := by
  unfold solveAloud
  split
  case h_1 fault refused => cases passed.symm.trans refused
  case h_2 => rfl

/-- A refused solve prints nothing, aloud or not. -/
theorem run_solveAloud_of_refused (refused : Refused settings options inst error)
    (printed : List String)
    : (solveAloud settings options inst).run printed = (.error error, printed) := by
  cases refused with
  | invalid unfit =>
      unfold solveAloud
      split
      case h_1 fault unfit' =>
        cases unfit.symm.trans unfit'
        rfl
      case h_2 passed => cases unfit.symm.trans passed
  | tolerance passed unusable =>
      rw [solveAloud_of_check passed, solveOn, if_neg unusable]
      rfl
  | start passed usable unstarted =>
      have unstarted' : (inst.toProgram (Instance.wellShaped_of_check passed)).start
          (settings.withOptions options).infeasibleStart = _ := unstarted
      rw [solveAloud_of_check passed, solveOn, if_pos usable, unstarted']
      rfl

/-- A run that begins on a program is answered and prints its table. -/
theorem run_solveOn {prog : Program K n m p} {it : Iterate K n m p}
    (usable : Scalar.isPositive settings.tolerance = true)
    (begun : prog.start settings.infeasibleStart = .ok it) (visible : Bool)
    (printed : List String)
    : (solveOn settings visible prog).run printed
      = (answer (prog.run settings.stepFraction settings.tolerance settings.maxIterations it),
          printed
            ++ if visible then
                (prog.run settings.stepFraction settings.tolerance settings.maxIterations it).table
              else []) := by
  rw [solveOn, if_pos usable, begun]
  simp only [run_printLine, Program.run_solveFrom]
  refine Prod.ext rfl ?_
  cases visible with
  | false => simp [Run.rows]
  | true => simp [Run.rows, Run.table, Program.run]

/-- Printing along the way gives the answer and the lines that are read off the run afterwards. -/
theorem run_solveAloud (settings : Settings K) (options : Options K) (inst : Instance K)
    (printed : List String)
    : (solveAloud settings options inst).run printed
      = (solve settings options inst, printed ++ progress settings options inst) := by
  obtain ⟨error, refused⟩ | ⟨run, started⟩ := refused_or_started settings options inst
  · rw [run_solveAloud_of_refused refused, solve, progress, start?_of_refused refused, ite_self,
      List.append_nil]
  · rw [solve, progress, started]
    obtain ⟨passed, it, usable, begun, rfl⟩ := start?_eq_ok_iff.mp started
    rw [solveAloud_of_check passed, StateT.run_map, run_solveOn usable begun]
    rfl

-----------------------------------------------------------------------------------------
-- The table
-----------------------------------------------------------------------------------------

/-- A cell stands at the right end of a column: after blanks that fill the column, or alone where it
takes up all of the column or more.
-/
structure Fills (width : Nat) (cell text : String) : Prop where
  padded : ∃ blanks, text = String.ofList (List.replicate blanks ' ') ++ cell
  length : text.length = max width cell.length

/-- A line shows a visited point under its number, in six columns with a blank between any two. -/
def ShowsPoint (number : Nat) (r : Record K n m p) (text : String) : Prop :=
  ∃ iter pobj pres dres gap step,
    Fills 4 (toString number) iter
      ∧ Fills 14 (NumberText.scientific 6 r.objective) pobj
      ∧ Fills 10 (NumberText.scientific 2 r.residuals.primalNorm) pres
      ∧ Fills 10 (NumberText.scientific 2 r.residuals.dualNorm) dres
      ∧ Fills 10 (NumberText.scientific 2 r.gap) gap
      ∧ Fills 8 (NumberText.fixed 4 r.step) step
      ∧ text = iter ++ " " ++ pobj ++ " " ++ pres ++ " " ++ dres ++ " " ++ gap ++ " " ++ step

theorem fills_alignRight (width : Nat) (cell : String)
    : Fills width cell (alignRight width cell) := by
  refine ⟨⟨_, rfl⟩, ?_⟩
  rw [alignRight, String.length_append, String.length_ofList, List.length_replicate]
  omega

/-- The row of a point shows it under its number. -/
theorem showsPoint_row (r : Record K n m p) : ShowsPoint r.index r (Run.row r) := by
  refine ⟨_, _, _, _, _, _, fills_alignRight _ _, fills_alignRight _ _, fills_alignRight _ _,
    fills_alignRight _ _, fills_alignRight _ _, fills_alignRight _ _, ?_⟩
  simp [Run.row, Run.line, Run.columns, String.append_assoc]

/-- The lines under the header show one visited point each, in order, under its number. -/
structure Displays (lines : List String) (run : Run K n m p) : Prop where
  length_eq : lines.length = run.records.length + 1
  header : lines[0]? = some "iter           pobj       pres       dres        gap     step"
  rows
    : ∀ (k : Nat) r,
        run.records[k]? = some r → ∃ text, lines[k + 1]? = some text ∧ ShowsPoint k r text

theorem displays_table {run : Run K n m p}
    (counted : ∀ (k : Nat) r, run.records[k]? = some r → r.index = k)
    : Displays run.table run where
  length_eq := by rw [Run.table, List.length_cons, List.length_map]
  header := by
    have titles : Run.header = "iter           pobj       pres       dres        gap     step" := by
      decide +kernel
    rw [Run.table, List.getElem?_cons_zero, titles]
  rows k r visited := by
    refine ⟨Run.row r, ?_, counted k r visited ▸ showsPoint_row r⟩
    rw [Run.table, List.getElem?_cons_succ, List.getElem?_map, visited]
    rfl

/-- A point is reached from the one before by its step: the move there takes that step, along a
Newton direction.
-/
structure StepsTo (prog : Program K n m p) (fraction : K) (r next : Record K n m p)
    : Prop where
  moved : prog.move fraction r = .advance next.iterate next.step
  along
    : ∃ target dir,
        prog.direction? r.iterate r.residuals target = some dir
          ∧ next.iterate = r.iterate.advance dir next.step

omit [NumberText K] in
/-- A move that advances follows a Newton direction by the length that it gives, by cases on how
that was found.
-/
theorem stepsTo_of_move {prog : Program K n m p} {fraction : K} {r next : Record K n m p}
    (moved : prog.move fraction r = .advance next.iterate next.step)
    : StepsTo prog fraction r next := by
  refine ⟨moved, ?_⟩
  have searches := prog.move_searches fraction r
  rw [moved] at searches
  generalize next.iterate = reached, next.step = length at searches
  cases searches with
  | full free found => exact ⟨_, _, found, rfl⟩
  | corrected bounded found improving notShort =>
      obtain ⟨target, newton⟩ :=
        (Program.Tries.corrected found : prog.Tries fraction r _ _).isNewton
      exact ⟨target, _, newton, rfl⟩
  | damped bounded found searched =>
      obtain ⟨target, newton⟩ := (Program.Tries.damped found 0).isNewton
      exact ⟨target, _, newton, rfl⟩

/-- What the table of a run says: the numbers of each point are computed from it, the steps are
those that led to the points, and the last point is the one that the answer or the failure is about.
-/
structure Tabulates (settings : Settings K) (options : Options K) (inst : Instance K)
    (run : Run K inst.numVars inst.numInequalities inst.numEqualities)
    : Prop where
  computed
    : ∃ shaped : inst.WellShaped,
        ∀ (k : Nat) r,
          run.records[k]? = some r → r = (inst.toProgram shaped).record k r.step r.iterate
  first : ∀ r, run.records[0]? = some r → r.step = 0
  later
    : ∀ (shaped : inst.WellShaped) (k : Nat) r next,
        run.records[k]? = some r → run.records[k + 1]? = some next →
          StepsTo (inst.toProgram shaped) settings.stepFraction r next
  answered
    : ∀ solution,
        solve settings options inst = .ok solution →
          run.records.length = solution.iterations + 1
            ∧ ∃ r,
                run.records[solution.iterations]? = some r
                  ∧ r.objective = solution.objective
                  ∧ r.iterate.x.toList = solution.x
  failed
    : ∀ error,
        solve settings options inst = .error error →
          ∃ k : Nat,
            run.records.length = k + 1
              ∧ error = .solverFailure name ("singular KKT system at iteration " ++ toString k)

theorem tabulates_of_start? {run : Run K inst.numVars inst.numInequalities inst.numEqualities}
    (started : start? settings options inst = .ok run)
    : Tabulates settings options inst run := by
  obtain ⟨shaped, it, -, traces⟩ := start?_eq_ok started
  obtain ⟨counted, visited⟩ := last_of_start? started
  refine ⟨⟨shaped, fun k r visited => ?_⟩, fun r visited => ?_,
    fun shaped k r next visited follower => ?_, fun solution solved => ?_, fun error failed => ?_⟩
  · have recorded := traces.recorded (List.mem_of_getElem? visited)
    rwa [traces.index_eq visited] at recorded
  · rw [← List.head?_eq_getElem?, Run.head?_records, traces.starts] at visited
    cases visited
    rfl
  · obtain ⟨r', visited', follows⟩ := traces.exists_follows follower
    cases visited.symm.trans visited'
    exact stepsTo_of_move follows.moved
  · obtain ⟨run', started', reports⟩ := solve_eq_ok solved
    cases started.symm.trans started'
    rw [reports.iterations]
    exact ⟨counted, run.last, visited, reports.objective.symm, reports.point.symm⟩
  · obtain ⟨solution, solved, -⟩ | ⟨-, failed'⟩ := solve_of_start? started
    · cases failed.symm.trans solved
    · exact ⟨run.last.index, counted, Except.error.inj (failed.symm.trans failed')⟩

/-- Output has no part in the answer of a solve, and shows nothing but the run. -/
structure Mirrors (settings : Settings K) (options : Options K) (inst : Instance K) : Prop where
  aloud
    : ∀ printed,
        (solveAloud settings options inst).run printed
          = (solve settings options inst, printed ++ progress settings options inst)
  unaffected
    : ∀ showProgress printed,
        ((solveAloud settings { options with showProgress } inst).run printed).1
          = solve settings options inst
  hidden : options.showProgress = false → progress settings options inst = []
  refused
    : ∀ error,
        Refused settings options inst error →
          solve settings options inst = .error error ∧ progress settings options inst = []
  shown
    : options.showProgress = true → (∀ error, ¬Refused settings options inst error) →
        ∃ run,
          start? settings options inst = .ok run
            ∧ Displays (progress settings options inst) run
            ∧ Tabulates settings options inst run

theorem progress_mirrors (settings : Settings K) (options : Options K) (inst : Instance K)
    : Mirrors settings options inst := by
  refine ⟨run_solveAloud settings options inst, fun showProgress printed => ?_, fun hidden => ?_,
    fun error refused => ?_, fun visible unrefused => ?_⟩
  · rw [run_solveAloud]
    rfl
  · rw [progress, hidden]
    rfl
  · have refusal := start?_of_refused refused
    refine ⟨by rw [solve, refusal], ?_⟩
    rw [progress, refusal]
    exact ite_self []
  · obtain ⟨error, refused⟩ | ⟨run, started⟩ := refused_or_started settings options inst
    · exact absurd refused (unrefused error)
    have shown : progress settings options inst = run.table := by
      rw [progress, if_pos visible, started]
    obtain ⟨shaped, it, -, traces⟩ := start?_eq_ok started
    refine ⟨run, started, ?_, tabulates_of_start? started⟩
    rw [shown]
    exact displays_table fun k r visited => traces.index_eq visited

/-- On the parabola a solve prints a header and three rows; the second follows a step that stops
before the boundary.
-/
theorem parabola_displayed
    : ∃ run,
        start? .standard ⟨true, some 0.01, none⟩ floatParabola = .ok run
          ∧ Displays (progress .standard ⟨true, some 0.01, none⟩ floatParabola) run
          ∧ Tabulates .standard ⟨true, some 0.01, none⟩ floatParabola run
          ∧ progress .standard ⟨true, some 0.01, none⟩ floatParabola
            = [
              "iter           pobj       pres       dres        gap     step",
              "   0    -1.875000e0     1.50e0     0.00e0    5.00e-1   0.0000",
              "   1    -1.708939e0    2.47e-1     0.00e0    7.63e-3   0.8353",
              "   2    -1.499111e0     0.00e0   6.66e-16    8.89e-4   1.0000"
            ] := by
  obtain ⟨run, started, -⟩
      : ∃ run,
          start? .standard ⟨true, some 0.01, none⟩ floatParabola = .ok run
            ∧ run.records.length = 3 :=
    ok_of_computed (by decide +kernel)
  have unrefused : ∀ error, ¬Refused .standard ⟨true, some 0.01, none⟩ floatParabola error := by
    intro error refused
    cases started.symm.trans (start?_of_refused refused)
  obtain ⟨run', started', displayed, tabulated⟩ :=
    (progress_mirrors .standard ⟨true, some 0.01, none⟩ floatParabola).shown rfl unrefused
  refine ⟨run', started', displayed, tabulated, ?_⟩
  decide +kernel

end InteriorPoint

end QuadraticTrials

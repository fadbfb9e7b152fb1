import Mathlib
import QuadraticTrials.InteriorPoint.Solver

/-!
Runs as chains of visited points: each point follows from the one before it by the move made
there, and the last one shows why the run ended. A solve reports the last point of its run.
-/

namespace QuadraticTrials

variable {K : Type} [Scalar K] {n m p : Nat}

-----------------------------------------------------------------------------------------
-- Chains of visited points
-----------------------------------------------------------------------------------------

namespace Run

/-- The point at which a run starts. -/
def first (run : Run K n m p) : Record K n m p :=
  run.earlier.headD run.last

/-- The lengths of the steps of a run, in order. -/
def steps (run : Run K n m p) : List K :=
  run.records.tail.map Record.step

omit [Scalar K] in
theorem head?_records (run : Run K n m p) : run.records.head? = some run.first := by
  cases run with
  | mk earlier last ending => cases earlier <;> rfl

omit [Scalar K] in
theorem last_mem_records (run : Run K n m p) : run.last ∈ run.records :=
  List.mem_append_right _ (List.mem_singleton_self _)

omit [Scalar K] in
theorem getElem?_last (run : Run K n m p) : run.records[run.earlier.length]? = some run.last := by
  simp [records]

end Run

namespace Program

/-- One visited point follows another: the first does not pass the stopping test, its move leads
to the second, and what is known about the second is computed from it.
-/
structure Follows (prog : Program K n m p) (fraction tolerance : K) (r next : Record K n m p)
    : Prop where
  continued : prog.accepts tolerance r = false
  moved : prog.move fraction r = .advance next.iterate next.step
  recorded : next = prog.record (r.index + 1) next.step next.iterate

/-- The reasons for which a run may end at a visited point. -/
inductive Ends (prog : Program K n m p) (fraction tolerance : K) (cap : Nat)
    (r : Record K n m p)
    : Ending → Prop
  | converged (accepted : prog.accepts tolerance r = true)
    : Ends prog fraction tolerance cap r .converged
  | exhausted (continued : prog.accepts tolerance r = false) (capped : r.index = cap)
    : Ends prog fraction tolerance cap r .exhausted
  | stalled (continued : prog.accepts tolerance r = false) (within : r.index < cap)
      (moved : prog.move fraction r = .stalled)
    : Ends prog fraction tolerance cap r .stalled
  | singular (continued : prog.accepts tolerance r = false) (within : r.index < cap)
      (moved : prog.move fraction r = .singular)
    : Ends prog fraction tolerance cap r .singular

/-- A run visits a chain of points from a given one and ends for a reason. -/
structure Traces (prog : Program K n m p) (fraction tolerance : K) (cap : Nat)
    (start : Record K n m p) (run : Run K n m p)
    : Prop where
  starts : run.first = start
  linked : run.records.IsChain (prog.Follows fraction tolerance)
  ends : prog.Ends fraction tolerance cap run.last run.ending

variable {prog : Program K n m p} {fraction tolerance : K} {cap : Nat}
  {start : Record K n m p} {run : Run K n m p}

/-- A run that stalls at a point ends there as stalled, unless an earlier test ends it. -/
theorem Ends.eq_stalled {r : Record K n m p} {ending : Ending}
    (ends : prog.Ends fraction tolerance cap r ending)
    (continued : prog.accepts tolerance r = false) (within : r.index < cap)
    (stalled : prog.move fraction r = .stalled)
    : ending = .stalled := by
  cases ends with
  | converged accepted =>
      rw [continued] at accepted
      cases accepted
  | exhausted _ capped => exact absurd capped within.ne
  | stalled => rfl
  | singular _ _ moved =>
      rw [stalled] at moved
      cases moved

/-- A run that ends as converged has passed the stopping test. -/
theorem Ends.accepted {r : Record K n m p} (ends : prog.Ends fraction tolerance cap r .converged)
    : prog.accepts tolerance r = true := by
  cases ends with
  | converged accepted => exact accepted

/-- A run that ends as stalled has a move that stalls. -/
theorem Ends.moved {r : Record K n m p} (ends : prog.Ends fraction tolerance cap r .stalled)
    : prog.move fraction r = .stalled := by
  cases ends with
  | stalled continued within moved => exact moved

/-- A run from a point that passes the stopping test is over at once, whatever its cap is. -/
theorem runFrom_of_accepts {remaining : Nat} {r : Record K n m p}
    (accepted : prog.accepts tolerance r = true)
    : prog.runFrom fraction tolerance remaining r = ⟨[], r, .converged⟩ := by
  unfold runFrom
  exact if_pos accepted

/-- Running from a visited point traces a chain, by induction on the steps still allowed. -/
theorem runFrom_traces {remaining : Nat} (budget : start.index + remaining = cap)
    : prog.Traces fraction tolerance cap start
        (prog.runFrom fraction tolerance remaining start) := by
  induction remaining generalizing start with
  | zero =>
      unfold runFrom
      split
      · rename_i accepted
        exact ⟨rfl, .singleton _, .converged accepted⟩
      · rename_i continued
        exact ⟨rfl, .singleton _, .exhausted (Bool.eq_false_iff.mpr continued) budget⟩
  | succ remaining ih =>
      have within : start.index < cap := by omega
      unfold runFrom
      split
      · rename_i accepted
        exact ⟨rfl, .singleton _, .converged accepted⟩
      rename_i continued
      have continued := Bool.eq_false_iff.mpr continued
      simp only
      split
      · rename_i moved
        exact ⟨rfl, .singleton _, .stalled continued within moved⟩
      · rename_i moved
        exact ⟨rfl, .singleton _, .singular continued within moved⟩
      · rename_i next length moved
        -- The rest of the run traces a chain from the next point, which follows this one.
        let visited := prog.record (start.index + 1) length next
        have rest : prog.Traces fraction tolerance cap visited
            (prog.runFrom fraction tolerance remaining visited) :=
          ih (show start.index + 1 + remaining = cap by omega)
        refine ⟨rfl, ?_, rest.ends⟩
        refine rest.linked.cons fun follower found => ?_
        rw [Run.head?_records, rest.starts] at found
        cases found
        exact ⟨continued, moved, rfl⟩

/-- A whole run traces a chain from its starting point. -/
theorem run_traces (prog : Program K n m p) (fraction tolerance : K) (cap : Nat)
    (it : Iterate K n m p)
    : prog.Traces fraction tolerance cap (prog.record 0 0 it)
        (prog.run fraction tolerance cap it) :=
  runFrom_traces (Nat.zero_add cap)

namespace Traces

/-- Every point after the first follows the one before it. -/
theorem exists_follows (traces : prog.Traces fraction tolerance cap start run) {k : Nat}
    {next : Record K n m p} (visited : run.records[k + 1]? = some next)
    : ∃ r, run.records[k]? = some r ∧ prog.Follows fraction tolerance r next := by
  obtain ⟨inside, rfl⟩ := List.getElem?_eq_some_iff.mp visited
  have earlier : k < run.records.length := by omega
  exact ⟨run.records[k], List.getElem?_eq_getElem earlier,
    List.isChain_iff_getElem.mp traces.linked k inside⟩

/-- What holds at the start and is handed on from each point to the next holds at every place of
a run, by induction on the place.
-/
theorem forall_getElem? {motive : Nat → Record K n m p → Prop}
    (traces : prog.Traces fraction tolerance cap start run) (base : motive 0 start)
    (step
      : ∀ k r next, run.records[k]? = some r → run.records[k + 1]? = some next →
        prog.Follows fraction tolerance r next → motive k r → motive (k + 1) next)
    {k : Nat} {r : Record K n m p} (visited : run.records[k]? = some r)
    : motive k r := by
  induction k generalizing r with
  | zero =>
      rw [← List.head?_eq_getElem?, Run.head?_records, traces.starts] at visited
      cases visited
      exact base
  | succ k ih =>
      obtain ⟨before, found, follows⟩ := traces.exists_follows visited
      exact step k before r found visited follows (ih found)

/-- What holds at the start and is handed on from each point to the next holds at all visited
points.
-/
theorem forall_mem {motive : Record K n m p → Prop}
    (traces : prog.Traces fraction tolerance cap start run) (base : motive start)
    (step : ∀ r next, prog.Follows fraction tolerance r next → motive r → motive next)
    {r : Record K n m p} (visited : r ∈ run.records)
    : motive r := by
  obtain ⟨k, found⟩ := List.mem_iff_getElem?.mp visited
  exact traces.forall_getElem? base
    (fun _ r next _ _ follows holds => step r next follows holds) found

/-- A visited point carries what is computed from its iterate. -/
theorem recorded {it : Iterate K n m p}
    (traces : prog.Traces fraction tolerance cap (prog.record 0 0 it) run) {r : Record K n m p}
    (visited : r ∈ run.records)
    : r = prog.record r.index r.step r.iterate :=
  traces.forall_mem (motive := fun r => r = prog.record r.index r.step r.iterate) rfl
    (fun _ next follows _ => by
      rw [follows.recorded]
      rfl) visited

/-- The index of a visited point is its place in the run. -/
theorem index_eq {it : Iterate K n m p}
    (traces : prog.Traces fraction tolerance cap (prog.record 0 0 it) run) {k : Nat}
    {r : Record K n m p} (visited : run.records[k]? = some r)
    : r.index = k :=
  traces.forall_getElem? (motive := fun k r => r.index = k) rfl
    (fun k r next _ _ follows same => by
      rw [follows.recorded, ← same]
      rfl) visited

/-- A visited point at which the run could go no further is its last one. -/
theorem eq_last (traces : prog.Traces fraction tolerance cap start run) {r : Record K n m p}
    (visited : r ∈ run.records)
    (final : ∀ next length, prog.move fraction r ≠ .advance next length)
    : r = run.last := by
  rcases List.mem_append.mp visited with earlier | last
  · -- An earlier point has a follower, which its move has reached.
    obtain ⟨before, after, found⟩ := List.append_of_mem earlier
    have linked := traces.linked
    rw [Run.records, found, List.append_assoc] at linked
    have linked := linked.right_of_append
    cases after with
    | nil => exact absurd linked.rel.moved (final _ _)
    | cons next rest => exact absurd linked.rel.moved (final _ _)
  · exact List.mem_singleton.mp last

end Traces

end Program

-----------------------------------------------------------------------------------------
-- Answers
-----------------------------------------------------------------------------------------

/-- The status that stands for the ending of a run; a singular system has none. -/
def Ending.status? : Ending → Option Status
  | .converged => some .optimal
  | .exhausted => some .maxIterations
  | .stalled => some .numericalError
  | .singular => none

/-- Only converged runs report optimal points. -/
theorem Ending.eq_converged {ending : Ending} (status : ending.status? = some .optimal)
    : ending = .converged := by
  cases ending <;> first | rfl | cases status

/-- Only stalled runs report numerical errors. -/
theorem Ending.eq_stalled {ending : Ending} (status : ending.status? = some .numericalError)
    : ending = .stalled := by
  cases ending <;> first | rfl | cases status

/-- A solution is the last point of a run. -/
structure Run.Reports (run : Run K n m p) (solution : Solution K) : Prop where
  point : solution.x = run.last.iterate.x.toList
  status : run.ending.status? = some solution.status
  objective : solution.objective = run.last.objective
  iterations : solution.iterations = run.last.index

namespace InteriorPoint

/-- A value computed from a result is the value at a success. -/
theorem ok_of_computed {ε α β : Type} {result : Except ε α} {read : α → β} {value : β}
    (computed : result.toOption.map read = some value)
    : ∃ success, result = .ok success ∧ read success = value := by
  cases result with
  | error error => cases computed
  | ok success => exact ⟨success, rfl, Option.some.inj computed⟩

variable [NumberText K] {settings : Settings K} {options : Options K} {inst : Instance K}

omit [Scalar K] [NumberText K] in
/-- An answer is a solution exactly when the solution is the last point of the run, by cases on
the ending.
-/
theorem answer_eq_ok {run : Run K n m p} {solution : Solution K}
    : answer run = .ok solution ↔ run.Reports solution := by
  obtain ⟨earlier, last, ending⟩ := run
  obtain ⟨x, status, value, iterations⟩ := solution
  constructor
  · intro answered
    cases ending <;> cases answered <;> exact ⟨rfl, rfl, rfl, rfl⟩
  · rintro ⟨point, reported, objective, iterated⟩
    simp only at point reported objective iterated
    subst point objective iterated
    cases ending <;> cases reported <;> rfl

/-- A run of the solver is made on the sized form of an instance that passes the check, from one
of the two starting points.
-/
theorem start?_eq_ok {run : Run K inst.numVars inst.numInequalities inst.numEqualities}
    (started : start? settings options inst = .ok run)
    : ∃ (shaped : inst.WellShaped)
        (it : Iterate K inst.numVars inst.numInequalities inst.numEqualities),
      (inst.toProgram shaped).start settings.infeasibleStart = .ok it
        ∧ (inst.toProgram shaped).Traces settings.stepFraction
            (settings.withOptions options).tolerance (settings.withOptions options).maxIterations
            ((inst.toProgram shaped).record 0 0 it) run := by
  unfold start? at started
  split at started
  · cases started
  rename_i passed
  refine ⟨Instance.wellShaped_of_check passed, ?_⟩
  unfold run? at started
  split at started
  · split at started
    · cases started
    rename_i it begun
    cases started
    exact ⟨it, begun, Program.run_traces _ _ _ _ _⟩
  · cases started

/-- A solve with a solution has a run whose last point it reports. -/
theorem solve_eq_ok {solution : Solution K} (solved : solve settings options inst = .ok solution)
    : ∃ run, start? settings options inst = .ok run ∧ run.Reports solution := by
  unfold solve at solved
  split at solved
  · cases solved
  rename_i run started
  refine ⟨run, started, ?_⟩
  cases answered : answer run with
  | error fault =>
      rw [answered] at solved
      cases solved
  | ok reported =>
      rw [answered] at solved
      cases solved
      exact answer_eq_ok.mp answered

/-- A solve reports the last point of its run whenever that point can be reported. -/
theorem solve_of_reports {run : Run K inst.numVars inst.numInequalities inst.numEqualities}
    (started : start? settings options inst = .ok run) {solution : Solution K}
    (reports : run.Reports solution)
    : solve settings options inst = .ok solution := by
  unfold solve
  rw [started]
  simp only
  rw [answer_eq_ok.mpr reports]
  rfl

end InteriorPoint

end QuadraticTrials

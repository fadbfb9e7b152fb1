import Mathlib
import QuadraticTrials.Proofs.Exact.Instance
import QuadraticTrials.Proofs.InteriorPoint.Trajectory

/-!
Runs as cuts of one trajectory. Iteration cap and tolerance have no part in the points that follow a
start; they only say where a run along them ends.
-/

namespace QuadraticTrials

variable {K : Type} [Scalar K] {n m p : Nat}

-----------------------------------------------------------------------------------------
-- The trajectory of a start
-----------------------------------------------------------------------------------------

namespace Program

/-- The point that follows a visited one, if its move leads anywhere. -/
def follower? (prog : Program K n m p) (fraction : K) (r : Record K n m p)
    : Option (Record K n m p) :=
  match prog.move fraction r with
  | .advance next length => some (prog.record (r.index + 1) length next)
  | .stalled | .singular => none

/-- The points that follow a start, for as long as moves lead on. No stopping test is made. -/
def trajectory (prog : Program K n m p) (fraction : K) (it : Iterate K n m p)
    : Nat → Option (Record K n m p)
  | 0 => some (prog.record 0 0 it)
  | k + 1 => (prog.trajectory fraction it k).bind (prog.follower? fraction)

variable {prog : Program K n m p} {fraction tolerance : K} {cap : Nat} {it : Iterate K n m p}
  {run : Run K n m p}

theorem Follows.follower?_eq {r next : Record K n m p}
    (follows : prog.Follows fraction tolerance r next)
    : prog.follower? fraction r = some next := by
  rw [follower?, follows.moved, follows.recorded]
  rfl

/-- A run visits the points of the trajectory one after the other, by induction on the place. -/
theorem Traces.trajectory_eq
    (traces : prog.Traces fraction tolerance cap (prog.record 0 0 it) run) {k : Nat}
    {r : Record K n m p} (visited : run.records[k]? = some r)
    : prog.trajectory fraction it k = some r := by
  refine traces.forall_getElem? (motive := fun k r => prog.trajectory fraction it k = some r) rfl
    (fun k r next _ _ follows reached => ?_) visited
  rw [trajectory, reached, Option.bind_some, follows.follower?_eq]

/-- A run visits a point at every place up to its last one. -/
theorem Traces.exists_visited
    (traces : prog.Traces fraction tolerance cap (prog.record 0 0 it) run) {k : Nat}
    (reached : k ≤ run.last.index)
    : ∃ r, run.records[k]? = some r ∧ prog.trajectory fraction it k = some r := by
  rw [traces.index_eq (Run.getElem?_last run)] at reached
  have inside : k < run.records.length := by
    rw [Run.records, List.length_append, List.length_singleton]
    omega
  have visited := List.getElem?_eq_getElem inside
  exact ⟨_, visited, traces.trajectory_eq visited⟩

end Program

-----------------------------------------------------------------------------------------
-- Caps
-----------------------------------------------------------------------------------------

/-- A run goes on where another was cut off by its cap, and is the same run if that one was not. -/
structure Run.Extends (long short : Run K n m p) : Prop where
  visits : short.records <+: long.records
  same : short.ending ≠ .exhausted → long = short

namespace Program

variable {prog : Program K n m p} {fraction tolerance : K}

theorem singleton_visited_runFrom (remaining : Nat) (r : Record K n m p)
    : [r] <+: (prog.runFrom fraction tolerance remaining r).records := by
  have traces
      : prog.Traces fraction tolerance (r.index + remaining) r
          (prog.runFrom fraction tolerance remaining r) :=
    runFrom_traces rfl
  obtain ⟨rest, found⟩ :=
    List.head?_eq_some_iff.mp ((Run.head?_records _).trans (congrArg some traces.starts))
  exact ⟨rest, found.symm⟩

/-- With more steps allowed a run extends itself, by induction on the steps of the shorter run. -/
theorem runFrom_extends {remaining more : Nat} (le : remaining ≤ more) (r : Record K n m p)
    : (prog.runFrom fraction tolerance more r).Extends
        (prog.runFrom fraction tolerance remaining r) := by
  induction remaining generalizing more r with
  | zero =>
      by_cases accepted : prog.accepts tolerance r = true
      · rw [runFrom_of_accepts accepted, runFrom_of_accepts accepted]
        exact ⟨List.prefix_rfl, fun _ => rfl⟩
      · -- The shorter run is cut off at once, at the point where the longer one starts.
        have cut : prog.runFrom fraction tolerance 0 r = ⟨[], r, .exhausted⟩ := by
          rw [runFrom, if_neg accepted]
        rw [cut]
        exact ⟨singleton_visited_runFrom more r, fun kept => absurd rfl kept⟩
  | succ remaining ih =>
      obtain ⟨more, rfl⟩ : ∃ fewer, more = fewer + 1 := ⟨more - 1, by omega⟩
      unfold runFrom
      split
      · exact ⟨List.prefix_rfl, fun _ => rfl⟩
      simp only
      split
      · exact ⟨List.prefix_rfl, fun _ => rfl⟩
      · exact ⟨List.prefix_rfl, fun _ => rfl⟩
      · rename_i next length moved
        have rest := ih (Nat.le_of_succ_le_succ le) (prog.record (r.index + 1) length next)
        refine ⟨(List.prefix_cons_inj r).mpr rest.visits, fun kept => ?_⟩
        rw [rest.same kept]

end Program

-----------------------------------------------------------------------------------------
-- Tolerances
-----------------------------------------------------------------------------------------

namespace Program

/-- Where a run converges, a run with a looser stopping test has converged there or before, by
induction on the steps allowed.
-/
theorem runFrom_converges {prog : Program K n m p} {fraction tight loose : K}
    (looser : ∀ r, prog.accepts tight r = true → prog.accepts loose r = true) {remaining : Nat}
    {r : Record K n m p}
    (converged : (prog.runFrom fraction tight remaining r).ending = .converged)
    : (prog.runFrom fraction loose remaining r).ending = .converged
        ∧ (prog.runFrom fraction loose remaining r).records
          <+: (prog.runFrom fraction tight remaining r).records := by
  induction remaining generalizing r with
  | zero =>
      unfold runFrom at converged ⊢
      split at converged
      case isTrue accepted =>
        rw [if_pos accepted, if_pos (looser r accepted)]
        exact ⟨rfl, List.prefix_rfl⟩
      case isFalse => cases converged
  | succ remaining ih =>
      by_cases stops : prog.accepts loose r = true
      · -- The looser run stops here, where the other one starts.
        rw [runFrom_of_accepts stops]
        exact ⟨rfl, singleton_visited_runFrom _ r⟩
      · have continued : ¬prog.accepts tight r = true := fun accepted => stops (looser r accepted)
        unfold runFrom at converged ⊢
        rw [if_neg continued] at converged ⊢
        rw [if_neg stops]
        simp only at converged ⊢
        split at converged
        · cases converged
        · cases converged
        · obtain ⟨ends, visits⟩ := ih converged
          exact ⟨ends, (List.prefix_cons_inj r).mpr visits⟩

/-- A point that passes the stopping test passes it at every larger tolerance, since residuals and
gap are measured against positive sizes.
-/
theorem accepts_of_le {F : Type} [Field F] [LinearOrder F] [IsStrictOrderedRing F]
    {prog : Program F n m p} {tight loose : F} (le : tight ≤ loose) (r : Record F n m p)
    (accepted : prog.accepts tight r = true)
    : prog.accepts loose r = true := by
  have larger (size : F) (nonneg : 0 ≤ size) : tight * (1 + size) ≤ loose * (1 + size) :=
    mul_le_mul_of_nonneg_right le (add_nonneg zero_le_one nonneg)
  simp only [accepts, converged, primalScale, dualScale, Bool.and_eq_true, decide_eq_true_eq,
    Scalar.max_eq_max, Scalar.abs_eq_abs, Vec.maxAbs_eq_maxNorm] at accepted ⊢
  obtain ⟨⟨primal, dual⟩, gap⟩ := accepted
  refine ⟨⟨primal.trans (larger _ ?_), dual.trans (larger _ ?_)⟩, gap.trans (larger _ ?_)⟩
  · exact le_max_of_le_left (maxNorm_nonneg _)
  · exact le_max_of_le_left (maxNorm_nonneg _)
  · exact abs_nonneg _

end Program

-----------------------------------------------------------------------------------------
-- Solves
-----------------------------------------------------------------------------------------

namespace InteriorPoint

/-- The points that follow the start on an instance. Neither a cap nor a tolerance is given. -/
def trajectory (infeasibleStart : Bool) (stepFraction : K) (inst : Instance K) (k : Nat)
    : Option (Record K inst.numVars inst.numInequalities inst.numEqualities) :=
  match passed : inst.check with
  | .error _ => none
  | .ok () =>
      let prog := inst.toProgram (Instance.wellShaped_of_check passed)
      match prog.start infeasibleStart with
      | .error _ => none
      | .ok it => prog.trajectory stepFraction it k

variable [NumberText K] {settings : Settings K} {options options' : Options K}
  {inst : Instance K}

/-- A run starts exactly on an instance that passes the check, at a usable tolerance and from a
starting point that exists.
-/
theorem start?_eq_ok_iff {run : Run K inst.numVars inst.numInequalities inst.numEqualities}
    : start? settings options inst = .ok run
      ↔ ∃ (passed : inst.check = .ok ())
          (it : Iterate K inst.numVars inst.numInequalities inst.numEqualities),
        let prog := inst.toProgram (Instance.wellShaped_of_check passed)
        Scalar.isPositive (settings.withOptions options).tolerance = true
          ∧ prog.start settings.infeasibleStart = .ok it
          ∧ prog.run settings.stepFraction (settings.withOptions options).tolerance
              (settings.withOptions options).maxIterations it = run := by
  constructor
  · intro started
    unfold start? at started
    split at started
    · cases started
    rename_i passed
    unfold run? at started
    split at started
    case isFalse => cases started
    case isTrue usable =>
      split at started
      · cases started
      rename_i it begun
      exact ⟨passed, it, usable, begun, Except.ok.inj started⟩
  · rintro ⟨passed, it, usable, begun, rfl⟩
    unfold start?
    split
    case h_1 fault refused =>
      rw [passed] at refused
      cases refused
    case h_2 =>
      rw [run?, if_pos usable]
      simp only [Settings.withOptions] at begun ⊢
      rw [begun]
      rfl

theorem start?_eq_error {error : Error}
    (same : (settings.withOptions options).tolerance = (settings.withOptions options').tolerance)
    (refused : start? settings options inst = .error error)
    : start? settings options' inst = .error error := by
  unfold start? at refused ⊢
  split at refused
  case h_1 fault unfit => rw [← refused]
  case h_2 passed =>
    unfold run? at refused ⊢
    rw [same] at refused
    split at refused
    case isFalse unusable =>
      rw [if_neg unusable]
      exact refused
    case isTrue usable =>
      rw [if_pos usable]
      simp only [Settings.withOptions] at refused ⊢
      split at refused
      case h_1 fault unstarted => exact refused
      case h_2 it begun => cases refused

theorem exists_extends {short : Run K inst.numVars inst.numInequalities inst.numEqualities}
    (same : (settings.withOptions options).tolerance = (settings.withOptions options').tolerance)
    (le
      : (settings.withOptions options).maxIterations
        ≤ (settings.withOptions options').maxIterations)
    (started : start? settings options inst = .ok short)
    : ∃ long, start? settings options' inst = .ok long ∧ long.Extends short := by
  obtain ⟨passed, it, usable, begun, rfl⟩ := start?_eq_ok_iff.mp started
  rw [same] at usable ⊢
  exact ⟨_, start?_eq_ok_iff.mpr ⟨passed, it, usable, begun, rfl⟩, Program.runFrom_extends le _⟩

omit [NumberText K] in
theorem trajectory_eq {infeasibleStart : Bool} {stepFraction : K}
    {it : Iterate K inst.numVars inst.numInequalities inst.numEqualities}
    (passed : inst.check = .ok ())
    (begun
      : (inst.toProgram (Instance.wellShaped_of_check passed)).start infeasibleStart = .ok it)
    (k : Nat)
    : trajectory infeasibleStart stepFraction inst k
      = (inst.toProgram (Instance.wellShaped_of_check passed)).trajectory stepFraction it k := by
  unfold trajectory
  split
  case h_1 fault refused =>
    rw [passed] at refused
    cases refused
  case h_2 =>
    simp only
    rw [begun]

/-- A run on an instance visits the points of its trajectory. -/
theorem visited_of_start? {run : Run K inst.numVars inst.numInequalities inst.numEqualities}
    (started : start? settings options inst = .ok run) {k : Nat} (reached : k ≤ run.last.index)
    : ∃ r,
        run.records[k]? = some r
          ∧ trajectory settings.infeasibleStart settings.stepFraction inst k = some r := by
  obtain ⟨passed, it, usable, begun, rfl⟩ := start?_eq_ok_iff.mp started
  rw [trajectory_eq passed begun]
  exact (Program.run_traces _ _ _ _ it).exists_visited reached

/-- The last point of a run stands at its place, with as many points before it. -/
theorem last_of_start? {run : Run K inst.numVars inst.numInequalities inst.numEqualities}
    (started : start? settings options inst = .ok run)
    : run.records.length = run.last.index + 1 ∧ run.records[run.last.index]? = some run.last := by
  obtain ⟨_, it, -, traces⟩ := start?_eq_ok started
  rw [traces.index_eq (Run.getElem?_last run)]
  exact ⟨by rw [Run.records, List.length_append, List.length_singleton], Run.getElem?_last run⟩

-----------------------------------------------------------------------------------------
-- Cuts
-----------------------------------------------------------------------------------------

/-- What a cap changes in the answer on an instance: nothing if it does not end the run, and
otherwise the answer is the point where a run with a larger cap goes on.
-/
structure CutByCap (settings : Settings K) (options options' : Options K) (inst : Instance K)
    : Prop where
  kept
    : (∀ solution,
        solve settings options inst = .ok solution → solution.status ≠ .maxIterations) →
      solve settings options' inst = solve settings options inst
  cut
    : ∀ solution,
        solve settings options inst = .ok solution → solution.status = .maxIterations →
          solution.iterations = (settings.withOptions options).maxIterations
            ∧ ∃ run r,
                start? settings options' inst = .ok run
                  ∧ run.records[solution.iterations]? = some r
                  ∧ solution.x = r.iterate.x.toList
                  ∧ solution.objective = r.objective
  later
    : ∀ solution,
        solve settings options inst = .ok solution → solution.status = .maxIterations →
          (∀ solution',
            solve settings options' inst = .ok solution' →
              solution.iterations ≤ solution'.iterations)
            ∧ ∀ error,
                solve settings options' inst = .error error →
                  ∃ k ≥ solution.iterations, error = (Fault.singularAt k : Fault K).toError

/-- An answer of a run is read off its last point, as a solution or as a failure there. -/
theorem solve_of_start? {run : Run K inst.numVars inst.numInequalities inst.numEqualities}
    (started : start? settings options inst = .ok run)
    : (∃ solution, solve settings options inst = .ok solution ∧ run.Reports solution)
        ∨ (run.ending = .singular
          ∧ solve settings options inst
            = .error (Fault.singularAt run.last.index : Fault K).toError) := by
  rw [solve, started]
  cases ended : run.ending
  case singular =>
    refine .inr ⟨rfl, ?_⟩
    simp only [answer, ended]
    rfl
  all_goals
    left
    simp only [answer, ended]
    exact ⟨_, rfl, rfl, by rw [ended]; rfl, rfl, rfl⟩

theorem Ending.eq_exhausted {ending : Ending} (status : ending.status? = some .maxIterations)
    : ending = .exhausted := by
  cases ending <;> first | rfl | cases status

/-- A run that its cap ended has made as many steps as the cap allows, and a run that extends it
visits its last point at that place and ends there or later.
-/
theorem extended_of_exhausted
    {short long : Run K inst.numVars inst.numInequalities inst.numEqualities}
    (started : start? settings options inst = .ok short)
    (started' : start? settings options' inst = .ok long) (extended : long.Extends short)
    (exhausted : short.ending = .exhausted)
    : short.last.index = (settings.withOptions options).maxIterations
        ∧ long.records[short.last.index]? = some short.last
        ∧ short.last.index ≤ long.last.index := by
  have last : long.records[short.last.index]? = some short.last := by
    obtain ⟨rest, joined⟩ := extended.visits
    obtain ⟨length_eq, visited⟩ := last_of_start? started
    rw [← joined, List.getElem?_append_left (by omega), visited]
  refine ⟨?_, last, ?_⟩
  · obtain ⟨_, it, -, traces⟩ := start?_eq_ok started
    have ends := traces.ends
    rw [exhausted] at ends
    cases ends with
    | exhausted continued capped => exact capped
  · have inside := (List.getElem?_eq_some_iff.mp last).1
    have length_eq := (last_of_start? started').1
    omega

/-- The answer that the cap was reached is read off a run that its cap ended. -/
theorem reports_of_maxIterations
    {run : Run K inst.numVars inst.numInequalities inst.numEqualities} {solution : Solution K}
    (started : start? settings options inst = .ok run)
    (solved : solve settings options inst = .ok solution)
    (status : solution.status = .maxIterations)
    : run.Reports solution ∧ run.ending = .exhausted := by
  obtain ⟨run, again, reports⟩ := solve_eq_ok solved
  cases started.symm.trans again
  exact ⟨reports, Ending.eq_exhausted (status ▸ reports.status)⟩

/-- A run whose answer is anything but that the cap was reached was not ended by its cap. -/
theorem ending_ne_exhausted
    {run : Run K inst.numVars inst.numInequalities inst.numEqualities}
    (started : start? settings options inst = .ok run)
    (uncapped
      : ∀ solution,
          solve settings options inst = .ok solution → solution.status ≠ .maxIterations)
    : run.ending ≠ .exhausted := by
  intro exhausted
  obtain ⟨solution, solved, reports⟩ | ⟨singular, -⟩ := solve_of_start? started
  · have status := reports.status
    rw [exhausted] at status
    exact uncapped solution solved (Option.some.inj status).symm
  · rw [exhausted] at singular
    cases singular

theorem cutByCap
    (same : (settings.withOptions options).tolerance = (settings.withOptions options').tolerance)
    (le
      : (settings.withOptions options).maxIterations
        ≤ (settings.withOptions options').maxIterations)
    : CutByCap settings options options' inst := by
  cases started : start? settings options inst with
  | error error =>
      -- Neither run starts, so that both solves fail alike.
      have failed : solve settings options inst = .error error := by rw [solve, started]
      have failed' : solve settings options' inst = .error error := by
        rw [solve, start?_eq_error same started]
      refine ⟨fun _ => failed'.trans failed.symm, ?_, ?_⟩ <;>
        · intro solution solved
          rw [failed] at solved
          cases solved
  | ok short =>
      obtain ⟨long, started', extended⟩ := exists_extends same le started
      refine ⟨fun uncapped => ?_, fun solution solved status => ?_,
        fun solution solved status => ?_⟩
      · have same := extended.same (ending_ne_exhausted started uncapped)
        rw [solve, solve, started, started', same]
      · obtain ⟨reports, exhausted⟩ := reports_of_maxIterations started solved status
        obtain ⟨reached, visited, -⟩ := extended_of_exhausted started started' extended exhausted
        rw [reports.iterations]
        exact ⟨reached, long, short.last, started', visited, reports.point, reports.objective⟩
      · obtain ⟨reports, exhausted⟩ := reports_of_maxIterations started solved status
        obtain ⟨-, -, later⟩ := extended_of_exhausted started started' extended exhausted
        rw [reports.iterations]
        constructor
        · intro solution' solved'
          obtain ⟨run, again, reports'⟩ := solve_eq_ok solved'
          cases started'.symm.trans again
          rwa [reports'.iterations]
        · intro error failed
          obtain ⟨solution', solved', -⟩ | ⟨-, failed'⟩ := solve_of_start? started'
          · rw [failed] at solved'
            cases solved'
          · exact ⟨long.last.index, later, Except.error.inj (failed.symm.trans failed')⟩

/-- What a looser tolerance changes in the answer on an instance: an optimum is found at an earlier
point of the trajectory, or at the same one.
-/
def CutByTolerance (settings : Settings K) (options options' : Options K) (inst : Instance K)
    : Prop :=
  ∀ solution,
    solve settings options inst = .ok solution → solution.status = .optimal →
      ∃ solution' r,
        solve settings options' inst = .ok solution' ∧ solution'.status = .optimal
          ∧ solution'.iterations ≤ solution.iterations
          ∧ trajectory settings.infeasibleStart settings.stepFraction inst solution'.iterations
            = some r
          ∧ solution'.x = r.iterate.x.toList ∧ solution'.objective = r.objective

/-- In exact arithmetic a looser tolerance ends the run at the first point of the same trajectory
that passes the looser test, which the tighter run visits too.
-/
theorem cutByTolerance {F : Type} [Field F] [LinearOrder F] [IsStrictOrderedRing F]
    [NumberText F] {settings : Settings F} {options options' : Options F} {inst : Instance F}
    (looser
      : (settings.withOptions options).tolerance ≤ (settings.withOptions options').tolerance)
    (same
      : (settings.withOptions options).maxIterations
        = (settings.withOptions options').maxIterations)
    : CutByTolerance settings options options' inst := by
  intro solution solved optimal
  obtain ⟨tight, started, reports⟩ := solve_eq_ok solved
  have converged := Ending.eq_converged (optimal ▸ reports.status)
  obtain ⟨passed, it, usable, begun, rfl⟩ := start?_eq_ok_iff.mp started
  have usable' : Scalar.isPositive (settings.withOptions options').tolerance = true := by
    rw [Scalar.isPositive_eq_true_iff] at usable ⊢
    exact usable.trans_le looser
  have started' := start?_eq_ok_iff.mpr ⟨passed, it, usable', begun, rfl⟩
  rw [← same] at started'
  obtain ⟨ends, visits⟩ :=
    Program.runFrom_converges (fun r => Program.accepts_of_le looser r) converged
  obtain ⟨solution', solved', reports'⟩ | ⟨singular, -⟩ := solve_of_start? started'
  case inr => cases ends.symm.trans singular
  obtain ⟨r, visited, reached⟩ := visited_of_start? started' le_rfl
  obtain ⟨length_eq', last⟩ := last_of_start? started'
  cases visited.symm.trans last
  have status := reports'.status
  rw [Program.run, ends] at status
  have earlier := visits.length_le
  have length_eq := (last_of_start? started).1
  rw [Program.run] at length_eq length_eq'
  refine ⟨solution', _, solved', (Option.some.inj status).symm, ?_, ?_, reports'.point,
    reports'.objective⟩
  · rw [reports.iterations, reports'.iterations, Program.run, Program.run]
    omega
  · rw [reports'.iterations]
    exact reached

/-- Cap and tolerance only cut one trajectory: every run on an instance visits the points of the
trajectory up to its end, a larger cap keeps an answer or goes on from it, and a looser tolerance
finds an optimum no later.
-/
theorem runs_cut_trajectory {K F : Type} [Scalar K] [NumberText K] [Field F] [LinearOrder F]
    [IsStrictOrderedRing F] [NumberText F]
    : (∀ (settings : Settings K) (options : Options K) (inst : Instance K) run,
        start? settings options inst = .ok run →
          ∀ k ≤ run.last.index,
            ∃ r,
              run.records[k]? = some r
                ∧ trajectory settings.infeasibleStart settings.stepFraction inst k = some r)
        ∧ (∀ (settings : Settings K) (options options' : Options K) (inst : Instance K),
            (settings.withOptions options).tolerance = (settings.withOptions options').tolerance →
              (settings.withOptions options).maxIterations
                  ≤ (settings.withOptions options').maxIterations →
                CutByCap settings options options' inst)
        ∧ ∀ (settings : Settings F) (options options' : Options F) (inst : Instance F),
            (settings.withOptions options).tolerance ≤ (settings.withOptions options').tolerance →
              (settings.withOptions options).maxIterations
                  = (settings.withOptions options').maxIterations →
                CutByTolerance settings options options' inst :=
  ⟨fun _ _ _ _ started _ reached => visited_of_start? started reached,
    fun _ _ _ _ same le => cutByCap same le, fun _ _ _ _ looser same => cutByTolerance looser same⟩

/-- On the parabola a run to a hundredth takes two steps. A cap of one step cuts it off on the way,
and a tolerance of one half ends it there too.
-/
theorem parabola_cut
    : (∃ solution,
        solve .standard ⟨false, some (1 / 100), some 1⟩ Instance.parabola = .ok solution
          ∧ solution.status = .maxIterations
          ∧ CutByCap .standard ⟨false, some (1 / 100), some 1⟩ ⟨false, some (1 / 100), none⟩
              Instance.parabola)
      ∧ (∃ solution,
          solve .standard ⟨false, some (1 / 100), none⟩ Instance.parabola = .ok solution
            ∧ (solution.status, solution.iterations) = (.optimal, 2)
            ∧ CutByTolerance .standard ⟨false, some (1 / 100), none⟩ ⟨false, some (1 / 2), none⟩
                Instance.parabola)
      ∧ ∃ run r,
          start? .standard ⟨false, some (1 / 2), none⟩ Instance.parabola = .ok run
            ∧ run.last.index = 1 ∧ run.records[1]? = some r
            ∧ trajectory true Settings.standard.stepFraction Instance.parabola 1 = some r := by
  obtain ⟨visits, caps, tolerances⟩ := runs_cut_trajectory (K := ℚ) (F := ℚ)
  obtain ⟨capped, solved, status⟩
      : ∃ solution,
          solve .standard ⟨false, some (1 / 100), some 1⟩ Instance.parabola = .ok solution
            ∧ solution.status = .maxIterations :=
    ok_of_computed (by decide +kernel)
  obtain ⟨optimum, found, ended⟩
      : ∃ solution,
          solve .standard ⟨false, some (1 / 100), none⟩ Instance.parabola = .ok solution
            ∧ (solution.status, solution.iterations) = (.optimal, 2) :=
    ok_of_computed (by decide +kernel)
  obtain ⟨run, started, last⟩
      : ∃ run,
          start? .standard ⟨false, some (1 / 2), none⟩ Instance.parabola = .ok run
            ∧ run.last.index = 1 :=
    ok_of_computed (by decide +kernel)
  obtain ⟨r, visited, reached⟩ := visits .standard _ _ run started 1 last.ge
  refine ⟨⟨capped, solved, status, caps _ _ _ _ rfl (by decide)⟩,
    ⟨optimum, found, ended, tolerances _ _ _ _ ?_ rfl⟩, run, r, started, last, visited, reached⟩
  change (1 / 100 : ℚ) ≤ 1 / 2
  norm_num

end InteriorPoint

end QuadraticTrials

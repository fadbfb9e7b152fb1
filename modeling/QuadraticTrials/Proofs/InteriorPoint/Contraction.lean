import Mathlib
import QuadraticTrials.Proofs.InteriorPoint.Interior
import QuadraticTrials.Proofs.InteriorPoint.Newton

/-!
Residuals along a run. Every step leaves the part of each residual that its length does not cover,
so that what is left at a visited point is one product over the steps before it. Residuals that
vanish at the start vanish throughout.
-/

namespace QuadraticTrials

open Matrix

variable {K : Type} [Field K] [LinearOrder K] {n m p : Nat}

/-- The part of the residuals that a number of steps leaves. -/
def Run.remaining (run : Run K n m p) (count : Nat) : K :=
  ((run.steps.take count).map fun length => 1 - length).prod

namespace Instance

variable (inst : Instance K)
  (it : Iterate K inst.numVars inst.numInequalities inst.numEqualities)

/-- The violation of stationarity. -/
def dualResidual : Fin inst.numVars → K :=
  inst.costMatrix *ᵥ it.x.get + inst.costVector + inst.inequalityMatrixᵀ *ᵥ it.z.get
    + inst.equalityMatrixᵀ *ᵥ it.y.get

/-- The violation of the equality rows. -/
def equalityResidual : Fin inst.numEqualities → K :=
  inst.equalityMatrix *ᵥ it.x.get - inst.equalityVector

/-- The violation of the inequality rows with their slacks. -/
def inequalityResidual : Fin inst.numInequalities → K :=
  inst.inequalityMatrix *ᵥ it.x.get + it.s.get - inst.inequalityVector

/-- The residuals of a point are a part of the residuals of another one. -/
structure Leaves (factor : K)
    (first it : Iterate K inst.numVars inst.numInequalities inst.numEqualities)
    : Prop where
  dual : inst.dualResidual it = factor • inst.dualResidual first
  equality : inst.equalityResidual it = factor • inst.equalityResidual first
  inequality : inst.inequalityResidual it = factor • inst.inequalityResidual first

variable {inst it} (shaped : inst.WellShaped)

theorem residuals_toProgram_dual
    : ((inst.toProgram shaped).residuals it).dual.get = inst.dualResidual it := by
  simp [dualResidual]

theorem residuals_toProgram_eq
    : ((inst.toProgram shaped).residuals it).eq.get = inst.equalityResidual it := by
  simp [equalityResidual]

theorem residuals_toProgram_ineq
    : ((inst.toProgram shaped).residuals it).ineq.get = inst.inequalityResidual it := by
  simp [inequalityResidual]

end Instance

-----------------------------------------------------------------------------------------
-- Starting points
-----------------------------------------------------------------------------------------

namespace Program

variable {prog : Program K n m p} {it : Iterate K n m p}

/-- The least-squares start satisfies the equality rows, which are a block of its system. -/
theorem eq_leastSquaresStart (found : prog.leastSquaresStart? = some it)
    : (prog.residuals it).eq.get = 0 := by
  obtain ⟨⟨x, y⟩, solved, rfl⟩ := Option.map_eq_some_iff.mp found
  have bottom := (solveReduced?_sound solved).2
  rw [get_residuals_eq, bottom, sub_self]

section Ordered

variable [IsStrictOrderedRing K]

/-- An accepted origin satisfies the equality rows and has its right-hand sides as slacks. -/
theorem residuals_originStart (found : prog.originStart = .ok it)
    : (prog.residuals it).eq.get = 0 ∧ (prog.residuals it).ineq.get = 0 := by
  obtain ⟨-, vanishing, rfl⟩ := originStart_eq_ok found
  have origin : (Vector.replicate n (0 : K)).get = 0 := Vec.get_replicate 0
  rw [get_residuals_eq, get_residuals_ineq, origin, mulVec_zero, mulVec_zero, vanishing]
  exact ⟨sub_self 0, by rw [zero_add, sub_self]⟩

/-- Every start satisfies the equality rows. -/
theorem eq_start {infeasible : Bool} (found : prog.start infeasible = .ok it)
    : (prog.residuals it).eq.get = 0 := by
  rcases start_eq_ok found with ⟨-, begun⟩ | ⟨-, begun⟩
  · exact eq_leastSquaresStart begun
  · exact (residuals_originStart begun).1

end Ordered

-----------------------------------------------------------------------------------------
-- Steps and runs
-----------------------------------------------------------------------------------------

variable {fraction tolerance : K} {cap : Nat} {run : Run K n m p}

/-- A taken direction removes the residuals, whichever of the searched directions it is. -/
theorem Takes.removes {r : Record K n m p} {dir : Direction K n m p} {length : K}
    (taken : prog.Takes fraction r dir length)
    : prog.Removes r.residuals dir := by
  obtain ⟨target, found⟩ := taken.isNewton
  exact direction?_removes found

/-- A point that follows another has the part of its residuals that the step leaves. -/
theorem Follows.residuals {r next : Record K n m p}
    (follows : prog.Follows fraction tolerance r next)
    (computed : r.residuals = prog.residuals r.iterate)
    : prog.residuals next.iterate = (prog.residuals r.iterate).scale (1 - next.step) := by
  obtain ⟨dir, taken, reached⟩ := takes_of_advance follows.moved
  have removes := taken.removes
  rw [computed] at removes
  rw [reached, residuals_advance removes]

omit [Field K] [LinearOrder K] in
/-- The step to a visited point comes next after the steps before it. -/
theorem steps_take_succ {k : Nat} {next : Record K n m p}
    (visited : run.records[k + 1]? = some next)
    : run.steps.take (k + 1) = run.steps.take k ++ [next.step] := by
  have stepped : run.steps[k]? = some next.step := by
    rw [Run.steps, List.getElem?_map, List.getElem?_tail, visited]
    rfl
  rw [List.take_add_one, stepped]
  rfl

omit [LinearOrder K] in
/-- Further steps multiply what is left. -/
theorem remaining_succ {k : Nat} {next : Record K n m p}
    (visited : run.records[k + 1]? = some next)
    : run.remaining (k + 1) = (1 - next.step) * run.remaining k := by
  rw [Run.remaining, steps_take_succ visited, List.map_append, List.prod_append, mul_comm]
  simp [Run.remaining]

/-- What is left of the first residuals at a visited point is the product over the steps before it,
by induction on its place.
-/
theorem Traces.residuals (traces : prog.Traces fraction tolerance cap (prog.record 0 0 it) run)
    {k : Nat} {r : Record K n m p} (visited : run.records[k]? = some r)
    : prog.residuals r.iterate = (prog.residuals it).scale (run.remaining k) := by
  refine traces.forall_getElem?
    (motive := fun k r => prog.residuals r.iterate = (prog.residuals it).scale (run.remaining k))
    ?_ ?_ visited
  · exact (Residuals.scale_one _).symm
  · intro k r next before visited follows left
    have computed : r.residuals = prog.residuals r.iterate := by
      rw [traces.recorded (List.mem_of_getElem? before)]
      rfl
    rw [follows.residuals computed, left, Residuals.scale_scale, remaining_succ visited]

/-- Each step moves along a direction by its length, which is one without inequality rows. -/
theorem Traces.advances (traces : prog.Traces fraction tolerance cap (prog.record 0 0 it) run)
    : run.records.IsChain fun r next =>
        (∃ dir, next.iterate = r.iterate.advance dir next.step) ∧ (m = 0 → next.step = 1) := by
  refine traces.linked.imp fun r next follows => ?_
  obtain ⟨dir, taken, reached⟩ := takes_of_advance follows.moved
  exact ⟨⟨dir, reached⟩, taken.length_eq_one⟩

end Program

-----------------------------------------------------------------------------------------
-- Solves
-----------------------------------------------------------------------------------------

namespace InteriorPoint

variable [IsStrictOrderedRing K] [NumberText K] {settings : Settings K} {options : Options K}
  {inst : Instance K} {run : Run K inst.numVars inst.numInequalities inst.numEqualities}
  {r : Record K inst.numVars inst.numInequalities inst.numEqualities}

omit [IsStrictOrderedRing K] in
/-- A visited point leaves the product over the steps before it. -/
theorem leaves_of_visited (started : start? settings options inst = .ok run) {k : Nat}
    (visited : run.records[k]? = some r)
    : inst.Leaves (run.remaining k) run.first.iterate r.iterate := by
  obtain ⟨shaped, it, -, traces⟩ := start?_eq_ok started
  have left := traces.residuals visited
  have first : run.first.iterate = it := congrArg Record.iterate traces.starts
  rw [first]
  -- One equation between stored residuals has three parts.
  refine ⟨?_, ?_, ?_⟩
  · have dual := congrArg (fun res => res.dual.get) left
    simpa only [Residuals.scale, Vec.get_scale, Instance.residuals_toProgram_dual] using dual
  · have eq := congrArg (fun res => res.eq.get) left
    simpa only [Residuals.scale, Vec.get_scale, Instance.residuals_toProgram_eq] using eq
  · have ineq := congrArg (fun res => res.ineq.get) left
    simpa only [Residuals.scale, Vec.get_scale, Instance.residuals_toProgram_ineq] using ineq

/-- Every visited point satisfies the equality rows, as the starting point does. -/
theorem equality_of_visited (started : start? settings options inst = .ok run)
    (visited : r ∈ run.records)
    : inst.equalityMatrix *ᵥ r.iterate.x.get = inst.equalityVector := by
  obtain ⟨k, place⟩ := List.mem_iff_getElem?.mp visited
  have left := (leaves_of_visited started place).equality
  obtain ⟨shaped, it, begun, traces⟩ := start?_eq_ok started
  have vanishing : inst.equalityResidual run.first.iterate = 0 := by
    rw [traces.starts, ← Instance.residuals_toProgram_eq shaped]
    exact Program.eq_start begun
  rw [vanishing, smul_zero] at left
  exact sub_eq_zero.mp left

/-- From the origin every visited point is strictly feasible: its slacks are positive and what the
rows leave.
-/
theorem strictlyFeasible_of_visited (origin : settings.infeasibleStart = false)
    (fraction_pos : 0 < settings.stepFraction) (fraction_lt_one : settings.stepFraction < 1)
    (started : start? settings options inst = .ok run) (visited : r ∈ run.records)
    : inst.StrictlyFeasible r.iterate.x.get := by
  refine ⟨fun i => ?_, equality_of_visited started visited⟩
  obtain ⟨k, place⟩ := List.mem_iff_getElem?.mp visited
  have left := (leaves_of_visited started place).inequality
  obtain ⟨shaped, it, begun, traces⟩ := start?_eq_ok started
  have interior : r.iterate.Interior :=
    traces.interior fraction_pos fraction_lt_one (Program.interior_start begun) visited
  have vanishing : inst.inequalityResidual run.first.iterate = 0 := by
    rw [traces.starts, ← Instance.residuals_toProgram_ineq shaped]
    rw [origin] at begun
    exact (Program.residuals_originStart begun).2
  rw [vanishing, smul_zero] at left
  have row := congrFun left i
  simp only [Instance.inequalityResidual, Pi.sub_apply, Pi.add_apply, Pi.zero_apply] at row
  linarith [interior.slack_pos i]

/-- Along a run each residual is what the steps leave of the first one. Hence the equality rows hold
at every visited point, and from the origin the inequality rows hold strictly there and at every
solution.
-/
theorem residuals_contract (started : start? settings options inst = .ok run)
    : (∀ k r, run.records[k]? = some r →
          inst.Leaves (run.remaining k) run.first.iterate r.iterate)
      ∧ (run.records.IsChain fun r next =>
          (∃ dir, next.iterate = r.iterate.advance dir next.step)
            ∧ (inst.numInequalities = 0 → next.step = 1))
      ∧ (∀ r ∈ run.records, inst.equalityMatrix *ᵥ r.iterate.x.get = inst.equalityVector)
      ∧ (settings.infeasibleStart = false →
          0 < settings.stepFraction → settings.stepFraction < 1 →
          (∀ r ∈ run.records, inst.StrictlyFeasible r.iterate.x.get)
            ∧ ∀ solution, solve settings options inst = .ok solution →
              ∃ x : Vector K inst.numVars, solution.x = x.toList ∧ inst.StrictlyFeasible x.get) := by
  refine ⟨fun k r place => leaves_of_visited started place, ?_,
    fun r visited => equality_of_visited started visited, ?_⟩
  · obtain ⟨shaped, it, -, traces⟩ := start?_eq_ok started
    exact traces.advances
  intro origin fraction_pos fraction_lt_one
  refine ⟨fun r visited =>
    strictlyFeasible_of_visited origin fraction_pos fraction_lt_one started visited, ?_⟩
  intro solution solved
  obtain ⟨reported, started, reports⟩ := solve_eq_ok solved
  exact ⟨reported.last.iterate.x, reports.point,
    strictlyFeasible_of_visited origin fraction_pos fraction_lt_one started
      reported.last_mem_records⟩

/-- The step of length 99/100 from the origin leaves a hundredth of the residuals of the parabola,
and the point after it is strictly feasible.
-/
theorem parabola_contracts
    : ∃ run, start? ⟨100, 1 / 100, false, 99 / 100⟩ ⟨false, none, none⟩ Instance.parabola = .ok run
        ∧ run.earlier.length = 1
        ∧ Instance.parabola.Leaves (1 / 100) run.first.iterate run.last.iterate
        ∧ Instance.parabola.StrictlyFeasible run.last.iterate.x.get := by
  obtain ⟨run, started, read⟩
      : ∃ run, start? ⟨100, 1 / 100, false, 99 / 100⟩ ⟨false, none, none⟩ Instance.parabola = .ok run
          ∧ (run.earlier.length, run.remaining 1) = (1, 1 / 100) :=
    ok_of_computed (by decide +kernel)
  obtain ⟨length, remaining⟩ := Prod.mk.inj read
  obtain ⟨contracts, -, -, feasible⟩ := residuals_contract started
  have place := run.getElem?_last
  rw [length] at place
  refine ⟨run, started, length, ?_, ?_⟩
  · rw [← remaining]
    exact contracts 1 run.last place
  · exact (feasible rfl (by norm_num) (by norm_num)).1 run.last run.last_mem_records

end InteriorPoint

end QuadraticTrials

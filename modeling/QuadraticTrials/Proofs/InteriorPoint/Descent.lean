import Mathlib
import QuadraticTrials.Proofs.InteriorPoint.Contraction

/-!
The merit along a run. Every step taken between inequality rows is long enough and lowers the merit
by its part, whatever the number type rounds; over an ordered field the merit falls strictly, so
that no point is visited twice. A run that finds no such step reports the point it has reached.
-/

namespace QuadraticTrials

open Matrix

-----------------------------------------------------------------------------------------
-- Steps in any number type
-----------------------------------------------------------------------------------------

section Comparable

variable {K : Type} [Scalar K] {n m p : Nat}

/-- The merit of a point: its largest constraint violation, its largest violation of stationarity
and its complementarity gap.
-/
def Program.meritAt (prog : Program K n m p) (it : Iterate K n m p) : K :=
  (prog.residuals it).merit it.gap

/-- A step of some length along some direction is at least `10⁻¹⁴` long and lowers the merit by the
part `length / 100`.
-/
structure Program.Descends (prog : Program K n m p) (it next : Iterate K n m p) (length : K)
    : Prop where
  reached : ∃ dir, next = it.advance dir length
  long : Scalar.decimal 1 14 ≤ length
  lowered : prog.meritAt next ≤ (1 - Scalar.ratio 1 100 * length) * prog.meritAt it

namespace Program

variable [Scalar.Comparable K] {prog : Program K n m p} {fraction tolerance : K} {cap : Nat}
  {it : Iterate K n m p} {run : Run K n m p}

/-- Between inequality rows a point that follows another one descends from it, by the test that its
step has passed.
-/
theorem Follows.descends {r next : Record K n m p}
    (follows : prog.Follows fraction tolerance r next)
    (computed : r = prog.record r.index r.step r.iterate) (bounded : 0 < m)
    : prog.Descends r.iterate next.iterate next.step := by
  obtain ⟨dir, taken, reached⟩ := takes_of_advance follows.moved
  refine ⟨⟨dir, reached⟩, ?_, ?_⟩
  · exact (taken.acceptable bounded).long
  · have lowered := of_decide_eq_true (taken.acceptable bounded).improving
    rw [computed] at lowered
    rw [reached]
    exact lowered

/-- Between inequality rows every step of a run descends. -/
theorem Traces.descends (traces : prog.Traces fraction tolerance cap (prog.record 0 0 it) run)
    (bounded : 0 < m)
    : run.records.IsChain fun r next => prog.Descends r.iterate next.iterate next.step :=
  traces.linked.imp_of_mem_imp fun _ _ visited _ follows =>
    follows.descends (traces.recorded visited) bounded

end Program

end Comparable

section Answers

variable {K : Type} [Scalar K] [NumberText K]

namespace InteriorPoint

variable {settings : Settings K} {options : Options K} {inst : Instance K}
  {run : Run K inst.numVars inst.numInequalities inst.numEqualities}
  {r : Record K inst.numVars inst.numInequalities inst.numEqualities}

/-- A visited point at which the run stalls before its cap is reported as it is, since it is the
last one.
-/
theorem solve_of_stalled (started : start? settings options inst = .ok run)
    (shaped : inst.WellShaped) (visited : r ∈ run.records)
    (continued
      : (inst.toProgram shaped).accepts (settings.withOptions options).tolerance r = false)
    (within : r.index < (settings.withOptions options).maxIterations)
    (stalled : (inst.toProgram shaped).move settings.stepFraction r = .stalled)
    : solve settings options inst
      = .ok ⟨r.iterate.x.toList, .numericalError, r.objective, r.index⟩ := by
  obtain ⟨_, it, -, traces⟩ := start?_eq_ok started
  obtain rfl : r = run.last := by
    refine traces.eq_last visited fun next length advanced => ?_
    rw [stalled] at advanced
    cases advanced
  have ending := traces.ends.eq_stalled continued within stalled
  exact solve_of_reports started ⟨rfl, congrArg Ending.status? ending, rfl, rfl⟩

/-- A numerical error is reported only for the last point of a run that stalls there. -/
theorem stalled_of_numericalError (started : start? settings options inst = .ok run)
    (shaped : inst.WellShaped) {solution : Solution K}
    (solved : solve settings options inst = .ok solution)
    (status : solution.status = .numericalError)
    : run.Reports solution
      ∧ (inst.toProgram shaped).move settings.stepFraction run.last = .stalled := by
  obtain ⟨reported, started', reports⟩ := solve_eq_ok solved
  cases started.symm.trans started'
  refine ⟨reports, ?_⟩
  obtain ⟨_, it, -, traces⟩ := start?_eq_ok started
  have ending := Ending.eq_stalled (status ▸ reports.status)
  exact (ending ▸ traces.ends).moved

/-- What the safeguard of a step makes of a run in any number type: every step between inequality
rows descends, and a point at which none is found is reported as it is, with its place in the run
as the number of iterations.
-/
structure Guarded (settings : Settings K) (options : Options K) (inst : Instance K)
    (shaped : inst.WellShaped)
    (run : Run K inst.numVars inst.numInequalities inst.numEqualities)
    : Prop where
  descends
    : 0 < inst.numInequalities →
      run.records.IsChain fun r next =>
        (inst.toProgram shaped).Descends r.iterate next.iterate next.step
  counted : ∀ (k : Nat) r, run.records[k]? = some r → r.index = k
  reported
    : ∀ r ∈ run.records,
      (inst.toProgram shaped).accepts (settings.withOptions options).tolerance r = false →
      r.index < (settings.withOptions options).maxIterations →
      (inst.toProgram shaped).move settings.stepFraction r = .stalled →
      solve settings options inst
        = .ok ⟨r.iterate.x.toList, .numericalError, r.objective, r.index⟩
  numericalError
    : ∀ solution, solve settings options inst = .ok solution →
      solution.status = .numericalError →
      run.Reports solution
        ∧ (inst.toProgram shaped).move settings.stepFraction run.last = .stalled

theorem guarded_of_start? [Scalar.Comparable K] (started : start? settings options inst = .ok run)
    (shaped : inst.WellShaped)
    : Guarded settings options inst shaped run := by
  obtain ⟨_, it, -, traces⟩ := start?_eq_ok started
  exact ⟨traces.descends, fun k r place => traces.index_eq place,
    fun r visited => solve_of_stalled started shaped visited,
    fun solution => stalled_of_numericalError started shaped⟩

end InteriorPoint

end Answers

-----------------------------------------------------------------------------------------
-- Runs over an ordered field
-----------------------------------------------------------------------------------------

variable {K : Type} [Field K] [LinearOrder K]

/-- The merit of a point of an instance. -/
def Instance.merit (inst : Instance K)
    (it : Iterate K inst.numVars inst.numInequalities inst.numEqualities)
    : K :=
  max (maxNorm (inst.equalityResidual it)) (maxNorm (inst.inequalityResidual it))
    + maxNorm (inst.dualResidual it) + it.s.get ⬝ᵥ it.z.get

theorem Instance.merit_toProgram {inst : Instance K} (shaped : inst.WellShaped)
    (it : Iterate K inst.numVars inst.numInequalities inst.numEqualities)
    : (inst.toProgram shaped).meritAt it = inst.merit it := by
  simp only [Program.meritAt, Residuals.merit, Residuals.primalNorm, Residuals.dualNorm,
    Scalar.max_eq_max, Vec.maxAbs_eq_maxNorm, residuals_toProgram_dual, residuals_toProgram_eq,
    residuals_toProgram_ineq, Iterate.gap, Vec.dot_eq_dotProduct, merit]

variable [IsStrictOrderedRing K]

section Merit

variable {n m p : Nat}

omit [IsStrictOrderedRing K] in
theorem Residuals.merit_eq (res : Residuals K n m p) (gap : K)
    : res.merit gap
      = max (maxNorm res.eq.get) (maxNorm res.ineq.get) + maxNorm res.dual.get + gap := by
  simp [merit, primalNorm, dualNorm]

omit [IsStrictOrderedRing K] in
/-- The gap counts in full beside the residuals. -/
theorem Residuals.merit_eq_add (res : Residuals K n m p) (gap : K)
    : res.merit gap = res.merit 0 + gap := by
  simp [merit]

/-- All residuals together count for nothing less than zero. -/
theorem Residuals.merit_zero_nonneg (res : Residuals K n m p) : 0 ≤ res.merit 0 := by
  rw [merit_eq, add_zero]
  exact add_nonneg (le_max_of_le_left (maxNorm_nonneg _)) (maxNorm_nonneg _)

/-- An interior point has a positive merit when there are inequality rows, since its gap is
positive.
-/
theorem Program.meritAt_pos {prog : Program K n m p} {it : Iterate K n m p} (bounded : 0 < m)
    (interior : it.Interior)
    : 0 < prog.meritAt it := by
  rw [meritAt, Residuals.merit_eq_add]
  exact add_pos_of_nonneg_of_pos (Residuals.merit_zero_nonneg _) (interior.gap_pos bounded)

end Merit

/-- A descent lowers a positive merit strictly. -/
theorem Instance.merit_lt {inst : Instance K} (shaped : inst.WellShaped)
    {it next : Iterate K inst.numVars inst.numInequalities inst.numEqualities} {length : K}
    (descends : (inst.toProgram shaped).Descends it next length) (interior : it.Interior)
    (bounded : 0 < inst.numInequalities)
    : inst.merit next < inst.merit it := by
  have positive : 0 < inst.merit it := by
    rw [← merit_toProgram shaped]
    exact Program.meritAt_pos bounded interior
  have step : 0 < length := Program.minStep_pos.trans_le descends.long
  have lowered := descends.lowered
  rw [merit_toProgram, merit_toProgram, Scalar.ratio_eq_div, Nat.cast_one, Nat.cast_ofNat]
    at lowered
  have part := mul_pos step positive
  linarith

/-- The search of a move finds all its directions and no acceptable step along them. -/
structure Program.Fruitless {n m p : Nat} (prog : Program K n m p) (fraction : K)
    (r : Record K n m p)
    : Prop where
  regular : prog.Regular fraction r
  refused : ∀ dir length, prog.Tries fraction r dir length → ¬prog.Acceptable r dir length

/-- With inequality rows a move stalls exactly when its search is fruitless. -/
theorem Program.stalled_iff_fruitless {n m p : Nat} {prog : Program K n m p} {fraction : K}
    {r : Record K n m p} (bounded : 0 < m)
    : prog.move fraction r = .stalled ↔ prog.Fruitless fraction r := by
  constructor
  · intro stalled
    exact ⟨(regular_of_stalled stalled).2,
      fun dir length tried => not_acceptable_of_stalled stalled tried⟩
  · rintro ⟨regular, refused⟩
    exact stalled_of_not_acceptable bounded regular refused

namespace InteriorPoint

variable [NumberText K] {settings : Settings K} {options : Options K} {inst : Instance K}
  {run : Run K inst.numVars inst.numInequalities inst.numEqualities}

/-- The merit falls strictly from each visited point to all later ones, by transitivity along the
chain of descents.
-/
theorem merit_pairwise (started : start? settings options inst = .ok run)
    (bounded : 0 < inst.numInequalities) (fraction_pos : 0 < settings.stepFraction)
    (fraction_lt_one : settings.stepFraction < 1)
    : run.records.Pairwise fun r later => inst.merit later.iterate < inst.merit r.iterate := by
  obtain ⟨shaped, it, begun, traces⟩ := start?_eq_ok started
  have falls : (run.records.map fun r => inst.merit r.iterate).IsChain (· > ·) := by
    rw [List.isChain_map]
    refine (traces.descends bounded).imp_of_mem_imp fun r next visited _ descends => ?_
    have interior : r.iterate.Interior :=
      traces.interior fraction_pos fraction_lt_one (Program.interior_start begun) visited
    exact Instance.merit_lt shaped descends interior bounded
  exact List.pairwise_map.mp falls.pairwise

/-- Every step applied between inequality rows is at least `10⁻¹⁴` long and lowers the merit
sufficiently, in any number type whose comparisons are reliable; over an ordered field the merit
falls strictly over the whole run and no point is visited twice. A point at which no acceptable step
is found is reported as a numerical error, unchanged.
-/
theorem merit_descends
    : (∀ {K : Type} [Scalar K] [Scalar.Comparable K] [NumberText K] {settings : Settings K}
          {options : Options K} {inst : Instance K}
          {run : Run K inst.numVars inst.numInequalities inst.numEqualities},
        start? settings options inst = .ok run →
        ∃ shaped, Guarded settings options inst shaped run)
      ∧ ∀ {K : Type} [Field K] [LinearOrder K] [IsStrictOrderedRing K] [NumberText K]
          {settings : Settings K} {options : Options K} {inst : Instance K}
          {run : Run K inst.numVars inst.numInequalities inst.numEqualities},
        start? settings options inst = .ok run → 0 < inst.numInequalities →
        (∀ shaped, ∀ r ∈ run.records,
          (inst.toProgram shaped).meritAt r.iterate = inst.merit r.iterate
            ∧ ((inst.toProgram shaped).move settings.stepFraction r = .stalled
              ↔ (inst.toProgram shaped).Fruitless settings.stepFraction r))
          ∧ (0 < settings.stepFraction → settings.stepFraction < 1 →
            (run.records.Pairwise fun r later =>
                inst.merit later.iterate < inst.merit r.iterate)
              ∧ (run.records.map Record.iterate).Nodup) := by
  constructor
  · intro K _ _ _ settings options inst run started
    obtain ⟨shaped, -⟩ := start?_eq_ok started
    exact ⟨shaped, guarded_of_start? started shaped⟩
  · intro K _ _ _ _ settings options inst run started bounded
    refine ⟨fun shaped r _ =>
      ⟨Instance.merit_toProgram shaped r.iterate, Program.stalled_iff_fruitless bounded⟩, ?_⟩
    intro fraction_pos fraction_lt_one
    have falls := merit_pairwise started bounded fraction_pos fraction_lt_one
    refine ⟨falls, List.pairwise_map.mpr (falls.imp fun less same => ?_)⟩
    rw [same] at less
    exact lt_irrefl _ less

/-- The same parabola in machine floats. -/
def floatParabola : Instance Float :=
  ⟨⟨1, 1, #v[#v[1]]⟩, [-2], some ⟨⟨1, 1, #v[#v[1]]⟩, [1]⟩, none⟩

/-- Rational and float runs on the parabola descend, and a run that may take no part of the way to
the boundary stalls at its start.
-/
theorem parabola_descends
    : (∃ run, start? .standard ⟨false, some (1 / 100), none⟩ Instance.parabola = .ok run
          ∧ run.records.length = 3
          ∧ run.records.Pairwise fun r later =>
            Instance.parabola.merit later.iterate < Instance.parabola.merit r.iterate)
      ∧ (∃ run shaped, start? .standard ⟨false, some 0.01, none⟩ floatParabola = .ok run
          ∧ run.records.length = 3
          ∧ run.records.IsChain fun r next =>
            (floatParabola.toProgram shaped).Descends r.iterate next.iterate next.step)
      ∧ ∃ run solution shaped,
        start? ⟨100, 1 / 100, true, 0⟩ ⟨false, none, none⟩ Instance.parabola = .ok run
          ∧ solve ⟨100, 1 / 100, true, 0⟩ ⟨false, none, none⟩ Instance.parabola = .ok solution
          ∧ solution.status = .numericalError ∧ run.Reports solution
          ∧ (Instance.parabola.toProgram shaped).Fruitless 0 run.last := by
  refine ⟨?_, ?_, ?_⟩
  · obtain ⟨run, started, length⟩ := parabola_started
    obtain ⟨falls, -⟩ := (merit_descends.2 started (by decide)).2 parabola_stepFraction.1
      parabola_stepFraction.2
    exact ⟨run, started, length, falls⟩
  · obtain ⟨run, started, length⟩
        : ∃ run, start? .standard ⟨false, some 0.01, none⟩ floatParabola = .ok run
            ∧ run.records.length = 3 :=
      ok_of_computed (by decide +kernel)
    obtain ⟨shaped, guarded⟩ := merit_descends.1 started
    exact ⟨run, shaped, started, length, guarded.descends (by decide)⟩
  · obtain ⟨solution, solved, status⟩
        : ∃ solution,
            solve ⟨100, 1 / 100, true, 0⟩ ⟨false, none, none⟩ Instance.parabola = .ok solution
              ∧ solution.status = .numericalError :=
      ok_of_computed (by decide +kernel)
    obtain ⟨run, started, -⟩ := solve_eq_ok solved
    obtain ⟨shaped, guarded⟩ := merit_descends.1 started
    obtain ⟨reports, stalled⟩ := guarded.numericalError solution solved status
    have search := (merit_descends.2 started (by decide)).1 shaped run.last run.last_mem_records
    exact ⟨run, solution, shaped, started, solved, status, reports, search.2.mp stalled⟩

end InteriorPoint

end QuadraticTrials

import Mathlib
import QuadraticTrials.Proofs.InteriorPoint.Contraction

/-!
Points that pass the stopping test as certificates. For a convex cost, small residuals together with
nonnegative duals bound how far the cost of any feasible point can lie below the cost of the point,
and the final duals of an optimal answer are such duals.
-/

namespace QuadraticTrials

open Matrix

variable {K : Type} [Field K] [LinearOrder K]

variable [IsStrictOrderedRing K]

namespace Instance

variable {inst : Instance K}

-----------------------------------------------------------------------------------------
-- Convex costs
-----------------------------------------------------------------------------------------

omit [LinearOrder K] [IsStrictOrderedRing K] in
/-- The cost at a sum of two points, by symmetry of its matrix. -/
theorem value_add [CharZero K] (symmetric : inst.costMatrix.IsSymm) (x d : Fin inst.numVars → K)
    : inst.value (x + d)
      = inst.value x + (inst.costMatrix *ᵥ x + inst.costVector) ⬝ᵥ d
        + 1 / 2 * (d ⬝ᵥ inst.costMatrix *ᵥ d) := by
  have swap : x ⬝ᵥ inst.costMatrix *ᵥ d = inst.costMatrix *ᵥ x ⬝ᵥ d := by
    rw [dotProduct_mulVec, ← mulVec_transpose, symmetric.eq]
  have turn : d ⬝ᵥ inst.costMatrix *ᵥ x = inst.costMatrix *ᵥ x ⬝ᵥ d := dotProduct_comm _ _
  simp only [value, mulVec_add, add_dotProduct, dotProduct_add, swap, turn]
  ring

/-- A convex cost lies above its tangents, since the quadratic term is nowhere negative. -/
theorem tangent_le_value (convex : inst.ConvexCost) (x x' : Fin inst.numVars → K)
    : inst.value x + (inst.costMatrix *ᵥ x + inst.costVector) ⬝ᵥ (x' - x) ≤ inst.value x' := by
  have expanded := value_add convex.symmetric x (x' - x)
  rw [add_sub_cancel] at expanded
  have quadratic := convex.semidefinite (x' - x)
  linarith

-----------------------------------------------------------------------------------------
-- Duality
-----------------------------------------------------------------------------------------

variable (it : Iterate K inst.numVars inst.numInequalities inst.numEqualities)
  {x' : Fin inst.numVars → K}

omit [LinearOrder K] [IsStrictOrderedRing K] in
/-- The slope of the cost towards another point, expressed by the residuals and the duals. -/
theorem slope_eq (x' : Fin inst.numVars → K)
    : (inst.costMatrix *ᵥ it.x.get + inst.costVector) ⬝ᵥ (x' - it.x.get)
      = inst.dualResidual it ⬝ᵥ (x' - it.x.get)
        - it.z.get ⬝ᵥ (inst.inequalityMatrix *ᵥ x' - inst.inequalityMatrix *ᵥ it.x.get)
        - it.y.get ⬝ᵥ (inst.equalityMatrix *ᵥ x' - inst.equalityMatrix *ᵥ it.x.get) := by
  simp only [dualResidual, add_dotProduct, mulVec_transpose, ← dotProduct_mulVec, mulVec_sub]
  ring

/-- At a feasible point the inequality rows, weighted by nonnegative duals, exceed those of a point
by at most its gap and residual.
-/
theorem inequality_term_le (feasible : inst.Feasible x') (dual_nonneg : ∀ i, 0 ≤ it.z.get i)
    : it.z.get ⬝ᵥ (inst.inequalityMatrix *ᵥ x' - inst.inequalityMatrix *ᵥ it.x.get)
      ≤ it.s.get ⬝ᵥ it.z.get + maxNorm (inst.inequalityResidual it) * sumNorm it.z.get := by
  have rows : inst.inequalityMatrix *ᵥ x' - inst.inequalityMatrix *ᵥ it.x.get
      = (inst.inequalityMatrix *ᵥ x' - inst.inequalityVector)
        + (it.s.get - inst.inequalityResidual it) := by
    rw [inequalityResidual]
    abel
  have outside : it.z.get ⬝ᵥ (inst.inequalityMatrix *ᵥ x' - inst.inequalityVector) ≤ 0 := by
    refine Finset.sum_nonpos fun i _ => mul_nonpos_of_nonneg_of_nonpos (dual_nonneg i) ?_
    exact sub_nonpos.mpr (feasible.inequality i)
  have residual := neg_dotProduct_le (inst.inequalityResidual it) it.z.get
  rw [rows, dotProduct_add, dotProduct_sub it.z.get it.s.get, dotProduct_comm it.z.get it.s.get,
    dotProduct_comm it.z.get (inst.inequalityResidual it)]
  linarith

/-- At a feasible point the equality rows, weighted by duals, exceed those of a point by at most its
residual.
-/
theorem equality_term_le (feasible : inst.Feasible x')
    : it.y.get ⬝ᵥ (inst.equalityMatrix *ᵥ x' - inst.equalityMatrix *ᵥ it.x.get)
      ≤ maxNorm (inst.equalityResidual it) * sumNorm it.y.get := by
  have residual := neg_dotProduct_le (inst.equalityResidual it) it.y.get
  rw [feasible.equality, ← neg_sub, ← equalityResidual, dotProduct_neg, dotProduct_comm]
  exact residual

/-- No feasible point lies further below a point than its gap and weighted residuals allow. -/
theorem value_le_of_feasible (convex : inst.ConvexCost) (feasible : inst.Feasible x')
    (dual_nonneg : ∀ i, 0 ≤ it.z.get i)
    : inst.value it.x.get
      ≤ inst.value x' + it.s.get ⬝ᵥ it.z.get
        + maxNorm (inst.dualResidual it) * sumNorm (x' - it.x.get)
        + maxNorm (inst.inequalityResidual it) * sumNorm it.z.get
        + maxNorm (inst.equalityResidual it) * sumNorm it.y.get := by
  have tangent := tangent_le_value convex it.x.get x'
  rw [slope_eq it] at tangent
  have dual := neg_dotProduct_le (inst.dualResidual it) (x' - it.x.get)
  have inequality := inequality_term_le it feasible dual_nonneg
  have equality := equality_term_le it feasible
  linarith

-----------------------------------------------------------------------------------------
-- Certificates
-----------------------------------------------------------------------------------------

/-- The size against which constraint violations are measured. -/
def primalScale (inst : Instance K) : K :=
  1 + max (maxNorm inst.equalityVector) (maxNorm inst.inequalityVector)

/-- The size against which stationarity is measured at a point. -/
def dualScale (inst : Instance K) (x : Fin inst.numVars → K) : K :=
  1 + max (maxNorm inst.costVector) (maxNorm (inst.costMatrix *ᵥ x))

/-- Duals show that a point violates no row by much and that no feasible point costs much less. -/
structure Certifies (inst : Instance K) (tolerance : K) (x : Fin inst.numVars → K)
    (y : Fin inst.numEqualities → K) (z : Fin inst.numInequalities → K)
    : Prop where
  dual_nonneg : ∀ i, 0 ≤ z i
  inequality
    : ∀ i, (inst.inequalityMatrix *ᵥ x - inst.inequalityVector) i ≤ tolerance * inst.primalScale
  equality
    : ∀ i, |(inst.equalityMatrix *ᵥ x - inst.equalityVector) i| ≤ tolerance * inst.primalScale
  optimality
    : ∀ x', inst.Feasible x' →
      inst.value x
        ≤ inst.value x' + tolerance * (1 + |inst.value x|)
          + tolerance * inst.dualScale x * sumNorm (x' - x)
          + tolerance * inst.primalScale * (sumNorm z + sumNorm y)

/-- A point passes the stopping test. -/
structure Converged (inst : Instance K) (tolerance : K)
    (it : Iterate K inst.numVars inst.numInequalities inst.numEqualities)
    : Prop where
  equality : maxNorm (inst.equalityResidual it) ≤ tolerance * inst.primalScale
  inequality : maxNorm (inst.inequalityResidual it) ≤ tolerance * inst.primalScale
  dual : maxNorm (inst.dualResidual it) ≤ tolerance * inst.dualScale it.x.get
  gap : it.s.get ⬝ᵥ it.z.get ≤ tolerance * (1 + |inst.value it.x.get|)

omit [IsStrictOrderedRing K] in
/-- The stopping test of the sized form is the one of the instance. -/
theorem converged_toProgram (shaped : inst.WellShaped) {tolerance : K} {index : Nat} {step : K}
    (accepted
      : (inst.toProgram shaped).accepts tolerance ((inst.toProgram shaped).record index step it))
    : inst.Converged tolerance it := by
  simp only [Program.accepts, Program.converged, Program.record, Residuals.primalNorm,
    Residuals.dualNorm, Program.primalScale, Program.dualScale, Bool.and_eq_true,
    decide_eq_true_eq, Scalar.max_eq_max, Scalar.abs_eq_abs, Vec.maxAbs_eq_maxNorm, max_le_iff,
    residuals_toProgram_dual, residuals_toProgram_eq, residuals_toProgram_ineq, Iterate.gap,
    Vec.dot_eq_dotProduct, objective_toProgram, toProgram_b, toProgram_h, toProgram_q,
    Dense.get_mul, toProgram_P] at accepted
  obtain ⟨⟨⟨equality, inequality⟩, dual⟩, gap⟩ := accepted
  exact ⟨equality, inequality, dual, gap⟩

/-- An interior point that passes the stopping test is certified by its duals. -/
theorem Converged.certifies {it : Iterate K inst.numVars inst.numInequalities inst.numEqualities}
    {tolerance : K} (converged : inst.Converged tolerance it) (convex : inst.ConvexCost)
    (interior : it.Interior)
    : inst.Certifies tolerance it.x.get it.y.get it.z.get where
  dual_nonneg i := (interior.dual_pos i).le
  inequality i := by
    have residual := (le_abs_self _).trans (abs_le_maxNorm (inst.inequalityResidual it) i)
    have bounded := residual.trans converged.inequality
    simp only [inequalityResidual, Pi.sub_apply, Pi.add_apply] at bounded
    rw [Pi.sub_apply]
    linarith [interior.slack_pos i]
  equality i := (abs_le_maxNorm (inst.equalityResidual it) i).trans converged.equality
  optimality x' feasible := by
    have below := value_le_of_feasible it convex feasible fun i => (interior.dual_pos i).le
    have distance : 0 ≤ sumNorm (x' - it.x.get) := sumNorm_nonneg _
    have gap := converged.gap
    have dual := mul_le_mul_of_nonneg_right converged.dual distance
    have inequality := mul_le_mul_of_nonneg_right converged.inequality (sumNorm_nonneg it.z.get)
    have equality := mul_le_mul_of_nonneg_right converged.equality (sumNorm_nonneg it.y.get)
    rw [mul_add]
    linarith

end Instance

-----------------------------------------------------------------------------------------
-- Optimal answers
-----------------------------------------------------------------------------------------

namespace InteriorPoint

variable [NumberText K] {settings : Settings K} {options : Options K} {inst : Instance K}
  {solution : Solution K}

/-- An optimal answer on a convex instance is certified by the final duals of its run, and its
objective is the one of the instance.
-/
theorem certifies_of_optimal (convex : inst.ConvexCost) (fraction_pos : 0 < settings.stepFraction)
    (fraction_lt_one : settings.stepFraction < 1)
    (solved : solve settings options inst = .ok solution) (optimal : solution.status = .optimal)
    : ∃ run, start? settings options inst = .ok run
        ∧ solution.x = run.last.iterate.x.toList
        ∧ inst.Certifies (options.tolerance.getD settings.tolerance) run.last.iterate.x.get
            run.last.iterate.y.get run.last.iterate.z.get
        ∧ inst.objective? solution.x = some solution.objective := by
  obtain ⟨run, started, reports⟩ := solve_eq_ok solved
  obtain ⟨shaped, it, begun, traces⟩ := start?_eq_ok started
  have recorded := traces.recorded run.last_mem_records
  refine ⟨run, started, reports.point, ?_, ?_⟩
  · have interior : run.last.iterate.Interior :=
      traces.interior fraction_pos fraction_lt_one (Program.interior_start begun)
        run.last_mem_records
    have ending := Ending.eq_converged (optimal ▸ reports.status)
    have accepted := (ending ▸ traces.ends).accepted
    rw [recorded] at accepted
    exact (Instance.converged_toProgram _ shaped accepted).certifies convex interior
  · rw [reports.point, reports.objective, Instance.objective?_eq_value shaped, recorded]
    exact congrArg some (Instance.objective_toProgram shaped _).symm

theorem parabola_convex : Instance.parabola.ConvexCost := by
  have unit : Instance.parabola.costMatrix = 1 := by decide +kernel
  refine ⟨?_, fun v => ?_⟩
  · rw [unit]
    exact isSymm_one
  · rw [unit, one_mulVec]
    exact Finset.sum_nonneg fun i _ => mul_self_nonneg (v i)

/-- The answer on the parabola to a hundredth is certified by its final duals. -/
theorem parabola_certified
    : ∃ solution run,
      solve .standard ⟨false, some (1 / 100), none⟩ Instance.parabola = .ok solution
        ∧ solution.status = .optimal
        ∧ start? .standard ⟨false, some (1 / 100), none⟩ Instance.parabola = .ok run
        ∧ Instance.parabola.Certifies (1 / 100) run.last.iterate.x.get run.last.iterate.y.get
            run.last.iterate.z.get
        ∧ Instance.parabola.objective? solution.x = some solution.objective := by
  obtain ⟨solution, solved, optimal⟩
      : ∃ solution,
          solve .standard ⟨false, some (1 / 100), none⟩ Instance.parabola = .ok solution
            ∧ solution.status = .optimal :=
    ok_of_computed (by decide +kernel)
  obtain ⟨run, started, -, certified, objective⟩ :=
    certifies_of_optimal parabola_convex parabola_stepFraction.1 parabola_stepFraction.2 solved
      optimal
  exact ⟨solution, run, solved, optimal, started, certified, objective⟩

end InteriorPoint

end QuadraticTrials

import Mathlib
import QuadraticTrials.Proofs.Exact.Convexity
import QuadraticTrials.Proofs.Generator.WellPosed
import QuadraticTrials.Proofs.InteriorPoint.Descent

/-!
Strictly convex programs with independent equality rows are solved without a failure: the reduced
system is nonsingular for all weights that are not negative, and interior points give such weights.
-/

namespace QuadraticTrials

open Matrix

variable {K : Type} [Field K] [LinearOrder K] [IsStrictOrderedRing K] {n m p : Nat}

-----------------------------------------------------------------------------------------
-- Directions
-----------------------------------------------------------------------------------------

namespace Program

/-- The cost is definite and the equality rows are independent. -/
structure Solvable (prog : Program K n m p) : Prop where
  definite : Definite prog.P.toMatrix
  independent : LinearIndependent K prog.A.toMatrix.row

namespace Solvable

variable {prog : Program K n m p} (solvable : prog.Solvable)

include solvable

theorem det_reducedMatrix_ne_zero {d : Vector K m} (nonneg : ∀ i, 0 ≤ d.get i)
    : (prog.reducedMatrix d).toMatrix.det ≠ 0 := by
  have definite := solvable.definite.add_weighted prog.G.toMatrix nonneg
  rw [toMatrix_reducedMatrix, det_submatrix_equiv_self, toMatrix_hessian]
  exact definite.det_saddle_ne_zero solvable.independent

/-- The least-squares start exists, with unit weights. -/
theorem exists_leastSquaresStart? : ∃ it, prog.leastSquaresStart? = some it := by
  have nonneg (i : Fin m) : (0 : K) ≤ (Vector.replicate m (1 : K)).get i := by simp
  obtain ⟨both, solved⟩ := prog.exists_solveReduced? (solvable.det_reducedMatrix_ne_zero nonneg)
    (-prog.q + prog.G.transpose.mul prog.h) prog.b
  rw [leastSquaresStart?, solved]
  exact ⟨_, rfl⟩

/-- An interior point has a direction for every target, as its weights are positive. -/
theorem exists_direction? {it : Iterate K n m p} (interior : it.Interior)
    (res : Residuals K n m p) (target : Vector K m)
    : ∃ dir, prog.direction? it res target = some dir := by
  have nonneg (i : Fin m) : 0 ≤ (Vec.quotient it.z it.s).get i := by
    rw [Vec.get_quotient]
    exact (div_pos (interior.dual_pos i) (interior.slack_pos i)).le
  exact prog.exists_direction? (solvable.det_reducedMatrix_ne_zero nonneg) res target

/-- At an interior point the search finds all its directions. -/
theorem regular {r : Record K n m p} (interior : r.iterate.Interior) (fraction : K)
    : prog.Regular fraction r := by
  obtain ⟨affine, predicted⟩ := solvable.exists_direction? interior r.residuals
    (Vec.times r.iterate.s r.iterate.z)
  obtain ⟨dir, corrected⟩ : ∃ dir, prog.correctedDirection? r affine = some dir :=
    solvable.exists_direction? interior r.residuals _
  have found : prog.Corrected r affine dir := .found predicted corrected
  by_cases improving : prog.improves r dir (firstLength fraction r dir)
  · exact .corrected found improving
  · obtain ⟨damped, centered⟩ : ∃ damped, prog.dampedDirection? r affine = some damped :=
      solvable.exists_direction? interior r.residuals _
    exact .damped (.found found improving centered)

/-- No run of interior points ends at a singular system. -/
theorem ending_ne_singular {fraction tolerance : K} {cap : Nat} {start : Record K n m p}
    {run : Run K n m p} (traces : prog.Traces fraction tolerance cap start run)
    (interior : run.last.iterate.Interior)
    : run.ending ≠ .singular := by
  intro singular
  have ends := traces.ends
  rw [singular] at ends
  cases ends with
  | singular continued within moved =>
      exact not_regular_of_singular moved (solvable.regular interior fraction)

end Solvable

end Program

-----------------------------------------------------------------------------------------
-- Instances
-----------------------------------------------------------------------------------------

namespace Instance

variable {inst : Instance K}

/-- The saddle point matrix of an instance for weights of its inequality rows. -/
def saddleMatrix {K : Type} [Field K] (inst : Instance K) (d : Fin inst.numInequalities → K)
    : Matrix (Fin inst.numVars ⊕ Fin inst.numEqualities) (Fin inst.numVars ⊕ Fin inst.numEqualities)
        K :=
  fromBlocks (inst.costMatrix + inst.inequalityMatrixᵀ * (diagonal d * inst.inequalityMatrix))
    inst.equalityMatrixᵀ inst.equalityMatrix 0

/-- The matrix that is assembled for some weights is the saddle point matrix, and nonsingular. -/
structure Determined {K : Type} [Field K] [LinearOrder K] (inst : Instance K)
    (shaped : inst.WellShaped) (d : Vector K inst.numInequalities)
    : Prop where
  assembled
    : ((inst.toProgram shaped).reducedMatrix d).toMatrix
      = (inst.saddleMatrix d.get).submatrix finSumFinEquiv.symm finSumFinEquiv.symm
  nonsingular : ((inst.toProgram shaped).reducedMatrix d).toMatrix.det ≠ 0

omit [IsStrictOrderedRing K] in
theorem solvable_toProgram (convex : inst.StrictlyConvexCost)
    (independent : LinearIndependent K inst.equalityMatrix.row) (shaped : inst.WellShaped)
    : (inst.toProgram shaped).Solvable := by
  constructor
  · rw [toProgram_P]
    exact convex.definite
  · rw [toProgram_A]
    exact independent

theorem determined (convex : inst.StrictlyConvexCost)
    (independent : LinearIndependent K inst.equalityMatrix.row) (shaped : inst.WellShaped)
    {d : Vector K inst.numInequalities} (nonneg : ∀ i, 0 ≤ d.get i)
    : inst.Determined shaped d := by
  constructor
  · rw [Program.toMatrix_reducedMatrix, Program.toMatrix_hessian, toProgram_P, toProgram_G,
      toProgram_A, saddleMatrix]
  · exact (solvable_toProgram convex independent shaped).det_reducedMatrix_ne_zero nonneg

/-- The origin is a start where it is strictly feasible. -/
theorem exists_originStart (origin : inst.StrictlyFeasible 0) (shaped : inst.WellShaped)
    : ∃ it, (inst.toProgram shaped).originStart = .ok it := by
  apply Program.exists_originStart
  · intro i
    have inside := origin.inequality i
    rwa [mulVec_zero, ← toProgram_h shaped] at inside
  · rw [toProgram_b, ← origin.equality, mulVec_zero]

end Instance

/-- A run that does not end at a singular system is answered. -/
theorem Run.exists_reports {F : Type} {run : Run F n m p} (regular : run.ending ≠ .singular)
    : ∃ solution,
        run.Reports solution ∧ solution.status ∈ [.optimal, .maxIterations, .numericalError] := by
  obtain ⟨status, ended, listed⟩
      : ∃ status, run.ending.status? = some status
          ∧ status ∈ [.optimal, .maxIterations, .numericalError] := by
    cases ending : run.ending with
    | converged => exact ⟨.optimal, rfl, by decide⟩
    | exhausted => exact ⟨.maxIterations, rfl, by decide⟩
    | stalled => exact ⟨.numericalError, rfl, by decide⟩
    | singular => exact absurd ending regular
  exact ⟨⟨run.last.iterate.x.toList, status, run.last.objective, run.last.index⟩,
    ⟨rfl, ended, rfl, rfl⟩, listed⟩

namespace InteriorPoint

variable [NumberText K] {settings : Settings K} {options : Options K} {inst : Instance K}

omit [IsStrictOrderedRing K] in
/-- A run begins on a valid instance if the tolerance is positive and there is a starting point. -/
theorem exists_start? (valid : inst.validate = .ok ())
    (tolerance_pos : 0 < options.tolerance.getD settings.tolerance)
    (begins
      : ∀ shaped, ∃ it, (inst.toProgram shaped).start settings.infeasibleStart = .ok it)
    : ∃ run, start? settings options inst = .ok run := by
  have passed := Instance.check_of_validate valid
  have usable : Scalar.isPositive (settings.withOptions options).tolerance = true := by
    rw [Scalar.isPositive_eq_true_iff]
    exact tolerance_pos
  obtain ⟨it, begun⟩ := begins (Instance.wellShaped_of_check passed)
  have begun' : (inst.toProgram (Instance.wellShaped_of_check passed)).start
      (settings.withOptions options).infeasibleStart = .ok it := begun
  unfold start?
  split
  case h_1 fault failed =>
    rw [passed] at failed
    cases failed
  case h_2 passed' =>
    rw [run?, if_pos usable, begun']
    exact ⟨_, rfl⟩

/-- A solve comes to an answer: its run ends at the stopping test, at the cap or at a step that is
too short, and the reduced system is nonsingular at the start and at every visited point.
-/
structure Succeeds (settings : Settings K) (options : Options K) (inst : Instance K)
    (run : Run K inst.numVars inst.numInequalities inst.numEqualities) (solution : Solution K)
    : Prop where
  started : start? settings options inst = .ok run
  solved : solve settings options inst = .ok solution
  status : solution.status ∈ [.optimal, .maxIterations, .numericalError]
  shaped : inst.WellShaped
  start : inst.Determined shaped (Vector.replicate _ 1)
  visited
    : ∀ r ∈ run.records, inst.Determined shaped (Vec.quotient r.iterate.z r.iterate.s)

/-- A strictly convex instance with independent equality rows is answered wherever a run begins. -/
theorem succeeds_of_begins (valid : inst.validate = .ok ()) (convex : inst.StrictlyConvexCost)
    (independent : LinearIndependent K inst.equalityMatrix.row)
    (fraction_pos : 0 < settings.stepFraction) (fraction_lt_one : settings.stepFraction < 1)
    (tolerance_pos : 0 < options.tolerance.getD settings.tolerance)
    (begins
      : ∀ shaped, ∃ it, (inst.toProgram shaped).start settings.infeasibleStart = .ok it)
    : ∃ run solution, Succeeds settings options inst run solution := by
  obtain ⟨run, started⟩ := exists_start? valid tolerance_pos begins
  obtain ⟨shaped, it, begun, traces⟩ := start?_eq_ok started
  have interior {r : Record K _ _ _} (visited : r ∈ run.records) : r.iterate.Interior :=
    traces.interior fraction_pos fraction_lt_one (Program.interior_start begun) visited
  have solvable := Instance.solvable_toProgram convex independent shaped
  obtain ⟨solution, reports, status⟩ :=
    Run.exists_reports (solvable.ending_ne_singular traces (interior run.last_mem_records))
  refine ⟨run, solution, {
    started
    solved := solve_of_reports started reports
    status
    shaped
    start := Instance.determined convex independent shaped fun i => ?_
    visited := fun r visited => Instance.determined convex independent shaped fun i => ?_
  }⟩
  · simp
  · rw [Vec.get_quotient]
    exact (div_pos ((interior visited).dual_pos i) ((interior visited).slack_pos i)).le

/-- No solve fails on a valid strictly convex instance with independent equality rows from the
least-squares start, nor on a generated instance from either start.
-/
theorem succeeds_of_strictlyConvex [SymmetricSpectrum K] [SymmetricSpectrum.Exact K]
    (settings : Settings K) (options : Options K) (fraction_pos : 0 < settings.stepFraction)
    (fraction_lt_one : settings.stepFraction < 1)
    (tolerance_pos : 0 < options.tolerance.getD settings.tolerance)
    : (∀ inst : Instance K,
        inst.validate = .ok () → inst.StrictlyConvexCost →
          LinearIndependent K inst.equalityMatrix.row → settings.infeasibleStart = true →
            ∃ run solution, Succeeds settings options inst run solution)
        ∧ ∀ (g g' : Generator K) (scale : K) (inst : Instance K),
            g.generate scale = (.ok inst, g') →
              inst.validate = .ok () ∧ inst.StrictlyConvexCost
                ∧ LinearIndependent K inst.equalityMatrix.row
                ∧ ∃ run solution, Succeeds settings options inst run solution := by
  have leastSquares {inst : Instance K} (convex : inst.StrictlyConvexCost)
      (independent : LinearIndependent K inst.equalityMatrix.row) (shaped : inst.WellShaped)
      : ∃ it, (inst.toProgram shaped).start true = .ok it := by
    obtain ⟨it, found⟩ :=
      (Instance.solvable_toProgram convex independent shaped).exists_leastSquaresStart?
    exact ⟨it, by simp [Program.start, found]⟩
  constructor
  · intro inst valid convex independent chosen
    refine succeeds_of_begins valid convex independent fraction_pos fraction_lt_one tolerance_pos ?_
    rw [chosen]
    exact leastSquares convex independent
  · intro g g' scale inst made
    obtain ⟨factor, first, second, block?, draws⟩ := Generator.draws_of_generate made
    have valid := draws.wellPosed.valid
    have convex := draws.strictlyConvex
    have independent : LinearIndependent K inst.equalityMatrix.row := by
      rw [draws.assembled]
      exact Generator.equalityMatrix_independent draws.equality
    refine ⟨valid, convex, independent,
      succeeds_of_begins valid convex independent fraction_pos fraction_lt_one tolerance_pos ?_⟩
    cases settings.infeasibleStart with
    | true => exact leastSquares convex independent
    | false => exact Instance.exists_originStart draws.strictlyFeasible_zero

/-- Real numbers are neither written nor stored. -/
instance : NumberText ℝ where
  plain _ := ""
  fixed _ _ := ""
  scientific _ _ := ""
  toLiteral? _ := none
  ofLiteral? _ := none

/-- The minimization of `½ |x|² - x₁` under the fixed inequalities and the equality. -/
noncomputable def disc : Instance ℝ :=
  Generator.assemble #v[#v[1, 0], #v[0, 1]] (-1) 0 (some Generator.sumToZero)

theorem disc_convex : disc.StrictlyConvexCost := by
  have unit : Dense.toMatrix (#v[#v[1, 0], #v[0, 1]] : Dense ℝ 2 2) = 1 := by
    ext i j
    fin_cases i <;> fin_cases j <;> rfl
  constructor
  · rw [disc, Generator.costMatrix_assemble, unit]
    exact isSymm_one
  · rw [disc, Generator.costMatrix_assemble, unit]
    exact Definite.one

/-- The standard settings answer on the disc, and from the origin on what seed seven gives. -/
theorem disc_succeeds
    : (∃ run solution, Succeeds .standard .quiet disc run solution)
      ∧ ∃ inst g',
          (Generator.ofSeed 7 (1 / 2) : Generator ℝ).generate 100 = (.ok inst, g')
            ∧ ∃ run solution,
                Succeeds { Settings.standard with infeasibleStart := false } .quiet inst run
                  solution := by
  have fraction : 0 < (Settings.standard : Settings ℝ).stepFraction
      ∧ (Settings.standard : Settings ℝ).stepFraction < 1 := by
    norm_num [Settings.standard, Scalar.ratio_eq_div]
  have tolerance : 0 < (Settings.standard : Settings ℝ).tolerance := by
    norm_num [Settings.standard, Scalar.decimal_eq_div]
  obtain ⟨inst, g', made⟩ := Generator.exists_generated_seven
  constructor
  · refine (succeeds_of_strictlyConvex .standard .quiet fraction.1 fraction.2 tolerance).1 disc ?_
      disc_convex (Generator.equalityMatrix_independent (.inr rfl)) rfl
    rw [Instance.validate, disc, Generator.check_assemble (.inr rfl)]
    rfl
  · obtain ⟨-, -, -, succeeds⟩ := (succeeds_of_strictlyConvex
      { Settings.standard with infeasibleStart := false } .quiet fraction.1 fraction.2
      tolerance).2 _ _ _ _ made
    exact ⟨inst, g', made, succeeds⟩

end InteriorPoint

end QuadraticTrials

import Mathlib
import QuadraticTrials.Proofs.InteriorPoint.Certificate
import QuadraticTrials.Proofs.InteriorPoint.Cutoff
import QuadraticTrials.Proofs.InteriorPoint.NewtonSystem

/-!
Programs without inequality rows. One linear system describes their stationary point: the
least-squares start solves it, and from any other point a full step does, so that a solve takes at
most one step.
-/

namespace QuadraticTrials

open Matrix

variable {K : Type} [Field K] [LinearOrder K]

-----------------------------------------------------------------------------------------
-- Stationary points of an instance
-----------------------------------------------------------------------------------------

namespace Instance

variable {inst : Instance K} {x x' : Fin inst.numVars → K} {y y' : Fin inst.numEqualities → K}

/-- The matrix of the optimality conditions under equality rows alone. -/
def stationaryMatrix {K : Type} [Field K] (inst : Instance K)
    : Matrix (Fin inst.numVars ⊕ Fin inst.numEqualities) (Fin inst.numVars ⊕ Fin inst.numEqualities)
        K :=
  fromBlocks inst.costMatrix inst.equalityMatrixᵀ inst.equalityMatrix 0

/-- A point that satisfies the equality rows, with duals that balance the slope of the cost. -/
structure Stationary {K : Type} [Field K] (inst : Instance K) (x : Fin inst.numVars → K)
    (y : Fin inst.numEqualities → K)
    : Prop where
  slope : inst.costMatrix *ᵥ x + inst.costVector + inst.equalityMatrixᵀ *ᵥ y = 0
  rows : inst.equalityMatrix *ᵥ x = inst.equalityVector

omit [LinearOrder K] in
theorem Stationary.mulVec_eq (stationary : inst.Stationary x y)
    : inst.stationaryMatrix *ᵥ Sum.elim x y = Sum.elim (-inst.costVector) inst.equalityVector := by
  rw [stationaryMatrix, fromBlocks_mulVec, Sum.elim_comp_inl, Sum.elim_comp_inr, zero_mulVec,
    add_zero, stationary.rows]
  congr 1
  linear_combination stationary.slope

omit [LinearOrder K] in
/-- A nonsingular system leaves no choice of the stationary point and its duals. -/
theorem Stationary.unique (nonsingular : inst.stationaryMatrix.det ≠ 0)
    (first : inst.Stationary x y) (second : inst.Stationary x' y')
    : x' = x ∧ y' = y := by
  have same := mulVec_injective_of_det_ne_zero nonsingular
    (second.mulVec_eq.trans first.mulVec_eq.symm)
  exact ⟨by simpa using congrArg (· ∘ Sum.inl) same, by simpa using congrArg (· ∘ Sum.inr) same⟩

/-- Under a convex cost no other point of the equality rows costs less than a stationary point,
towards which the slope of the cost is a combination of the rows.
-/
theorem Stationary.value_le [IsStrictOrderedRing K] (convex : inst.ConvexCost)
    (stationary : inst.Stationary x y) (rows : inst.equalityMatrix *ᵥ x' = inst.equalityVector)
    : inst.value x ≤ inst.value x' := by
  have tangent := tangent_le_value convex x x'
  have slope : inst.costMatrix *ᵥ x + inst.costVector = -(inst.equalityMatrixᵀ *ᵥ y) :=
    eq_neg_of_add_eq_zero_left stationary.slope
  have flat : inst.equalityMatrixᵀ *ᵥ y ⬝ᵥ (x' - x) = 0 := by
    rw [mulVec_transpose, ← dotProduct_mulVec, mulVec_sub, rows, stationary.rows, sub_self,
      dotProduct_zero]
  rwa [slope, neg_dotProduct, flat, neg_zero, add_zero] at tangent

end Instance

-----------------------------------------------------------------------------------------
-- Runs without inequality rows
-----------------------------------------------------------------------------------------

namespace Program

variable {n m p : Nat} {prog : Program K n m p} {it : Iterate K n m p} {fraction tolerance : K}

/-- All residuals of a point vanish but those of the inequality rows. -/
structure Settled (prog : Program K n m p) (it : Iterate K n m p) : Prop where
  dual : (prog.residuals it).dual.get = 0
  eq : (prog.residuals it).eq.get = 0

/-- A full step from any point leads to a settled one. -/
theorem settled_advance {r : Record K n m p} {dir : Direction K n m p}
    (recorded : r.residuals = prog.residuals r.iterate) (found : prog.affineDirection? r = some dir)
    : prog.Settled (r.iterate.advance dir 1) := by
  rw [affineDirection?, recorded] at found
  have left := residuals_advance (direction?_removes found) 1
  constructor <;> simp [left, Residuals.scale]

section Free

variable (free : m = 0)

include free

omit [LinearOrder K] in
/-- No rows have no entries but zero. -/
theorem eq_zero_of_free (v : Fin m → K) : v = 0 := by
  subst free
  exact Subsingleton.elim v 0

omit [LinearOrder K] in
/-- No rows combine to nothing. -/
theorem transpose_mulVec_of_free (v : Fin m → K) : prog.G.toMatrixᵀ *ᵥ v = 0 := by
  rw [eq_zero_of_free free v, mulVec_zero]

theorem toMatrix_hessian_of_free (d : Vector K m)
    : (prog.hessian d).toMatrix = prog.P.toMatrix := by
  refine ext_of_mulVec_single fun j => ?_
  rw [toMatrix_hessian, add_mulVec, ← mulVec_mulVec, transpose_mulVec_of_free free, add_zero]

/-- Any weights leave the same reduced system. -/
theorem det_reducedMatrix_of_free (d : Vector K m)
    : (prog.reducedMatrix d).toMatrix.det
      = (fromBlocks prog.P.toMatrix prog.A.toMatrixᵀ prog.A.toMatrix 0).det := by
  rw [toMatrix_reducedMatrix, det_submatrix_equiv_self, toMatrix_hessian_of_free free]

/-- The least-squares start already satisfies the optimality conditions. -/
theorem settled_leastSquaresStart (found : prog.leastSquaresStart? = some it)
    : prog.Settled it := by
  refine ⟨?_, eq_leastSquaresStart found⟩
  obtain ⟨⟨x, y⟩, solved, rfl⟩ := Option.map_eq_some_iff.mp found
  have top := (solveReduced?_sound solved).1
  simp only [toMatrix_hessian_of_free free, Vec.get_add, Vec.get_neg, Dense.get_mul,
    Dense.toMatrix_transpose, transpose_mulVec_of_free free] at top
  simp only [get_residuals_dual, transpose_mulVec_of_free free]
  linear_combination top

variable [IsStrictOrderedRing K]

/-- The least-squares start is missing exactly if the system is singular. -/
theorem leastSquaresStart?_eq_none_iff
    : prog.leastSquaresStart? = none
      ↔ (fromBlocks prog.P.toMatrix prog.A.toMatrixᵀ prog.A.toMatrix 0).det = 0 := by
  rw [leastSquaresStart?, Option.map_eq_none_iff,
    ← det_reducedMatrix_of_free free (Vector.replicate m 1)]
  constructor
  · intro missing
    by_contra nonsingular
    obtain ⟨both, solved⟩ := prog.exists_solveReduced? nonsingular
      (-prog.q + prog.G.transpose.mul prog.h) prog.b
    cases missing.symm.trans solved
  · intro singular
    refine Option.eq_none_iff_forall_ne_some.mpr fun both solved => ?_
    exact (solveReduced?_eq_some_iff.mp solved).1 singular

/-- A settled point passes the stopping test at every positive tolerance. -/
theorem accepts_of_settled (settled : prog.Settled it) (tolerance_pos : 0 < tolerance)
    (index : Nat) (step : K)
    : prog.accepts tolerance (prog.record index step it) = true := by
  have small (size : K) (nonneg : 0 ≤ size) : 0 ≤ tolerance * (1 + size) :=
    mul_nonneg tolerance_pos.le (add_nonneg zero_le_one nonneg)
  simp only [accepts, converged, record, primalScale, dualScale, Residuals.primalNorm,
    Residuals.dualNorm, Iterate.gap, Bool.and_eq_true, decide_eq_true_eq, Scalar.max_eq_max,
    Scalar.abs_eq_abs, Vec.maxAbs_eq_maxNorm, Vec.dot_eq_dotProduct, settled.dual, settled.eq,
    eq_zero_of_free free (prog.residuals it).ineq.get, eq_zero_of_free free it.s.get, maxNorm_zero,
    max_self, zero_dotProduct]
  refine ⟨⟨small _ ?_, small _ ?_⟩, small _ (abs_nonneg _)⟩
  · exact le_max_of_le_left (maxNorm_nonneg _)
  · exact le_max_of_le_left (maxNorm_nonneg _)

/-- A run without inequality rows is over after one full step at the latest. -/
theorem run_of_free
    (nonsingular : (fromBlocks prog.P.toMatrix prog.A.toMatrixᵀ prog.A.toMatrix 0).det ≠ 0)
    (tolerance_pos : 0 < tolerance) {cap : Nat} (within : 1 ≤ cap) (it : Iterate K n m p)
    : prog.run fraction tolerance cap it = ⟨[], prog.record 0 0 it, .converged⟩
      ∨ ∃ next, prog.Settled next
          ∧ prog.run fraction tolerance cap it
            = ⟨[prog.record 0 0 it], prog.record 1 1 next, .converged⟩ := by
  obtain ⟨cap, rfl⟩ : ∃ rest, cap = rest + 1 := ⟨cap - 1, by omega⟩
  by_cases accepted : prog.accepts tolerance (prog.record 0 0 it) = true
  · exact .inl (runFrom_of_accepts accepted)
  rw [← det_reducedMatrix_of_free free (Vec.quotient it.z it.s)] at nonsingular
  obtain ⟨dir, found⟩ :=
    prog.exists_direction? nonsingular (prog.residuals it) (Vec.times it.s it.z)
  have moved : prog.move fraction (prog.record 0 0 it) = .advance (it.advance dir 1) 1 := by
    rw [move, show prog.affineDirection? (prog.record 0 0 it) = some dir from found]
    exact if_pos free
  have settled : prog.Settled (it.advance dir 1) :=
    settled_advance (r := prog.record 0 0 it) rfl found
  have stopped := accepts_of_settled free settled tolerance_pos 1 1
  refine .inr ⟨_, settled, ?_⟩
  rw [run, runFrom, if_neg accepted]
  simp only [moved]
  rw [show (prog.record 0 0 it).index + 1 = 1 from rfl, runFrom_of_accepts stopped]

end Free

end Program

-----------------------------------------------------------------------------------------
-- Solves without inequality rows
-----------------------------------------------------------------------------------------

namespace Instance

variable {inst : Instance K} (shaped : inst.WellShaped)

omit [Field K] [LinearOrder K] in
include shaped in
theorem numInequalities_eq_zero (free : ∀ block ∈ inst.inequality, block.matrix.rows = 0)
    : inst.numInequalities = 0 := by
  unfold numInequalities
  cases found : inst.inequality with
  | none => rfl
  | some block => exact (shaped.inequality block found).rows_eq.symm.trans (free block found)

omit [LinearOrder K] in
theorem stationaryMatrix_eq
    : fromBlocks (inst.toProgram shaped).P.toMatrix (inst.toProgram shaped).A.toMatrixᵀ
          (inst.toProgram shaped).A.toMatrix 0
        = inst.stationaryMatrix := by
  rw [toProgram_P, toProgram_A, stationaryMatrix]

/-- A settled point of the sized form is stationary. -/
theorem stationary_of_settled (free : inst.numInequalities = 0)
    {it : Iterate K inst.numVars inst.numInequalities inst.numEqualities}
    (settled : (inst.toProgram shaped).Settled it)
    : inst.Stationary it.x.get it.y.get := by
  obtain ⟨slope, rows⟩ := settled
  rw [Program.get_residuals_dual, Program.transpose_mulVec_of_free free, add_zero, toProgram_P,
    toProgram_q, toProgram_A] at slope
  rw [Program.get_residuals_eq, toProgram_A, toProgram_b] at rows
  exact ⟨slope, sub_eq_zero.mp rows⟩

end Instance

namespace InteriorPoint

variable [NumberText K] {settings : Settings K} {options : Options K} {inst : Instance K}

section Started

variable (passed : inst.check = .ok ())
  (usable : Scalar.isPositive (settings.withOptions options).tolerance = true)

include usable

/-- A start that is missing is the fault of the solve. -/
theorem solve_of_start_error {fault : Fault K}
    (failed
      : (inst.toProgram (Instance.wellShaped_of_check passed)).start settings.infeasibleStart
        = .error fault)
    : solve settings options inst = .error fault.toError := by
  have stopped : start? settings options inst = .error fault.toError := by
    unfold start?
    split
    case h_1 other refused => cases passed.symm.trans refused
    case h_2 =>
      rw [run?, if_pos usable]
      simp only [Settings.withOptions] at failed ⊢
      rw [failed]
      rfl
  rw [solve, stopped]

variable {it : Iterate K inst.numVars inst.numInequalities inst.numEqualities}
  (begun
    : (inst.toProgram (Instance.wellShaped_of_check passed)).start settings.infeasibleStart
      = .ok it)

include begun

/-- A run that converges is reported with the cost of its last point. -/
theorem solve_of_converged {earlier : List (Record K _ _ _)} {index : Nat} {step : K}
    {last : Iterate K inst.numVars inst.numInequalities inst.numEqualities}
    (converged
      : (inst.toProgram (Instance.wellShaped_of_check passed)).run settings.stepFraction
          (settings.withOptions options).tolerance (settings.withOptions options).maxIterations it
        = ⟨earlier, (inst.toProgram (Instance.wellShaped_of_check passed)).record index step last,
            .converged⟩)
    : solve settings options inst
      = .ok ⟨last.x.toList, .optimal, inst.value last.x.get, index⟩ := by
  have started := start?_eq_ok_iff.mpr ⟨passed, it, usable, begun, converged⟩
  exact solve_of_reports started ⟨rfl, rfl, (Instance.objective_toProgram _ last.x).symm, rfl⟩

variable [IsStrictOrderedRing K] (free : inst.numInequalities = 0)

include free

/-- A settled start is reported without a step, whatever the cap is. -/
theorem solve_of_settled_start
    (settled : (inst.toProgram (Instance.wellShaped_of_check passed)).Settled it)
    : solve settings options inst
      = .ok ⟨it.x.toList, .optimal, inst.value it.x.get, 0⟩ := by
  have accepted := Program.accepts_of_settled free settled
    (Scalar.isPositive_eq_true_iff.mp usable) 0 0
  exact solve_of_converged passed usable begun (Program.runFrom_of_accepts accepted)

/-- Under a cap of at least one either the start is reported or a settled point after one step. -/
theorem solve_of_free (nonsingular : inst.stationaryMatrix.det ≠ 0)
    (within : 1 ≤ (settings.withOptions options).maxIterations)
    : solve settings options inst = .ok ⟨it.x.toList, .optimal, inst.value it.x.get, 0⟩
      ∨ ∃ next, (inst.toProgram (Instance.wellShaped_of_check passed)).Settled next
          ∧ solve settings options inst
            = .ok ⟨next.x.toList, .optimal, inst.value next.x.get, 1⟩ := by
  rw [← Instance.stationaryMatrix_eq (Instance.wellShaped_of_check passed)] at nonsingular
  rcases Program.run_of_free free nonsingular (Scalar.isPositive_eq_true_iff.mp usable) within it
    with stopped | ⟨next, settled, stepped⟩
  · exact .inl (solve_of_converged passed usable begun stopped)
  · exact .inr ⟨next, settled, solve_of_converged passed usable begun stepped⟩

end Started

/-- Both starts lead to one point, whatever the settings are: the least-squares start is reported as
it, without a step, and the origin either passes the stopping test or is followed by it.
-/
structure SolvedAtOnce (inst : Instance K) (x : Vector K inst.numVars) : Prop where
  leastSquares
    : ∀ (settings : Settings K) (options : Options K), settings.infeasibleStart = true →
      0 < options.tolerance.getD settings.tolerance →
      solve settings options inst = .ok ⟨x.toList, .optimal, inst.value x.get, 0⟩
  origin
    : ∀ (settings : Settings K) (options : Options K), settings.infeasibleStart = false →
      0 < options.tolerance.getD settings.tolerance →
      1 ≤ options.maxIterations.getD settings.maxIterations → inst.equalityVector = 0 →
      solve settings options inst = .ok ⟨List.replicate inst.numVars 0, .optimal, 0, 0⟩
        ∨ solve settings options inst = .ok ⟨x.toList, .optimal, inst.value x.get, 1⟩

variable [IsStrictOrderedRing K]

/-- A nonsingular system makes the least-squares start the only settled point, so that a step from the
origin can lead nowhere else.
-/
theorem solvedAtOnce_of_leastSquaresStart (passed : inst.check = .ok ())
    (free : inst.numInequalities = 0) (nonsingular : inst.stationaryMatrix.det ≠ 0)
    {it : Iterate K inst.numVars inst.numInequalities inst.numEqualities}
    (found : (inst.toProgram (Instance.wellShaped_of_check passed)).leastSquaresStart? = some it)
    : SolvedAtOnce inst it.x where
  leastSquares settings options chosen tolerance_pos := by
    refine solve_of_settled_start passed (Scalar.isPositive_eq_true_iff.mpr tolerance_pos) ?_ free
      (Program.settled_leastSquaresStart free found)
    rw [Program.start, if_pos chosen, found]
  origin settings options chosen tolerance_pos within vanishing := by
    obtain ⟨origin, accepted⟩
        : ∃ it, (inst.toProgram (Instance.wellShaped_of_check passed)).originStart = .ok it :=
      Program.exists_originStart (fun i => (Fin.cast free i).elim0)
        ((Instance.toProgram_b _).trans vanishing)
    have begun
        : (inst.toProgram (Instance.wellShaped_of_check passed)).start settings.infeasibleStart
          = .ok origin := by
      rw [Program.start, if_neg (by simp [chosen]), accepted]
    obtain ⟨-, -, rfl⟩ := Program.originStart_eq_ok accepted
    rcases solve_of_free passed (Scalar.isPositive_eq_true_iff.mpr tolerance_pos) begun free
        nonsingular within with stopped | ⟨next, settled, stepped⟩
    · refine .inl ?_
      rw [stopped]
      simp [Instance.value]
    · have first := Instance.stationary_of_settled _ free
        (Program.settled_leastSquaresStart free found)
      have same := first.unique nonsingular (Instance.stationary_of_settled _ free settled)
      rw [stepped, Vec.ext_get same.1]
      exact .inr rfl

/-- Without inequality rows a singular system of the optimality conditions leaves no least-squares
start. A nonsingular one has a single solution, to which both starts lead in at most one step; under
a convex cost it is a minimizer.
-/
theorem solves_at_once (valid : inst.validate = .ok ())
    (free : ∀ block ∈ inst.inequality, block.matrix.rows = 0)
    : (inst.stationaryMatrix.det = 0 →
        ∀ (settings : Settings K) (options : Options K), settings.infeasibleStart = true →
        0 < options.tolerance.getD settings.tolerance →
        solve settings options inst
          = .error (.solverFailure name "singular KKT system at initial point"))
      ∧ (inst.stationaryMatrix.det ≠ 0 →
        ∃ (x : Vector K inst.numVars) (y : Fin inst.numEqualities → K),
          inst.Stationary x.get y
            ∧ (∀ x' y', inst.Stationary x' y' → x' = x.get ∧ y' = y)
            ∧ SolvedAtOnce inst x
            ∧ (inst.ConvexCost →
              ∀ x', inst.equalityMatrix *ᵥ x' = inst.equalityVector →
                inst.value x.get ≤ inst.value x')) := by
  have passed := Instance.check_of_validate valid
  have shaped := Instance.wellShaped_of_check passed
  have free := Instance.numInequalities_eq_zero shaped free
  have missing
      : (inst.toProgram shaped).leastSquaresStart? = none ↔ inst.stationaryMatrix.det = 0 := by
    rw [Program.leastSquaresStart?_eq_none_iff free, Instance.stationaryMatrix_eq shaped]
  constructor
  · intro singular settings options chosen tolerance_pos
    have failed
        : (inst.toProgram shaped).start settings.infeasibleStart = .error .singularStart := by
      rw [Program.start, if_pos chosen, missing.mpr singular]
    exact solve_of_start_error passed (Scalar.isPositive_eq_true_iff.mpr tolerance_pos) failed
  · intro nonsingular
    obtain ⟨it, found⟩ := Option.ne_none_iff_exists'.mp (mt missing.mp nonsingular)
    have stationary := Instance.stationary_of_settled shaped free
      (Program.settled_leastSquaresStart free found)
    exact ⟨it.x, it.y.get, stationary, fun x' y' => stationary.unique nonsingular,
      solvedAtOnce_of_leastSquaresStart passed free nonsingular found,
      fun convex x' => stationary.value_le convex⟩

/-- The minimization of `x`, which has no least value. -/
def slope : Instance ℚ :=
  ⟨⟨1, 1, .replicate 1 (.replicate 1 0)⟩, [1], none, none⟩

/-- The minimization of `|x|² - x₁` under `x₁ + x₂ = 0`, with an inequality block of no rows. -/
def chord : Instance ℚ :=
  ⟨⟨2, 2, #v[#v[2, 0], #v[0, 2]]⟩, [-1, 0], some ⟨⟨0, 2, #v[]⟩, []⟩,
    some ⟨⟨1, 2, .replicate 1 (.replicate 2 1)⟩, [0]⟩⟩

/-- The slope has no least-squares start. Both starts lead to one point of the chord, the origin by
one step.
-/
theorem chord_solved
    : solve .standard .quiet slope
        = .error (.solverFailure name "singular KKT system at initial point")
      ∧ ∃ x : Vector ℚ chord.numVars,
        solve .standard .quiet chord = .ok ⟨x.toList, .optimal, chord.value x.get, 0⟩
          ∧ solve { Settings.standard with infeasibleStart := false } .quiet chord
            = .ok ⟨x.toList, .optimal, chord.value x.get, 1⟩ := by
  have tolerance : 0 < (Settings.standard : Settings ℚ).tolerance := by
    norm_num [Settings.standard, Scalar.decimal_eq_div]
  constructor
  · exact (solves_at_once (by decide +kernel) (by simp [slope])).1 (by decide +kernel) _ _ rfl
      tolerance
  · have valid : chord.validate = .ok () := by decide +kernel
    obtain ⟨x, y, -, -, solved, -⟩ := (solves_at_once valid (by simp [chord])).2 (by decide +kernel)
    refine ⟨x, solved.leastSquares _ _ rfl tolerance, ?_⟩
    have stepped
        : (solve { Settings.standard with infeasibleStart := false } .quiet chord).toOption.map
            Solution.iterations
          = some 1 := by
      decide +kernel
    refine (solved.origin { Settings.standard with infeasibleStart := false } .quiet rfl tolerance
      (by decide) (by decide +kernel)).resolve_left fun stopped => ?_
    rw [stopped] at stepped
    cases stepped

end InteriorPoint

end QuadraticTrials

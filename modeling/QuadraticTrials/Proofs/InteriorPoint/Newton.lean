import Mathlib
import QuadraticTrials.InteriorPoint.Newton
import QuadraticTrials.Proofs.Exact.Elimination

/-!
Newton directions over an ordered field. The reduced system is the saddle point system of the
program, and its solutions solve the linear optimality conditions whatever the weights are, so that
a step of length `a` leaves the part `1 - a` of every residual.
-/

namespace QuadraticTrials

open Matrix

variable {K : Type} [Field K] [LinearOrder K] {n m p : Nat}

namespace Residuals

/-- All residuals scaled by one factor. -/
def scale (res : Residuals K n m p) (factor : K) : Residuals K n m p where
  dual := Vec.scale res.dual factor
  eq := Vec.scale res.eq factor
  ineq := Vec.scale res.ineq factor

omit [Field K] [LinearOrder K] in
/-- Residuals with the same entries are equal. -/
theorem ext_get {left right : Residuals K n m p} (dual : left.dual.get = right.dual.get)
    (eq : left.eq.get = right.eq.get) (ineq : left.ineq.get = right.ineq.get)
    : left = right := by
  cases left
  cases right
  simp only [Residuals.mk.injEq]
  exact ⟨Vec.ext_get dual, Vec.ext_get eq, Vec.ext_get ineq⟩

theorem scale_one (res : Residuals K n m p) : res.scale 1 = res :=
  ext_get (by simp [scale]) (by simp [scale]) (by simp [scale])

theorem scale_scale (res : Residuals K n m p) (first second : K)
    : (res.scale first).scale second = res.scale (second * first) :=
  ext_get (by simp [scale, mul_smul]) (by simp [scale, mul_smul]) (by simp [scale, mul_smul])

end Residuals

namespace Program

variable {prog : Program K n m p}

-----------------------------------------------------------------------------------------
-- The reduced system
-----------------------------------------------------------------------------------------

theorem toMatrix_hessian (d : Vector K m)
    : (prog.hessian d).toMatrix
      = prog.P.toMatrix + prog.G.toMatrixᵀ * (diagonal d.get * prog.G.toMatrix) := by
  simp [hessian]

/-- The assembled matrix has the four blocks of a saddle point system, by position before or after
each seam.
-/
theorem toMatrix_reducedMatrix (d : Vector K m)
    : (prog.reducedMatrix d).toMatrix
      = (fromBlocks (prog.hessian d).toMatrix prog.A.toMatrixᵀ prog.A.toMatrix 0).submatrix
          finSumFinEquiv.symm finSumFinEquiv.symm := by
  ext i j
  refine Fin.addCases (fun i => ?_) (fun i => ?_) i <;>
    refine Fin.addCases (fun j => ?_) (fun j => ?_) j <;>
    simp [reducedMatrix, Dense.transpose]

/-- The assembled matrix acts block by block on a vector in two parts. -/
theorem reducedMatrix_mulVec (d : Vector K m) (both : Vector K (n + p))
    : (prog.reducedMatrix d).toMatrix *ᵥ both.get
      = Fin.append
          ((prog.hessian d).toMatrix *ᵥ (Vec.left both).get
            + prog.A.toMatrixᵀ *ᵥ (Vec.right both).get)
          (prog.A.toMatrix *ᵥ (Vec.left both).get) := by
  have first : (both.get ∘ finSumFinEquiv) ∘ Sum.inl = (Vec.left both).get := by
    funext i
    simp
  have second : (both.get ∘ finSumFinEquiv) ∘ Sum.inr = (Vec.right both).get := by
    funext i
    simp
  rw [toMatrix_reducedMatrix, submatrix_mulVec_equiv, Equiv.symm_symm, fromBlocks_mulVec, first,
    second, zero_mulVec, add_zero]
  funext i
  refine Fin.addCases (fun j => ?_) (fun j => ?_) i <;> simp

/-- A solution of the reduced system solves both block rows, by soundness of elimination. -/
theorem solveReduced?_sound {d : Vector K m} {x dx : Vector K n} {y dy : Vector K p}
    (solved : prog.solveReduced? d x y = some (dx, dy))
    : (prog.hessian d).toMatrix *ᵥ dx.get + prog.A.toMatrixᵀ *ᵥ dy.get = x.get
      ∧ prog.A.toMatrix *ᵥ dx.get = y.get := by
  unfold solveReduced? at solved
  split at solved
  · cases solved
  rename_i both found
  split at solved
  · obtain ⟨rfl, rfl⟩ := Prod.mk.inj (Option.some.inj solved)
    have system := Dense.mulVec_of_solve? found
    rw [reducedMatrix_mulVec, Vec.get_append] at system
    constructor
    · funext i
      simpa using congrFun system (i.castAdd p)
    · funext i
      simpa using congrFun system (i.natAdd n)
  · cases solved

/-- A nonsingular reduced system is solved for every right-hand side. -/
theorem exists_solveReduced? [IsStrictOrderedRing K] {d : Vector K m}
    (nonsingular : (prog.reducedMatrix d).toMatrix.det ≠ 0) (x : Vector K n) (y : Vector K p)
    : ∃ both, prog.solveReduced? d x y = some both := by
  obtain ⟨both, solved⟩ := Dense.exists_solve? nonsingular (x ++ y)
  rw [solveReduced?, solved]
  exact ⟨_, if_pos (Vec.isFinite_eq_true both)⟩

-----------------------------------------------------------------------------------------
-- Directions
-----------------------------------------------------------------------------------------

/-- A point whose reduced system is nonsingular has a direction for every target. -/
theorem exists_direction? [IsStrictOrderedRing K] {it : Iterate K n m p}
    (nonsingular : (prog.reducedMatrix (Vec.quotient it.z it.s)).toMatrix.det ≠ 0)
    (res : Residuals K n m p) (target : Vector K m)
    : ∃ dir, prog.direction? it res target = some dir := by
  obtain ⟨both, solved⟩ := prog.exists_solveReduced? nonsingular
    (Vec.minus (-res.dual)
      (prog.G.transpose.mul (Vec.quotient (Vec.minus (Vec.times it.z res.ineq) target) it.s)))
    (-res.eq)
  simp only [direction?, solved]
  exact ⟨_, rfl⟩

omit [LinearOrder K] in
/-- What a step leaves of a value, when a full step removes it. -/
theorem rest_eq {size : Nat} {value change : Fin size → K} (removed : change = -value) {length : K}
    : (1 - length) • value = value + length • change := by
  rw [removed]
  module

/-- A matrix sends a step to the step along the image of its direction. -/
theorem mulVec_step {rows columns : Nat} (M : Matrix (Fin rows) (Fin columns) K)
    (x dx : Vector K columns) (length : K)
    : M *ᵥ (x + Vec.scale dx length).get = M *ᵥ x.get + length • (M *ᵥ dx.get) := by
  rw [Vec.get_add, Vec.get_scale, mulVec_add, mulVec_smul]

@[simp] theorem get_residuals_dual (it : Iterate K n m p)
    : (prog.residuals it).dual.get
      = prog.P.toMatrix *ᵥ it.x.get + prog.q.get + prog.G.toMatrixᵀ *ᵥ it.z.get
        + prog.A.toMatrixᵀ *ᵥ it.y.get := by
  simp [residuals]

@[simp] theorem get_residuals_eq (it : Iterate K n m p)
    : (prog.residuals it).eq.get = prog.A.toMatrix *ᵥ it.x.get - prog.b.get := by
  simp [residuals]

@[simp] theorem get_residuals_ineq (it : Iterate K n m p)
    : (prog.residuals it).ineq.get
      = prog.G.toMatrix *ᵥ it.x.get + it.s.get - prog.h.get := by
  simp [residuals]

/-- A direction removes given residuals in a full step, to which every condition is linear. -/
structure Removes (prog : Program K n m p) (res : Residuals K n m p) (dir : Direction K n m p)
    : Prop where
  dual
    : prog.P.toMatrix *ᵥ dir.dx.get + prog.G.toMatrixᵀ *ᵥ dir.dz.get
        + prog.A.toMatrixᵀ *ᵥ dir.dy.get
      = -res.dual.get
  eq : prog.A.toMatrix *ᵥ dir.dx.get = -res.eq.get
  ineq : prog.G.toMatrix *ᵥ dir.dx.get + dir.ds.get = -res.ineq.get

/-- Every direction removes the residuals it is made for, by putting the eliminated slacks and
duals back. Neither the complementarity target nor the weights matter for this.
-/
theorem direction?_removes {it : Iterate K n m p} {res : Residuals K n m p}
    {target : Vector K m} {dir : Direction K n m p}
    (found : prog.direction? it res target = some dir)
    : prog.Removes res dir := by
  obtain ⟨⟨dx, dy⟩, solved, rfl⟩ := Option.map_eq_some_iff.mp found
  obtain ⟨top, bottom⟩ := solveReduced?_sound solved
  -- The weights meet the change of the rows in the first block row and in the dual part alike.
  refine ⟨?_, by simpa using bottom, by simp⟩
  have weighted (d v : Fin m → K) : diagonal d *ᵥ v = d * v :=
    funext fun i => mulVec_diagonal d v i
  simp only [toMatrix_hessian, add_mulVec, ← mulVec_mulVec, weighted, Vec.get_minus, Vec.get_neg,
    Dense.get_mul, Dense.toMatrix_transpose] at top
  simp only [Vec.get_add, Vec.get_times, Dense.get_mul, mulVec_add]
  linear_combination top

/-- A step along a direction leaves the rest of the residuals that the direction removes, by
linearity of the optimality conditions.
-/
theorem residuals_advance {it : Iterate K n m p} {dir : Direction K n m p}
    (removes : prog.Removes (prog.residuals it) dir) (length : K)
    : prog.residuals (it.advance dir length) = (prog.residuals it).scale (1 - length) := by
  obtain ⟨dual, eq, ineq⟩ := removes
  rw [get_residuals_dual] at dual
  rw [get_residuals_eq] at eq
  rw [get_residuals_ineq] at ineq
  refine Residuals.ext_get ?_ ?_ ?_
  · simp only [Residuals.scale, get_residuals_dual, Iterate.advance, mulVec_step, Vec.get_scale]
    rw [rest_eq dual]
    module
  · simp only [Residuals.scale, get_residuals_eq, Iterate.advance, mulVec_step, Vec.get_scale]
    rw [rest_eq eq]
    module
  · simp only [Residuals.scale, get_residuals_ineq, Iterate.advance, Vec.get_add, Vec.get_scale,
      mulVec_add, mulVec_smul]
    rw [rest_eq ineq]
    module

end Program

end QuadraticTrials

import Mathlib
import QuadraticTrials.Proofs.InteriorPoint.Newton

/-!
The Newton system of a point before slacks and inequality duals are eliminated. Where no slack
vanishes, it has the same solutions as the reduced system with the eliminated parts put back, and a
step along a solution changes the gap by a quadratic in its length.
-/

namespace QuadraticTrials

open Matrix

variable {K : Type} [Field K] [LinearOrder K] {n m p : Nat}

namespace Program

/-- A direction solves the four blocks of the Newton system for a complementarity target. -/
structure SolvesNewton (prog : Program K n m p) (it : Iterate K n m p) (res : Residuals K n m p)
    (target : Vector K m) (dir : Direction K n m p)
    : Prop extends prog.Removes res dir where
  complementarity : ∀ i, it.s.get i * dir.dz.get i + it.z.get i * dir.ds.get i = -target.get i

/-- A change of the variables and of the equality duals solves the reduced system, in which each
inequality row has its dual over its slack as weight.
-/
structure SolvesReduced (prog : Program K n m p) (it : Iterate K n m p)
    (res : Residuals K n m p) (target : Vector K m) (dx : Vector K n) (dy : Vector K p)
    : Prop where
  top
    : (prog.P.toMatrix
          + prog.G.toMatrixᵀ * (diagonal (it.z.get / it.s.get) * prog.G.toMatrix)) *ᵥ dx.get
        + prog.A.toMatrixᵀ *ᵥ dy.get
      = -res.dual.get
        - prog.G.toMatrixᵀ *ᵥ ((it.z.get * res.ineq.get - target.get) / it.s.get)
  bottom : prog.A.toMatrix *ᵥ dx.get = -res.eq.get

/-- The direction with the eliminated changes of slacks and inequality duals put back. -/
def restore (prog : Program K n m p) (it : Iterate K n m p) (res : Residuals K n m p)
    (target : Vector K m) (dx : Vector K n) (dy : Vector K p)
    : Direction K n m p where
  dx
  ds := Vec.minus (-res.ineq) (prog.G.mul dx)
  dz :=
    Vec.times (Vec.quotient it.z it.s) (prog.G.mul dx)
      + Vec.quotient (Vec.minus (Vec.times it.z res.ineq) target) it.s
  dy

variable {prog : Program K n m p} {it : Iterate K n m p} {res : Residuals K n m p}
  {target : Vector K m} {dir : Direction K n m p} {dx : Vector K n} {dy : Vector K p}

-----------------------------------------------------------------------------------------
-- Elimination of slacks and inequality duals
-----------------------------------------------------------------------------------------

omit [LinearOrder K] in
/-- The first block row, whose change of the inequality duals is written out by the rows. -/
theorem top_iff (weights rest : Fin m → K)
    : prog.P.toMatrix *ᵥ dx.get + prog.G.toMatrixᵀ *ᵥ (weights * prog.G.toMatrix *ᵥ dx.get + rest)
          + prog.A.toMatrixᵀ *ᵥ dy.get
        = -res.dual.get
      ↔ (prog.P.toMatrix + prog.G.toMatrixᵀ * (diagonal weights * prog.G.toMatrix)) *ᵥ dx.get
            + prog.A.toMatrixᵀ *ᵥ dy.get
          = -res.dual.get - prog.G.toMatrixᵀ *ᵥ rest := by
  have weighted (v : Fin m → K) : diagonal weights *ᵥ v = weights * v :=
    funext fun i => mulVec_diagonal weights v i
  rw [add_mulVec, ← mulVec_mulVec, ← mulVec_mulVec, weighted, mulVec_add]
  constructor <;> intro same <;> linear_combination same

/-- A solution of the reduced system solves the whole one with the eliminated parts put back: the
slack of each row is divided out of its complementarity.
-/
theorem SolvesReduced.solvesNewton (slack_ne_zero : ∀ i, it.s.get i ≠ 0)
    (solves : prog.SolvesReduced it res target dx dy)
    : prog.SolvesNewton it res target (prog.restore it res target dx dy) where
  dual := by
    simpa [restore] using (top_iff _ _).mpr solves.top
  eq := solves.bottom
  ineq := by simp [restore]
  complementarity i := by
    have nonzero := slack_ne_zero i
    simp only [restore, Vec.get_add, Vec.get_times, Vec.get_quotient, Vec.get_minus, Vec.get_neg,
      Pi.add_apply, Pi.mul_apply, Pi.div_apply, Pi.sub_apply, Pi.neg_apply]
    field_simp
    ring

/-- A solution of the whole system has the changes of slacks and inequality duals that the rows of
its other parts leave: the residual of each row gives the one and complementarity the other.
-/
theorem SolvesNewton.eq_restore (slack_ne_zero : ∀ i, it.s.get i ≠ 0)
    (solves : prog.SolvesNewton it res target dir)
    : dir = prog.restore it res target dir.dx dir.dy := by
  have slack : dir.ds.get = -res.ineq.get - prog.G.toMatrix *ᵥ dir.dx.get :=
    eq_sub_of_add_eq' solves.ineq
  obtain ⟨dx, ds, dz, dy⟩ := dir
  simp only [restore, Direction.mk.injEq, true_and, and_true]
  constructor
  · refine Vec.ext_get ?_
    simpa using slack
  · refine Vec.ext_get (funext fun i => ?_)
    have row := solves.complementarity i
    rw [slack] at row
    have nonzero := slack_ne_zero i
    simp only [Vec.get_add, Vec.get_times, Vec.get_quotient, Vec.get_minus, Dense.get_mul,
      Pi.add_apply, Pi.mul_apply, Pi.div_apply, Pi.sub_apply, Pi.neg_apply] at row ⊢
    field_simp
    linear_combination row

/-- The variables and equality duals of a solution of the whole system solve the reduced one. -/
theorem SolvesNewton.solvesReduced (slack_ne_zero : ∀ i, it.s.get i ≠ 0)
    (solves : prog.SolvesNewton it res target dir)
    : prog.SolvesReduced it res target dir.dx dir.dy := by
  have dual : dir.dz = (prog.restore it res target dir.dx dir.dy).dz :=
    congrArg Direction.dz (solves.eq_restore slack_ne_zero)
  refine ⟨(top_iff _ _).mp ?_, solves.eq⟩
  have top := solves.dual
  rw [dual] at top
  simpa [restore] using top

-----------------------------------------------------------------------------------------
-- Directions that are found
-----------------------------------------------------------------------------------------

/-- The reduced system is solved exactly if it is nonsingular, by its only solution. -/
theorem solveReduced?_eq_some_iff [IsStrictOrderedRing K] {d : Vector K m} {x : Vector K n}
    {y : Vector K p}
    : prog.solveReduced? d x y = some (dx, dy)
      ↔ (prog.reducedMatrix d).toMatrix.det ≠ 0
        ∧ (prog.hessian d).toMatrix *ᵥ dx.get + prog.A.toMatrixᵀ *ᵥ dy.get = x.get
        ∧ prog.A.toMatrix *ᵥ dx.get = y.get := by
  constructor
  · intro solved
    refine ⟨?_, solveReduced?_sound solved⟩
    unfold solveReduced? at solved
    split at solved
    · cases solved
    · rename_i both found
      exact Dense.det_ne_zero_of_solve? found
  · rintro ⟨nonsingular, top, bottom⟩
    obtain ⟨both, found⟩ := Dense.exists_solve? nonsingular (x ++ y)
    have unique : dx ++ dy = both := by
      refine Vec.ext_get (mulVec_injective_of_det_ne_zero nonsingular ?_)
      rw [Dense.mulVec_of_solve? found, reducedMatrix_mulVec, Vec.left_append, Vec.right_append,
        top, bottom, Vec.get_append]
    rw [solveReduced?, found, ← unique]
    simp only [Vec.isFinite_eq_true, if_true, Vec.left_append, Vec.right_append]

/-- A direction is found exactly if the reduced system is nonsingular and its solution, with the
eliminated parts put back, is that direction.
-/
theorem direction?_eq_some_iff [IsStrictOrderedRing K] (slack_ne_zero : ∀ i, it.s.get i ≠ 0)
    : prog.direction? it res target = some dir
      ↔ (prog.reducedMatrix (Vec.quotient it.z it.s)).toMatrix.det ≠ 0
        ∧ prog.SolvesNewton it res target dir := by
  have stored (dx : Vector K n) (dy : Vector K p)
      : (prog.hessian (Vec.quotient it.z it.s)).toMatrix *ᵥ dx.get + prog.A.toMatrixᵀ *ᵥ dy.get
            = (Vec.minus (-res.dual) (prog.G.transpose.mul
                (Vec.quotient (Vec.minus (Vec.times it.z res.ineq) target) it.s))).get
          ∧ prog.A.toMatrix *ᵥ dx.get = (-res.eq).get
        ↔ prog.SolvesReduced it res target dx dy := by
    simp only [toMatrix_hessian, Vec.get_minus, Vec.get_neg, Vec.get_quotient, Vec.get_times,
      Dense.get_mul, Dense.toMatrix_transpose]
    exact ⟨fun ⟨top, bottom⟩ => ⟨top, bottom⟩, fun solves => ⟨solves.top, solves.bottom⟩⟩
  constructor
  · intro found
    obtain ⟨⟨dx, dy⟩, solved, rfl⟩ := Option.map_eq_some_iff.mp found
    obtain ⟨nonsingular, solves⟩ := solveReduced?_eq_some_iff.mp solved
    exact ⟨nonsingular, ((stored dx dy).mp solves).solvesNewton slack_ne_zero⟩
  · rintro ⟨nonsingular, solves⟩
    have reduced := (stored _ _).mpr (solves.solvesReduced slack_ne_zero)
    rw [solves.eq_restore slack_ne_zero]
    exact Option.map_eq_some_iff.mpr
      ⟨_, solveReduced?_eq_some_iff.mpr ⟨nonsingular, reduced⟩, rfl⟩

-----------------------------------------------------------------------------------------
-- Gaps
-----------------------------------------------------------------------------------------

/-- The gap after a step along a solution: complementarity is its linear term. -/
theorem SolvesNewton.gap_advance (solves : prog.SolvesNewton it res target dir) (length : K)
    : (it.advance dir length).gap
      = it.gap - length * ∑ i, target.get i + length ^ 2 * (dir.ds.get ⬝ᵥ dir.dz.get) := by
  have linear : it.s.get ⬝ᵥ dir.dz.get + dir.ds.get ⬝ᵥ it.z.get = -∑ i, target.get i := by
    rw [dotProduct_comm dir.ds.get, dotProduct, dotProduct, ← Finset.sum_add_distrib,
      ← Finset.sum_neg_distrib]
    exact Finset.sum_congr rfl fun i _ => solves.complementarity i
  simp only [Iterate.gap, Iterate.advance, Vec.dot_eq_dotProduct, Vec.get_add, Vec.get_scale,
    add_dotProduct, dotProduct_add, smul_dotProduct, dotProduct_smul, smul_eq_mul]
  linear_combination length * linear

/-- At a point without vanishing slacks the directions that are found are the solutions of the whole
Newton system, provided the reduced one is nonsingular; the solutions of the whole system are those
of the reduced one with the eliminated parts put back; and along each of them the gap is known for
every length.
-/
theorem directions_solve_newton [IsStrictOrderedRing K] (prog : Program K n m p)
    (it : Iterate K n m p) (slack_ne_zero : ∀ i, it.s.get i ≠ 0) (target : Vector K m)
    : (∀ dir,
        prog.direction? it (prog.residuals it) target = some dir
          ↔ (prog.reducedMatrix (Vec.quotient it.z it.s)).toMatrix.det ≠ 0
            ∧ prog.SolvesNewton it (prog.residuals it) target dir)
        ∧ (∀ dir,
            prog.SolvesNewton it (prog.residuals it) target dir
              ↔ prog.SolvesReduced it (prog.residuals it) target dir.dx dir.dy
                ∧ dir = prog.restore it (prog.residuals it) target dir.dx dir.dy)
        ∧ ∀ dir,
            prog.SolvesNewton it (prog.residuals it) target dir →
              ∀ length,
                (it.advance dir length).gap
                  = it.gap - length * ∑ i, target.get i
                    + length ^ 2 * (dir.ds.get ⬝ᵥ dir.dz.get) := by
  refine ⟨fun dir => direction?_eq_some_iff slack_ne_zero, fun dir => ⟨fun solves => ?_, ?_⟩,
    fun dir solves length => solves.gap_advance length⟩
  · exact ⟨solves.solvesReduced slack_ne_zero, solves.eq_restore slack_ne_zero⟩
  · rintro ⟨solves, restored⟩
    rw [restored]
    exact solves.solvesNewton slack_ne_zero

/-- The minimization of `½ |x|²` under `x₁ ≤ 1` and `x₁ + x₂ = 1`. -/
def edge : Program ℚ 2 1 1 where
  P := #v[#v[1, 0], #v[0, 1]]
  q := .replicate 2 0
  G := #v[#v[1, 0]]
  h := .replicate 1 1
  A := .replicate 1 (.replicate 2 1)
  b := .replicate 1 1

/-- The origin on the edge, with a slack that leaves a residual. -/
def edgeOrigin : Iterate ℚ 2 1 1 :=
  ⟨.replicate 2 0, .replicate 1 2, .replicate 1 1, .replicate 1 0⟩

/-- The affine direction from the origin on the edge solves all four blocks, and half of it takes
the gap from two to `28/25`.
-/
theorem edgeOrigin_solved
    : ∃ dir,
        edge.direction? edgeOrigin (edge.residuals edgeOrigin) #v[2] = some dir
          ∧ edge.SolvesNewton edgeOrigin (edge.residuals edgeOrigin) #v[2] dir
          ∧ edge.SolvesReduced edgeOrigin (edge.residuals edgeOrigin) #v[2] dir.dx dir.dy
          ∧ dir.ds = #v[-6 / 5] ∧ dir.dz = #v[-2 / 5]
          ∧ (edgeOrigin.advance dir (1 / 2)).gap = 28 / 25 := by
  have nonzero : ∀ i, edgeOrigin.s.get i ≠ 0 := by decide +kernel
  obtain ⟨dir, found, read⟩ := Option.map_eq_some_iff.mp
    (show (edge.direction? edgeOrigin (edge.residuals edgeOrigin) #v[2]).map
        (fun dir => (dir.ds, dir.dz)) = some (#v[-6 / 5], #v[-2 / 5]) by decide +kernel)
  obtain ⟨slack, dual⟩ := Prod.mk.inj read
  obtain ⟨directions, solutions, gaps⟩ := directions_solve_newton edge edgeOrigin nonzero #v[2]
  have solves := ((directions dir).mp found).2
  refine ⟨dir, found, solves, ((solutions dir).mp solves).1, slack, dual, ?_⟩
  have start : edgeOrigin.gap = 2 := by decide +kernel
  have product : dir.ds.get ⬝ᵥ dir.dz.get = 12 / 25 := by
    rw [slack, dual]
    decide +kernel
  rw [gaps dir solves, start, product]
  norm_num [Vec.get_eq_getElem]

end Program

end QuadraticTrials

import Mathlib
import QuadraticTrials.Proofs.Exact.Relabelling
import QuadraticTrials.Proofs.InteriorPoint.Cutoff
import QuadraticTrials.Proofs.InteriorPoint.Interior
import QuadraticTrials.Proofs.InteriorPoint.NewtonSystem

/-!
Runs on relabelled programs. Every operation of the method commutes with new labels for variables,
inequality rows and equality rows, so that a relabelled program is run through the relabelled points.
-/

namespace QuadraticTrials

open Matrix

/-- New labels for the variables and for the rows of both kinds. -/
structure Relabelling (n' m' p' n m p : Nat) where
  vars : Fin n' ≃ Fin n
  inequalities : Fin m' ≃ Fin m
  equalities : Fin p' ≃ Fin p

variable {K : Type} {n' m' p' n m p : Nat}

namespace Relabelling

variable (e : Relabelling n' m' p' n m p)

-----------------------------------------------------------------------------------------
-- Relabelled data
-----------------------------------------------------------------------------------------

/-- The program under new labels. -/
@[simps]
def program (prog : Program K n m p) : Program K n' m' p' where
  P := Dense.relabel e.vars e.vars prog.P
  q := Vec.relabel e.vars prog.q
  G := Dense.relabel e.inequalities e.vars prog.G
  h := Vec.relabel e.inequalities prog.h
  A := Dense.relabel e.equalities e.vars prog.A
  b := Vec.relabel e.equalities prog.b

/-- The point under new labels. -/
@[simps]
def iterate (it : Iterate K n m p) : Iterate K n' m' p' where
  x := Vec.relabel e.vars it.x
  s := Vec.relabel e.inequalities it.s
  z := Vec.relabel e.inequalities it.z
  y := Vec.relabel e.equalities it.y

/-- The direction under new labels. -/
@[simps]
def direction (dir : Direction K n m p) : Direction K n' m' p' where
  dx := Vec.relabel e.vars dir.dx
  ds := Vec.relabel e.inequalities dir.ds
  dz := Vec.relabel e.inequalities dir.dz
  dy := Vec.relabel e.equalities dir.dy

/-- The residuals under new labels. -/
@[simps]
def residuals (res : Residuals K n m p) : Residuals K n' m' p' where
  dual := Vec.relabel e.vars res.dual
  eq := Vec.relabel e.equalities res.eq
  ineq := Vec.relabel e.inequalities res.ineq

/-- The visited point under new labels; its numbers are kept. -/
@[simps]
def record (r : Record K n m p) : Record K n' m' p' :=
  { r with iterate := e.iterate r.iterate, residuals := e.residuals r.residuals }

/-- The move under new labels. -/
def move : Move K n m p → Move K n' m' p'
  | .advance next length => .advance (e.iterate next) length
  | .stalled => .stalled
  | .singular => .singular

/-- The run under new labels. -/
@[simps]
def run (run : Run K n m p) : Run K n' m' p' where
  earlier := run.earlier.map e.record
  last := e.record run.last
  ending := run.ending

variable [Field K] [LinearOrder K] {prog : Program K n m p}

-----------------------------------------------------------------------------------------
-- Points
-----------------------------------------------------------------------------------------

theorem advance (it : Iterate K n m p) (dir : Direction K n m p) (length : K)
    : (e.iterate it).advance (e.direction dir) length = e.iterate (it.advance dir length) := by
  simp [Iterate.advance, iterate]

@[simp] theorem gap (it : Iterate K n m p) : (e.iterate it).gap = it.gap :=
  Vec.dot_relabel it.s it.z

@[simp] theorem primalNorm (res : Residuals K n m p)
    : (e.residuals res).primalNorm = res.primalNorm := by
  simp only [Residuals.primalNorm, residuals_eq, residuals_ineq, Vec.maxAbs_relabel]

@[simp] theorem dualNorm (res : Residuals K n m p) : (e.residuals res).dualNorm = res.dualNorm :=
  Vec.maxAbs_relabel res.dual

@[simp] theorem merit (res : Residuals K n m p) (gap : K)
    : (e.residuals res).merit gap = res.merit gap := by
  rw [Residuals.merit, Residuals.merit, primalNorm, dualNorm]

@[simp] theorem residuals_iterate (prog : Program K n m p) (it : Iterate K n m p)
    : (e.program prog).residuals (e.iterate it) = e.residuals (prog.residuals it) := by
  simp [Program.residuals, residuals]

@[simp] theorem objective (prog : Program K n m p) (x : Vector K n)
    : QuadraticTrials.objective (e.program prog).P (e.program prog).q (Vec.relabel e.vars x)
      = QuadraticTrials.objective prog.P prog.q x := by
  simp only [QuadraticTrials.objective, program_P, program_q, Dense.mul_relabel, Vec.dot_relabel]

theorem recorded (prog : Program K n m p) (index : Nat) (step : K) (it : Iterate K n m p)
    : (e.program prog).record index step (e.iterate it)
      = e.record (prog.record index step it) := by
  unfold Program.record
  rw [residuals_iterate, gap, iterate_x, objective]
  rfl

@[simp] theorem primalScale (prog : Program K n m p)
    : (e.program prog).primalScale = prog.primalScale := by
  simp only [Program.primalScale, program_b, program_h, Vec.maxAbs_relabel]

@[simp] theorem dualScale (prog : Program K n m p) (x : Vector K n)
    : (e.program prog).dualScale (Vec.relabel e.vars x) = prog.dualScale x := by
  simp only [Program.dualScale, program_P, program_q, Dense.mul_relabel, Vec.maxAbs_relabel]

theorem accepts (prog : Program K n m p) (tolerance : K) (r : Record K n m p)
    : (e.program prog).accepts tolerance (e.record r) = prog.accepts tolerance r := by
  unfold Program.accepts Program.converged
  rw [record_residuals, record_objective, record_iterate, iterate_x, primalNorm, dualNorm, gap,
    primalScale, dualScale]

theorem improves (prog : Program K n m p) (r : Record K n m p) (dir : Direction K n m p)
    : (e.program prog).improves (e.record r) (e.direction dir) = prog.improves r dir := by
  funext length
  unfold Program.improves Program.decreasesMerit
  simp only
  rw [record_residuals, record_gap, record_iterate, advance, residuals_iterate, merit, merit, gap]

-----------------------------------------------------------------------------------------
-- Lengths
-----------------------------------------------------------------------------------------

/-- The zero crossings are the same in another order. -/
theorem perm_zeroCrossings (f : Fin m' ≃ Fin m) (v dv : Vector K m)
    : (Direction.zeroCrossings (Vec.relabel f v) (Vec.relabel f dv)).Perm
        (Direction.zeroCrossings v dv) :=
  (Vec.perm_zip_relabel f v dv).filterMap _

@[simp] theorem boundary (it : Iterate K n m p) (dir : Direction K n m p)
    : (e.direction dir).boundary (e.iterate it) = dir.boundary it := by
  rw [Direction.boundary_eq_min?, Direction.boundary_eq_min?]
  exact min?_of_perm ((perm_zeroCrossings _ _ _).append (perm_zeroCrossings _ _ _))

theorem firstLength (fraction : K) (r : Record K n m p) (dir : Direction K n m p)
    : Program.firstLength fraction (e.record r) (e.direction dir)
      = Program.firstLength fraction r dir := by
  rw [Program.firstLength, record_iterate, boundary, Program.firstLength]

include e in
theorem meanGap (gap : K) : Program.meanGap m' gap = Program.meanGap m gap := by
  rw [eq_of_relabelling e.inequalities]

theorem centering (it : Iterate K n m p) (affine : Direction K n m p) (mu : K)
    : Program.centering (e.iterate it) (e.direction affine) mu
      = Program.centering it affine mu := by
  simp only [Program.centering, boundary, advance, gap, meanGap e]

theorem relabel_shiftPositive (f : Fin m' ≃ Fin m) (v : Vector K m)
    : Vec.relabel f (Vec.shiftPositive v) = Vec.shiftPositive (Vec.relabel f v) := by
  unfold Vec.shiftPositive
  rw [leastOf_eq_min?, leastOf_eq_min?, min?_of_perm (Vec.perm_relabel f v)]
  cases v.toList.min? with
  | none => rfl
  | some least =>
      simp only
      split
      · rfl
      · exact Vec.relabel_map _ v

-----------------------------------------------------------------------------------------
-- Directions
-----------------------------------------------------------------------------------------

/-- The places of the reduced system under new labels: variables, then equality rows. -/
def both : Fin (n' + p') ≃ Fin (n + p) :=
  finSumFinEquiv.symm.trans ((e.vars.sumCongr e.equalities).trans finSumFinEquiv)

theorem toMatrix_hessian (prog : Program K n m p) (d : Vector K m)
    : ((e.program prog).hessian (Vec.relabel e.inequalities d)).toMatrix
      = (prog.hessian d).toMatrix.submatrix e.vars e.vars := by
  rw [Program.toMatrix_hessian, Program.toMatrix_hessian, program_P, program_G,
    Dense.toMatrix_relabel, Dense.toMatrix_relabel, Vec.get_relabel, submatrix_add,
    ← submatrix_diagonal_equiv d.get e.inequalities, transpose_submatrix, submatrix_mul_equiv,
    submatrix_mul_equiv]
  rfl

theorem toMatrix_reducedMatrix (prog : Program K n m p) (d : Vector K m)
    : ((e.program prog).reducedMatrix (Vec.relabel e.inequalities d)).toMatrix
      = (prog.reducedMatrix d).toMatrix.submatrix e.both e.both := by
  rw [Program.toMatrix_reducedMatrix, Program.toMatrix_reducedMatrix, toMatrix_hessian, program_A,
    Dense.toMatrix_relabel]
  ext i j
  refine Fin.addCases (fun i => ?_) (fun i => ?_) i <;>
    refine Fin.addCases (fun j => ?_) (fun j => ?_) j <;>
    simp [both]

variable [IsStrictOrderedRing K]

/-- The reduced system is solved under new labels exactly if it is without, by the solution under
new labels.
-/
theorem solveReduced? (prog : Program K n m p) (d : Vector K m) (x : Vector K n) (y : Vector K p)
    : (e.program prog).solveReduced? (Vec.relabel e.inequalities d) (Vec.relabel e.vars x)
        (Vec.relabel e.equalities y)
      = (prog.solveReduced? d x y).map fun (dx, dy) =>
          (Vec.relabel e.vars dx, Vec.relabel e.equalities dy) := by
  have determinants : ((e.program prog).reducedMatrix (Vec.relabel e.inequalities d)).toMatrix.det
      = (prog.reducedMatrix d).toMatrix.det := by
    rw [toMatrix_reducedMatrix, det_submatrix_equiv_self]
  cases solved : prog.solveReduced? d x y with
  | none =>
      -- A solution under new labels would make the system nonsingular under the old ones.
      cases solved' : (e.program prog).solveReduced? (Vec.relabel e.inequalities d)
          (Vec.relabel e.vars x) (Vec.relabel e.equalities y) with
      | none => rfl
      | some solution =>
          obtain ⟨nonsingular, -⟩ := Program.solveReduced?_eq_some_iff.mp solved'
          rw [determinants] at nonsingular
          obtain ⟨found, again⟩ := Program.exists_solveReduced? nonsingular x y
          cases solved.symm.trans again
  | some solution =>
      obtain ⟨dx, dy⟩ := solution
      obtain ⟨nonsingular, top, bottom⟩ := Program.solveReduced?_eq_some_iff.mp solved
      refine Program.solveReduced?_eq_some_iff.mpr ⟨determinants ▸ nonsingular, ?_, ?_⟩
      · rw [toMatrix_hessian, program_A, Dense.toMatrix_relabel, transpose_submatrix,
          Vec.get_relabel, Vec.get_relabel, Vec.get_relabel, submatrix_mulVec_equiv,
          submatrix_mulVec_equiv, ← top]
        simp [Function.comp_assoc, Pi.add_comp]
      · rw [program_A, Dense.toMatrix_relabel, Vec.get_relabel, Vec.get_relabel,
          submatrix_mulVec_equiv, ← bottom]
        simp [Function.comp_assoc]

/-- Newton directions under new labels are the directions, for the target under new labels. -/
theorem direction? (prog : Program K n m p) (it : Iterate K n m p) (res : Residuals K n m p)
    (target : Vector K m)
    : (e.program prog).direction? (e.iterate it) (e.residuals res)
        (Vec.relabel e.inequalities target)
      = (prog.direction? it res target).map e.direction := by
  unfold Program.direction?
  simp only
  rw [iterate_s, iterate_z, residuals_dual, residuals_eq, residuals_ineq, program_G,
    ← Vec.relabel_quotient, ← Vec.relabel_times, ← Vec.relabel_minus, ← Vec.relabel_quotient,
    Dense.transpose_relabel, Dense.mul_relabel, ← Vec.relabel_neg res.dual, ← Vec.relabel_minus,
    ← Vec.relabel_neg res.eq, solveReduced?, Option.map_map, Option.map_map]
  congr 1
  funext solution
  simp [direction]

theorem affineDirection? (prog : Program K n m p) (r : Record K n m p)
    : (e.program prog).affineDirection? (e.record r)
      = (prog.affineDirection? r).map e.direction := by
  unfold Program.affineDirection?
  rw [record_iterate, record_residuals, iterate_s, iterate_z, ← Vec.relabel_times, direction?]

theorem correctedDirection? (prog : Program K n m p) (r : Record K n m p)
    (affine : Direction K n m p)
    : (e.program prog).correctedDirection? (e.record r) (e.direction affine)
      = (prog.correctedDirection? r affine).map e.direction := by
  unfold Program.correctedDirection?
  simp only
  rw [record_iterate, record_residuals, record_gap, iterate_s, iterate_z, direction_ds,
    direction_dz, centering, meanGap e, ← Vec.relabel_times, ← Vec.relabel_times,
    ← Vec.relabel_add, ← Vec.relabel_replicate (e := e.inequalities), ← Vec.relabel_minus,
    direction?]

theorem dampedDirection? (prog : Program K n m p) (r : Record K n m p)
    (affine : Direction K n m p)
    : (e.program prog).dampedDirection? (e.record r) (e.direction affine)
      = (prog.dampedDirection? r affine).map e.direction := by
  unfold Program.dampedDirection?
  simp only
  rw [record_iterate, record_residuals, record_gap, iterate_s, iterate_z, centering, meanGap e,
    ← Vec.relabel_times, ← Vec.relabel_replicate (e := e.inequalities), ← Vec.relabel_minus,
    direction?]

-----------------------------------------------------------------------------------------
-- Moves
-----------------------------------------------------------------------------------------

theorem dampedMove (prog : Program K n m p) (fraction : K) (r : Record K n m p)
    (affine : Direction K n m p)
    : (e.program prog).dampedMove fraction (e.record r) (e.direction affine)
      = e.move (prog.dampedMove fraction r affine) := by
  unfold Program.dampedMove
  rw [dampedDirection?]
  cases prog.dampedDirection? r affine with
  | none => rfl
  | some dir =>
      simp only [Option.map_some, improves, firstLength]
      cases Program.backtrack (prog.improves r dir) Program.maxTrials
          (Program.firstLength fraction r dir) with
      | none => rfl
      | some length => exact congrArg (Move.advance · length) (e.advance r.iterate dir length)

theorem correctedMove (prog : Program K n m p) (fraction : K) (r : Record K n m p)
    (affine : Direction K n m p)
    : (e.program prog).correctedMove fraction (e.record r) (e.direction affine)
      = e.move (prog.correctedMove fraction r affine) := by
  unfold Program.correctedMove
  rw [correctedDirection?]
  cases prog.correctedDirection? r affine with
  | none => rfl
  | some dir =>
      simp only [Option.map_some, improves, firstLength]
      split
      · split
        · rfl
        · exact congrArg (Move.advance · _) (e.advance r.iterate dir _)
      · exact e.dampedMove prog fraction r affine

/-- A move under new labels is the move: each of its branches asks for what does not depend on
labels.
-/
theorem move_record (prog : Program K n m p) (fraction : K) (r : Record K n m p)
    : (e.program prog).move fraction (e.record r) = e.move (prog.move fraction r) := by
  have rows := eq_of_relabelling e.inequalities
  unfold Program.move
  rw [affineDirection?]
  cases prog.affineDirection? r with
  | none => rfl
  | some affine =>
      simp only [Option.map_some, rows]
      split
      · exact congrArg (Move.advance · 1) (e.advance r.iterate affine 1)
      · exact e.correctedMove prog fraction r affine

-----------------------------------------------------------------------------------------
-- Runs
-----------------------------------------------------------------------------------------

/-- A run from a point under new labels is the run, by induction on the steps still allowed. -/
theorem runFrom (prog : Program K n m p) (fraction tolerance : K) (remaining : Nat)
    (r : Record K n m p)
    : (e.program prog).runFrom fraction tolerance remaining (e.record r)
      = e.run (prog.runFrom fraction tolerance remaining r) := by
  induction remaining generalizing r with
  | zero =>
      unfold Program.runFrom
      rw [accepts]
      split <;> rfl
  | succ remaining ih =>
      unfold Program.runFrom
      rw [accepts, move_record]
      split
      · rfl
      cases prog.move fraction r with
      | stalled => rfl
      | singular => rfl
      | advance next length =>
          simp only [move, record_index, recorded, ih]
          rfl

theorem leastSquaresStart? (prog : Program K n m p)
    : (e.program prog).leastSquaresStart? = prog.leastSquaresStart?.map e.iterate := by
  unfold Program.leastSquaresStart?
  simp only
  rw [program_q, program_G, program_h, program_b, Dense.transpose_relabel, Dense.mul_relabel,
    ← Vec.relabel_neg, ← Vec.relabel_add, ← Vec.relabel_replicate (e := e.inequalities),
    solveReduced?, Option.map_map, Option.map_map]
  congr 1
  funext solution
  simp [iterate, relabel_shiftPositive]

omit [IsStrictOrderedRing K] in
theorem originStart (prog : Program K n m p)
    : (e.program prog).originStart = prog.originStart.map e.iterate := by
  unfold Program.originStart
  rw [program_h, program_b, (Vec.perm_relabel e.inequalities prog.h).any_eq, Vec.maxAbs_relabel]
  split
  · rfl
  split
  · rfl
  · simp [Except.map, iterate]

theorem start (prog : Program K n m p) (infeasible : Bool)
    : (e.program prog).start infeasible = (prog.start infeasible).map e.iterate := by
  unfold Program.start
  rw [leastSquaresStart?, originStart]
  cases infeasible with
  | false => rfl
  | true => cases prog.leastSquaresStart? <;> rfl

theorem run? (settings : InteriorPoint.Settings K) (prog : Program K n m p)
    : InteriorPoint.run? settings (e.program prog)
      = (InteriorPoint.run? settings prog).map e.run := by
  unfold InteriorPoint.run?
  rw [start]
  split
  · cases prog.start settings.infeasibleStart with
    | error fault => rfl
    | ok it =>
        simp only [Except.map, Program.run, recorded, runFrom]
  · rfl

end Relabelling

end QuadraticTrials

import Mathlib
import QuadraticTrials.InteriorPoint.Solver
import QuadraticTrials.Proofs.Unsized.Operations

/-!
The primal-dual method on data of any shape. It performs the steps of the sized method in their
order, through operations that compare the shapes of their operands: products and sums, matrices
assembled by copying blocks to their places, vectors cut out of a solution.
-/

namespace QuadraticTrials

namespace Unsized

variable (K : Type)

/-- A quadratic program in slack form. -/
structure Program where
  P : Grid K
  q : List K
  G : Grid K
  h : List K
  A : Grid K
  b : List K

/-- A point with its slacks, inequality duals and equality duals. -/
structure Iterate where
  x : List K
  s : List K
  z : List K
  y : List K

/-- A change of each part of a point. -/
structure Direction where
  dx : List K
  ds : List K
  dz : List K
  dy : List K

/-- How far a point is from satisfying the linear optimality conditions. -/
structure Residuals where
  dual : List K
  eq : List K
  ineq : List K

/-- A visited point with what is known about it. -/
structure Record where
  index : Nat
  iterate : Iterate K
  residuals : Residuals K
  objective : K
  gap : K
  step : K

/-- What follows a visited point. -/
inductive Move
  | advance (next : Iterate K) (length : K)
  | stalled
  | singular

variable {K}

/-- The rows and right-hand sides of an optional block in `n` variables. -/
def blockParts (n : Nat) : Option (Block K) → Grid K × List K
  | none => (⟨0, n, Vec.empty⟩, [])
  | some block => (block.matrix, block.rhs)

/-- The program that an instance describes, its shapes as they are. -/
def Program.ofInstance (inst : Instance K) : Program K where
  P := inst.cost
  q := inst.linear
  G := (blockParts inst.numVars inst.inequality).1
  h := (blockParts inst.numVars inst.inequality).2
  A := (blockParts inst.numVars inst.equality).1
  b := (blockParts inst.numVars inst.equality).2

variable [Scalar K]

/-- The objective `0.5 x'Px + q'x`. -/
def objective (P : Grid K) (q x : List K) : Checked K := do
  let quadratic ← dot x (← Grid.mul P x)
  return Scalar.ratio 1 2 * quadratic + (← dot q x)

-----------------------------------------------------------------------------------------
-- Points
-----------------------------------------------------------------------------------------

namespace Iterate

/-- The point after a step of a given length along a direction. -/
def advance (it : Iterate K) (dir : Direction K) (length : K) : Checked (Iterate K) := do
  let x ← plus it.x (scale dir.dx length)
  let s ← plus it.s (scale dir.ds length)
  let z ← plus it.z (scale dir.dz length)
  let y ← plus it.y (scale dir.dy length)
  return { x, s, z, y }

/-- The complementarity gap `s'z`. -/
def gap (it : Iterate K) : Checked K :=
  dot it.s it.z

end Iterate

namespace Residuals

/-- The largest violation of a constraint. -/
def primalNorm (res : Residuals K) : K :=
  Scalar.max (maxAbs res.eq) (maxAbs res.ineq)

/-- Infeasibility plus the complementarity gap. -/
def merit (res : Residuals K) (gap : K) : K :=
  res.primalNorm + maxAbs res.dual + gap

end Residuals

namespace Direction

/-- The lengths at which the falling entries of a vector reach zero; further entries of the longer
list are not looked at.
-/
def zeroCrossings (v dv : List K) : List K :=
  (v.zip dv).filterMap fun (value, change) =>
    if change < 0 then some (-value / change) else none

/-- The largest length that keeps slacks and inequality duals from falling below zero. -/
def boundary (dir : Direction K) (it : Iterate K) : Option K :=
  (zeroCrossings it.s dir.ds ++ zeroCrossings it.z dir.dz).foldl
    QuadraticTrials.Direction.tighten none

end Direction

namespace Program

/-- The residuals `Px + q + G'z + A'y`, `Ax - b` and `Gx + s - h`. -/
def residuals (prog : Program K) (it : Iterate K) : Checked (Residuals K) := do
  let cost ← plus (← Grid.mul prog.P it.x) prog.q
  let priced ← plus cost (← Grid.mul (Grid.transpose prog.G) it.z)
  let dual ← plus priced (← Grid.mul (Grid.transpose prog.A) it.y)
  let eq ← minus (← Grid.mul prog.A it.x) prog.b
  let ineq ← minus (← plus (← Grid.mul prog.G it.x) it.s) prog.h
  return { dual, eq, ineq }

/-- Whether a step lowers the merit sufficiently. -/
def decreasesMerit (prog : Program K) (it : Iterate K) (merit : K) (dir : Direction K) (length : K)
    : Checked Bool := do
  let trial ← it.advance dir length
  let res ← prog.residuals trial
  return res.merit (← trial.gap)
    ≤ (1 - QuadraticTrials.Program.sufficientDecrease * length) * merit

/-- The stopping test. -/
def converged (prog : Program K) (it : Iterate K) (res : Residuals K) (objective tolerance : K)
    : Checked Bool := do
  let primalScale := 1 + Scalar.max (maxAbs prog.b) (maxAbs prog.h)
  let dualScale := 1 + Scalar.max (maxAbs prog.q) (maxAbs (← Grid.mul prog.P it.x))
  let gap ← it.gap
  return res.primalNorm ≤ tolerance * primalScale
    && maxAbs res.dual ≤ tolerance * dualScale
    && gap ≤ tolerance * (1 + Scalar.abs objective)

-----------------------------------------------------------------------------------------
-- Newton directions
-----------------------------------------------------------------------------------------

/-- The upper left block of the reduced system for inequality weights `d`. -/
def hessian (prog : Program K) (d : List K) : Checked (Grid K) := do
  let weighted ← Grid.tabulate prog.G.rows prog.q.length fun i j =>
    return (← entry d i) * (← Grid.entry prog.G i j)
  Grid.plus prog.P (← Grid.product (Grid.transpose prog.G) weighted)

/-- The matrix of the reduced system: its blocks are copied into a matrix of zeros, those of the
equalities only if there are any.
-/
def reducedMatrix (prog : Program K) (d : List K) : Checked (Grid K) := do
  let n := prog.q.length
  let p := prog.b.length
  let kkt ← Grid.replace (Grid.zeros (n + p) (n + p)) 0 0 n n (← prog.hessian d)
  if 0 < p then
    let kkt ← Grid.replace kkt 0 n n p (Grid.transpose prog.A)
    Grid.replace kkt n 0 p n prog.A
  else return kkt

/-- The right-hand side of the reduced system, copied into a vector of zeros. -/
def reducedVector (prog : Program K) (x y : List K) : Checked (List K) := do
  let n := prog.q.length
  let p := prog.b.length
  let rhs ← replace (List.replicate (n + p) 0) 0 n x
  if 0 < p then replace rhs n p y else return rhs

/-- The solution of the reduced system, unless it is singular or leaves the finite range. -/
def solveReduced? (prog : Program K) (d x y : List K) : Checked (Option (List K × List K)) := do
  let kkt ← prog.reducedMatrix d
  let rhs ← prog.reducedVector x y
  match ← Grid.solve? kkt rhs with
  | none => return none
  | some both =>
      if both.all Scalar.isFinite then
        let first ← slice both 0 prog.q.length
        let last ← slice both prog.q.length prog.b.length
        return some (first, last)
      else return none

/-- The Newton direction at a point with given residuals for a complementarity target. -/
def direction? (prog : Program K) (it : Iterate K) (res : Residuals K) (target : List K)
    : Checked (Option (Direction K)) := do
  let d ← quotient it.z it.s
  let w ← quotient (← minus (← times it.z res.ineq) target) it.s
  let x ← minus (negative res.dual) (← Grid.mul (Grid.transpose prog.G) w)
  match ← prog.solveReduced? d x (negative res.eq) with
  | none => return none
  | some (dx, dy) =>
      let change ← Grid.mul prog.G dx
      let dz ← plus (← times d change) w
      let ds ← minus (negative res.ineq) change
      return some { dx, ds, dz, dy }

-----------------------------------------------------------------------------------------
-- Starting points
-----------------------------------------------------------------------------------------

/-- Raises all entries so that the least one becomes one, unless all are positive. -/
def shiftPositive (v : List K) : List K :=
  match leastOf v with
  | none => v
  | some least => if 0 < least then v else v.map (· + (1 - least))

/-- The least-squares point, its slacks and duals shifted to be positive. -/
def leastSquaresStart? (prog : Program K) : Checked (Option (Iterate K)) := do
  let x ← plus (negative prog.q) (← Grid.mul (Grid.transpose prog.G) prog.h)
  match ← prog.solveReduced? (List.replicate prog.h.length 1) x prog.b with
  | none => return none
  | some (x, y) =>
      let slack ← minus prog.h (← Grid.mul prog.G x)
      return some { x, s := shiftPositive slack, z := shiftPositive (negative slack), y }

/-- The origin, when it is strictly inside the inequalities and satisfies the equalities. -/
def originStart (prog : Program K) : Except (InteriorPoint.Fault K) (Iterate K) :=
  if prog.h.any (· ≤ 0) then .error .originViolatesInequality
  else if 0 < maxAbs prog.b then .error .originViolatesEquality
  else
    .ok {
      x := List.replicate prog.q.length 0
      s := prog.h
      z := List.replicate prog.h.length 1
      y := List.replicate prog.b.length 0
    }

/-- The starting point of either kind. -/
def start (prog : Program K) (infeasible : Bool)
    : Checked (Except (InteriorPoint.Fault K) (Iterate K)) := do
  if infeasible then
    match ← prog.leastSquaresStart? with
    | some it => return .ok it
    | none => return .error .singularStart
  else return prog.originStart

-----------------------------------------------------------------------------------------
-- Runs
-----------------------------------------------------------------------------------------

/-- The centering that the affine direction suggests. -/
def centering (prog : Program K) (it : Iterate K) (affine : Direction K) (mu : K)
    : Checked K := do
  let length := QuadraticTrials.Direction.fullLength (affine.boundary it)
  let s ← plus it.s (scale affine.ds length)
  let z ← plus it.z (scale affine.dz length)
  let reached := QuadraticTrials.Program.meanGap prog.h.length (← dot s z)
  return if 0 < mu then Scalar.clamp (QuadraticTrials.Program.cube (reached / mu)) 0 1 else 0

/-- Halves a length until it is accepted, or too short. -/
def backtrack (accept : K → Checked Bool) : (trials : Nat) → K → Checked (Option K)
  | 0, _ => return none
  | trials + 1, length => do
      if QuadraticTrials.Program.minStep ≤ length then
        if ← accept length then return some length
        else backtrack accept trials (length * Scalar.ratio 1 2)
      else return none

/-- The direction that aims at zero complementarity. -/
def affineDirection? (prog : Program K) (r : Record K) : Checked (Option (Direction K)) := do
  prog.direction? r.iterate r.residuals (← times r.iterate.s r.iterate.z)

/-- The direction that corrects for the products of the changes along an affine direction. -/
def correctedDirection? (prog : Program K) (r : Record K) (affine : Direction K) (sigma mu : K)
    : Checked (Option (Direction K)) := do
  let products ← plus (← times r.iterate.s r.iterate.z) (← times affine.ds affine.dz)
  prog.direction? r.iterate r.residuals
    (← minus products (List.replicate prog.h.length (sigma * mu)))

/-- The direction towards the central path. -/
def dampedDirection? (prog : Program K) (r : Record K) (sigma mu : K)
    : Checked (Option (Direction K)) := do
  let damped := Scalar.clamp sigma QuadraticTrials.Program.minCentering
    QuadraticTrials.Program.maxCentering
  prog.direction? r.iterate r.residuals
    (← minus (← times r.iterate.s r.iterate.z) (List.replicate prog.h.length (damped * mu)))

/-- The first length tried along a direction. -/
def firstLength (fraction : K) (r : Record K) (dir : Direction K) : K :=
  QuadraticTrials.Direction.fractionLength fraction (dir.boundary r.iterate)

/-- Whether a step from a visited point lowers the merit sufficiently. -/
def improves (prog : Program K) (r : Record K) (dir : Direction K) (length : K) : Checked Bool :=
  prog.decreasesMerit r.iterate (r.residuals.merit r.gap) dir length

/-- The damped step, its length halved until the merit falls. -/
def dampedMove (prog : Program K) (fraction : K) (r : Record K) (sigma mu : K)
    : Checked (Move K) := do
  match ← prog.dampedDirection? r sigma mu with
  | none => return .singular
  | some dir =>
      match ← backtrack (prog.improves r dir) QuadraticTrials.Program.maxTrials
          (firstLength fraction r dir) with
      | none => return .stalled
      | some length => return .advance (← r.iterate.advance dir length) length

/-- The corrected step after an affine direction, or the damped step when it does not lower the
merit sufficiently.
-/
def correctedMove (prog : Program K) (fraction : K) (r : Record K) (affine : Direction K)
    : Checked (Move K) := do
  let mu := QuadraticTrials.Program.meanGap prog.h.length r.gap
  let sigma ← prog.centering r.iterate affine mu
  match ← prog.correctedDirection? r affine sigma mu with
  | none => return .singular
  | some dir =>
      let length := firstLength fraction r dir
      if ← prog.improves r dir length then
        if length < QuadraticTrials.Program.minStep then return .stalled
        else return .advance (← r.iterate.advance dir length) length
      else prog.dampedMove fraction r sigma mu

/-- What follows a visited point. Without inequality rows the full Newton step is taken. -/
def move (prog : Program K) (fraction : K) (r : Record K) : Checked (Move K) := do
  match ← prog.affineDirection? r with
  | none => return .singular
  | some affine =>
      if prog.h.length = 0 then return .advance (← r.iterate.advance affine 1) 1
      else prog.correctedMove fraction r affine

/-- What is known about a point. -/
def record (prog : Program K) (index : Nat) (step : K) (it : Iterate K) : Checked (Record K) := do
  let residuals ← prog.residuals it
  let objective ← objective prog.P prog.q it.x
  let gap ← it.gap
  return { index, iterate := it, residuals, objective, gap, step }

end Program

/-- The answer at a visited point. -/
def Record.answer (r : Record K) (status : Status) : Solution K :=
  ⟨r.iterate.x, status, r.objective, r.index⟩

namespace Program

/-- The answer of the run from a visited point with a number of steps still allowed. -/
def answerFrom (prog : Program K) (fraction tolerance : K)
    : (remaining : Nat) → Record K → Checked (Except (InteriorPoint.Fault K) (Solution K))
  | remaining, r => do
      if ← prog.converged r.iterate r.residuals r.objective tolerance then
        return .ok (r.answer .optimal)
      else
        match remaining with
        | 0 => return .ok (r.answer .maxIterations)
        | remaining + 1 =>
            match ← prog.move fraction r with
            | .stalled => return .ok (r.answer .numericalError)
            | .singular => return .error (.singularAt r.index)
            | .advance next length =>
                prog.answerFrom fraction tolerance remaining
                  (← prog.record (r.index + 1) length next)

/-- The answer on a program under settings, after the checks of tolerance and start. -/
def answer (settings : InteriorPoint.Settings K) (prog : Program K)
    : Checked (Except (InteriorPoint.Fault K) (Solution K)) := do
  if Scalar.isPositive settings.tolerance then
    match ← prog.start settings.infeasibleStart with
    | .error fault => return .error fault
    | .ok it =>
        prog.answerFrom settings.stepFraction settings.tolerance settings.maxIterations
          (← prog.record 0 0 it)
  else return .error (.badTolerance settings.tolerance)

end Program

/-- The answer on an instance: nothing is performed before the instance is found valid. -/
def solve [NumberText K] (settings : InteriorPoint.Settings K) (options : Options K)
    (inst : Instance K)
    : Checked (Except Error (Solution K)) := do
  match inst.validate with
  | .error error => return .error error
  | .ok () =>
      let answer ← (Program.ofInstance inst).answer (settings.withOptions options)
      return answer.mapError InteriorPoint.Fault.toError

end Unsized

end QuadraticTrials

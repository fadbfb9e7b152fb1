import QuadraticTrials.Elimination
import QuadraticTrials.Program

/-!
Points of the primal-dual method on a program in slack form: their residuals, the merit that every
step must lower, the stopping test, and how far a direction can be followed.
-/

namespace QuadraticTrials

/-- A point with its slacks `s`, inequality duals `z` and equality duals `y`. -/
structure Iterate (K : Type) (n m p : Nat) where
  x : Vector K n
  s : Vector K m
  z : Vector K m
  y : Vector K p

/-- A change of each part of a point. -/
structure Direction (K : Type) (n m p : Nat) where
  dx : Vector K n
  ds : Vector K m
  dz : Vector K m
  dy : Vector K p

/-- How far a point is from satisfying the linear optimality conditions. -/
structure Residuals (K : Type) (n m p : Nat) where
  dual : Vector K n
  eq : Vector K p
  ineq : Vector K m

variable {K : Type} [Scalar K] {n m p : Nat}

namespace Iterate

/-- The point after a step of a given length along a direction. -/
def advance (it : Iterate K n m p) (dir : Direction K n m p) (length : K) : Iterate K n m p where
  x := it.x + Vec.scale dir.dx length
  s := it.s + Vec.scale dir.ds length
  z := it.z + Vec.scale dir.dz length
  y := it.y + Vec.scale dir.dy length

/-- The complementarity gap `s'z`. -/
def gap (it : Iterate K n m p) : K :=
  Vec.dot it.s it.z

end Iterate

namespace Residuals

/-- The largest violation of a constraint. -/
def primalNorm (res : Residuals K n m p) : K :=
  Scalar.max (Vec.maxAbs res.eq) (Vec.maxAbs res.ineq)

/-- The largest violation of stationarity. -/
def dualNorm (res : Residuals K n m p) : K :=
  Vec.maxAbs res.dual

/-- Infeasibility plus the complementarity gap. -/
def merit (res : Residuals K n m p) (gap : K) : K :=
  res.primalNorm + res.dualNorm + gap

end Residuals

namespace Direction

/-- The lengths at which the falling entries of a vector reach zero. -/
def zeroCrossings (v dv : Vector K m) : List K :=
  (List.zip v.toList dv.toList).filterMap fun (value, change) =>
    if change < 0 then some (-value / change) else none

/-- The smaller of a limit and a further length; there may be no limit yet, and a length that is
not even related to itself sets none.
-/
def tighten (limit : Option K) (length : K) : Option K :=
  match limit with
  | none => if length ≤ length then some length else none
  | some least => some (Scalar.min least length)

/-- The largest length that keeps slacks and inequality duals from falling below zero; `none`
when every length does.
-/
def boundary (dir : Direction K n m p) (it : Iterate K n m p) : Option K :=
  (zeroCrossings it.s dir.ds ++ zeroCrossings it.z dir.dz).foldl tighten none

/-- A length within a limit and within one. -/
def fullLength : Option K → K
  | none => 1
  | some limit => Scalar.min limit 1

/-- A fraction of a limit, within one. A negative fraction of no limit is the quotient of the
fraction by zero.
-/
def fractionLength (fraction : K) : Option K → K
  | none => if fraction < 0 then fraction / 0 else 1
  | some limit => Scalar.min (fraction * limit) 1

end Direction

namespace Program

/-- The residuals `Px + q + G'z + A'y`, `Ax - b` and `Gx + s - h`. -/
def residuals (prog : Program K n m p) (it : Iterate K n m p) : Residuals K n m p where
  dual := prog.P.mul it.x + prog.q + prog.G.transpose.mul it.z + prog.A.transpose.mul it.y
  eq := Vec.minus (prog.A.mul it.x) prog.b
  ineq := Vec.minus (prog.G.mul it.x + it.s) prog.h

/-- The merit must fall by this part of the step length. -/
def sufficientDecrease : K :=
  Scalar.ratio 1 100

/-- Whether a step lowers the merit sufficiently. -/
def decreasesMerit (prog : Program K n m p) (it : Iterate K n m p) (merit : K)
    (dir : Direction K n m p) (length : K)
    : Bool :=
  let trial := it.advance dir length
  (prog.residuals trial).merit trial.gap ≤ (1 - sufficientDecrease * length) * merit

/-- The size against which constraint violations are measured. -/
def primalScale (prog : Program K n m p) : K :=
  1 + Scalar.max (Vec.maxAbs prog.b) (Vec.maxAbs prog.h)

/-- The size against which stationarity is measured. -/
def dualScale (prog : Program K n m p) (x : Vector K n) : K :=
  1 + Scalar.max (Vec.maxAbs prog.q) (Vec.maxAbs (prog.P.mul x))

/-- The stopping test: residuals and gap are within a tolerance of their scales. -/
def converged (prog : Program K n m p) (it : Iterate K n m p) (res : Residuals K n m p)
    (objective tolerance : K)
    : Bool :=
  res.primalNorm ≤ tolerance * prog.primalScale
    && res.dualNorm ≤ tolerance * prog.dualScale it.x
    && it.gap ≤ tolerance * (1 + Scalar.abs objective)

end Program

end QuadraticTrials

import QuadraticTrials.InteriorPoint.Newton

/-!
Starting points of the primal-dual method: a least-squares point moved into the positive orthant,
or the origin when it is strictly feasible.
-/

namespace QuadraticTrials

variable {K : Type} [Scalar K] {n m p : Nat}

/-- A reason why the method cannot start or go on. -/
inductive InteriorPoint.Fault (K : Type)
  | badTolerance (tolerance : K)
  | originViolatesInequality
  | originViolatesEquality
  | singularStart
  | singularAt (iteration : Nat)

/-- The least of some numbers, `none` for no numbers. -/
def leastOf : List K → Option K
  | [] => none
  | a :: rest => some (rest.foldl Scalar.min a)

/-- Raises all entries so that the least one becomes one, unless all are positive. -/
def Vec.shiftPositive (v : Vector K m) : Vector K m :=
  match leastOf v.toList with
  | none => v
  | some least => if 0 < least then v else v.map (· + (1 - least))

namespace Program

/-- The minimizer of `0.5 x'Px + q'x + 0.5 |s|²` under the constraints, its slacks and duals
shifted to be positive.
-/
def leastSquaresStart? (prog : Program K n m p) : Option (Iterate K n m p) :=
  let x := -prog.q + prog.G.transpose.mul prog.h
  (prog.solveReduced? (Vector.replicate m 1) x prog.b).map fun (x, y) =>
    let slack := Vec.minus prog.h (prog.G.mul x)
    { x, s := Vec.shiftPositive slack, z := Vec.shiftPositive (-slack), y }

/-- The origin, when it is strictly inside the inequalities and satisfies the equalities. -/
def originStart (prog : Program K n m p)
    : Except (InteriorPoint.Fault K) (Iterate K n m p) :=
  if prog.h.toList.any (· ≤ 0) then .error .originViolatesInequality
  else if 0 < Vec.maxAbs prog.b then .error .originViolatesEquality
  else
    .ok {
      x := Vector.replicate n 0
      s := prog.h
      z := Vector.replicate m 1
      y := Vector.replicate p 0
    }

/-- The starting point of either kind. -/
def start (prog : Program K n m p) (infeasible : Bool)
    : Except (InteriorPoint.Fault K) (Iterate K n m p) :=
  if infeasible then
    match prog.leastSquaresStart? with
    | some it => .ok it
    | none => .error .singularStart
  else prog.originStart

end Program

end QuadraticTrials

import QuadraticTrials.InteriorPoint.Iterate

/-!
Newton directions of the primal-dual method. Slacks and inequality duals are eliminated, which
leaves the symmetric system `[P + G' diag(z/s) G, A'; A, 0]` for `dx` and `dy`.
-/

namespace QuadraticTrials

variable {K : Type} [Scalar K] {n m p : Nat}

namespace Program

/-- The upper left block of the reduced system for inequality weights `d`. -/
def hessian (prog : Program K n m p) (d : Vector K m) : Dense K n n :=
  prog.P.plus (prog.G.transpose.product (prog.G.scaleRows d))

/-- The matrix of the reduced system. -/
def reducedMatrix (prog : Program K n m p) (d : Vector K m) : Dense K (n + p) (n + p) :=
  Vector.zipWith (fun row column => row ++ column) (prog.hessian d) prog.A.transpose
    ++ prog.A.map fun row => row ++ Vector.replicate p (0 : K)

/-- The solution of the reduced system, unless it is singular or leaves the finite range. -/
def solveReduced? (prog : Program K n m p) (d : Vector K m) (x : Vector K n) (y : Vector K p)
    : Option (Vector K n × Vector K p) :=
  match (prog.reducedMatrix d).solve? (x ++ y) with
  | none => none
  | some both => if Vec.isFinite both then some (Vec.left both, Vec.right both) else none

/-- The Newton direction at a point with given residuals for a complementarity target. -/
def direction? (prog : Program K n m p) (it : Iterate K n m p) (res : Residuals K n m p)
    (target : Vector K m)
    : Option (Direction K n m p) :=
  let d := Vec.quotient it.z it.s
  let w := Vec.quotient (Vec.minus (Vec.times it.z res.ineq) target) it.s
  let x := Vec.minus (-res.dual) (prog.G.transpose.mul w)
  (prog.solveReduced? d x (-res.eq)).map fun (dx, dy) =>
    let change := prog.G.mul dx
    {
      dx
      ds := Vec.minus (-res.ineq) change
      dz := Vec.times d change + w
      dy
    }

end Program

end QuadraticTrials

import QuadraticTrials.Conic.Problem

/-!
The homogeneous embedding of a conic program. Two more unknowns, `tau` and `kappa`, make it always
solvable: at a limit with `tau` positive stands an optimum, at one with `kappa` positive a proof
that the constraints, or their duals, cannot be met.
-/

namespace QuadraticTrials

namespace Embedding

/-- A conic program with all sizes fixed and the cost completed by symmetry. -/
structure Problem (K : Type) (n r : Nat) where
  P : Dense K n n
  q : Vector K n
  A : Dense K r n
  b : Vector K r
  isZeroRow : Vector Bool r

/-- A point of the embedding. -/
structure Point (K : Type) (n r : Nat) where
  x : Vector K n
  s : Vector K r
  z : Vector K r
  tau : K
  kappa : K

/-- What is left of the equations of the embedding at a point. -/
structure Residual (K : Type) (n r : Nat) where
  x : Vector K n
  z : Vector K r
  tau : K

/-- A right-hand side of the complementarity equations. -/
structure Target (K : Type) (r : Nat) where
  s : Vector K r
  kappa : K

variable {K : Type} [Scalar K] {n r : Nat}

/-- The cost completed from its upper triangle. -/
def symmetric (P : Sparse K) (n : Nat) : Dense K n n :=
  Vector.ofFn fun i => Vector.ofFn fun j =>
    if i ≤ j then P.entry i j else P.entry j i

/-- A list as a vector of a given length, filled up with zeros. -/
def vectorOf (values : List K) (n : Nat) : Vector K n :=
  Vector.ofFn fun i => values.getD i 0

/-- Right-hand sides from which an inequality counts as no bound at all. -/
def noBound : K :=
  Scalar.powerOfTen 20

/-- One row of the constraints. -/
structure Row (K : Type) (n : Nat) where
  coefficients : Vector K n
  bound : K
  isZero : Bool

/-- The rows of a conic program that bound anything. -/
def rowsOf (c : Conic K) : List (Row K c.P.cols) :=
  let rows := Vector.ofFn fun i : Fin c.A.rows =>
    Row.mk ((c.A.decode c.A.rows c.P.cols).get i) ((vectorOf c.b c.A.rows).get i)
      ((Conic.zeroRows c.cones).getD i false)
  rows.toList.filter fun row => row.isZero || decide (row.bound < noBound)

/-- The problem that some rows state together with the cost of a conic program. -/
def Problem.ofRows (c : Conic K) (rows : List (Row K c.P.cols))
    : Problem K c.P.cols rows.length where
  P := symmetric c.P c.P.cols
  q := vectorOf c.q c.P.cols
  A := Vector.ofFn fun i => (rows.get i).coefficients
  b := Vector.ofFn fun i => (rows.get i).bound
  isZeroRow := Vector.ofFn fun i => (rows.get i).isZero

/-- The problem of a conic program, at its own sizes. -/
def Problem.ofConic (c : Conic K) : Problem K c.P.cols (rowsOf c).length :=
  .ofRows c (rowsOf c)

namespace Problem

/-- What is left of the equations at a point. -/
def residual (prob : Problem K n r) (v : Point K n r) : Residual K n r :=
  let Px := prob.P.mul v.x
  {
    x := Px + prob.A.transpose.mul v.z + Vec.scale prob.q v.tau
    z := Vec.minus (prob.A.mul v.x + v.s) (Vec.scale prob.b v.tau)
    tau := Vec.dot v.x Px / v.tau + Vec.dot prob.q v.x + Vec.dot prob.b v.z + v.kappa
  }

/-- Rows whose slack is free to be positive. -/
def degree (prob : Problem K n r) : Nat :=
  (prob.isZeroRow.toList.filter not).length

def mean (prob : Problem K n r) (v : Point K n r) : K :=
  (Vec.dot v.s v.z + v.tau * v.kappa) / ((prob.degree + 1 : Nat) : K)

/-- A value for each row, zero where the slack is held at zero. -/
def onFreeRows (prob : Problem K n r) (values : Vector K r) : Vector K r :=
  Vector.zipWith (fun isZero value => if isZero then 0 else value) prob.isZeroRow values

/-- The ratios of slacks and duals, zero where the slack is held at zero. -/
def scaling (prob : Problem K n r) (v : Point K n r) : Vector K r :=
  prob.onFreeRows (Vec.quotient v.s v.z)

end Problem

end Embedding

end QuadraticTrials

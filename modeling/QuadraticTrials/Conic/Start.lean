import QuadraticTrials.Conic.System

/-!
The point from which the embedding is followed.
-/

namespace QuadraticTrials

namespace Embedding

namespace Problem

variable {K : Type} [Scalar K] {n r : Nat}

/-- The values of the free rows. -/
def freeValues (prob : Problem K n r) (values : Vector K r) : List K :=
  (prob.isZeroRow.toList.zip values.toList).filterMap fun (isZero, value) =>
    if isZero then none else some value

/-- The least value that the free rows of a first point have: at least one, and at least a tenth
of the mean of their positive parts.
-/
def leastStart (free : List K) : K :=
  let total := runningSum (free.map (Scalar.max 0))
  Scalar.max 1 (total * Scalar.decimal 1 1 / (free.length : K))

/-- Raises all entries alike so that those of free rows are large enough for a first point. -/
def raised (prob : Problem K n r) (values : Vector K r) : Vector K r :=
  match prob.freeValues values with
  | [] => values
  | first :: rest =>
      let least := rest.foldl Scalar.min first
      let target := leastStart (first :: rest)
      if least ≤ 0 then values.map (· + -least + target)
      else if least < target then values.map (· + (target - least))
      else values

/-- Whether the cost has no quadratic part. -/
def isLinear (prob : Problem K n r) : Bool :=
  prob.P.toList.all fun row => row.toList.all Scalar.isZero

/-- Unknowns, slacks and duals to start from. With a quadratic cost they come from the minimizer
with squared slacks. A linear cost has none, so there the point nearest to the constraints and
the duals nearest to stationarity are found apart.
-/
def estimates? (prob : Problem K n r) : Option (Vector K n × Vector K r × Vector K r) :=
  let system := prob.scaled (prob.onFreeRows (Vector.replicate r 1))
  if prob.isLinear then
    match system.solve? (Vector.replicate n 0) prob.b with
    | none => none
    | some (x, s) =>
        (system.solve? (-prob.q) (Vector.replicate r 0)).map fun (_, z) => (x, -s, z)
  else (system.solve? (-prob.q) prob.b).map fun (x, z) => (x, -z, z)

/-- The first point: the estimates, moved inside the cones. -/
def start? (prob : Problem K n r) : Option (Point K n r) :=
  prob.estimates?.map fun (x, s, z) =>
    {
      x
      s := prob.onFreeRows (prob.raised s)
      z := Vector.zipWith (fun isZero (value, moved) => if isZero then value else moved)
        prob.isZeroRow (Vector.zipWith Prod.mk z (prob.raised z))
      tau := 1
      kappa := 1
    }

end Problem

end Embedding

end QuadraticTrials

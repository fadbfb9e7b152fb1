import QuadraticTrials.Conic.Embedding

/-!
Weights that bring the rows and columns of a problem, and its cost, to sizes near one. Each round
divides every row and column by the square root of its largest entry and the cost by its mean
size; the weights that have gathered stay within fixed bounds.
-/

namespace QuadraticTrials

namespace Embedding

/-- Factors for the unknowns, for the rows and for the cost. -/
structure Weights (K : Type) (n r : Nat) where
  columns : Vector K n
  rows : Vector K r
  cost : K

namespace Weights

variable {K : Type} [Scalar K] {n r : Nat}

/-- The weights that leave everything as it is. -/
def one : Weights K n r :=
  ⟨Vector.replicate n 1, Vector.replicate r 1, 1⟩

/-- Weights on top of other weights. -/
def combine (first second : Weights K n r) : Weights K n r :=
  ⟨Vec.times first.columns second.columns, Vec.times first.rows second.rows,
    first.cost * second.cost⟩

/-- The point of the problem without weights. The ratio of `kappa` and `tau` stays as it is. -/
def restore (w : Weights K n r) (v : Point K n r) : Point K n r :=
  { v with
    x := Vec.times w.columns v.x
    s := Vec.quotient v.s w.rows
    z := (Vec.times w.rows v.z).map (· / w.cost) }

end Weights

namespace Problem

variable {K : Type} [Scalar K] {n r : Nat}

/-- The problem in weighted unknowns, rows and cost. -/
def weigh (prob : Problem K n r) (w : Weights K n r) : Problem K n r :=
  { prob with
    P := Dense.scaleRows w.columns
      (prob.P.map fun row => Vec.scale (Vec.times row w.columns) w.cost)
    q := Vec.scale (Vec.times w.columns prob.q) w.cost
    A := Dense.scaleRows w.rows (prob.A.map fun row => Vec.times row w.columns)
    b := Vec.times w.rows prob.b }

/-- The least weight. -/
def leastWeight : K :=
  Scalar.decimal 1 4

/-- The largest weight. -/
def largestWeight : K :=
  Scalar.powerOfTen 4

/-- A factor changed so that, on top of a weight, it stays within the bounds of weights. -/
def withinBounds (weight factor : K) : K :=
  Scalar.clamp factor (leastWeight / weight) (largestWeight / weight)

/-- The factor that evens out the cost, one when it has no size. -/
def costFactor (prob : Problem K n r) (weight : K) : K :=
  let mean := runningSum (prob.P.map Vec.maxAbs).toList / (n : K)
  let linear := Vec.maxAbs prob.q
  if Scalar.isZero mean || Scalar.isZero linear then 1
  else withinBounds weight (1 / Scalar.max linear mean)

variable [SquareRoot K]

/-- The factor that evens out a row or column with the given largest entry, one when it has no
entry other than zero.
-/
def evenFactor (weight size : K) : K :=
  if Scalar.isZero size then withinBounds weight 1
  else withinBounds weight (1 / SquareRoot.sqrt size)

/-- The weights of one more round, on top of those already gathered. -/
def moreWeights (prob : Problem K n r) (w : Weights K n r) : Weights K n r :=
  let weighed := prob.weigh w
  let columnSizes :=
    Vector.zipWith (fun cost column => Scalar.max (Vec.maxAbs cost) (Vec.maxAbs column))
      weighed.P weighed.A.transpose
  let even : Weights K n r :=
    ⟨Vector.zipWith evenFactor w.columns columnSizes,
      Vector.zipWith evenFactor w.rows (weighed.A.map Vec.maxAbs), 1⟩
  let evened := w.combine even
  { evened with cost := evened.cost * (prob.weigh evened).costFactor evened.cost }

/-- Rounds of balancing. -/
def balancingRounds : Nat := 10

/-- The weights that balance a problem. -/
def balance (prob : Problem K n r) : Weights K n r :=
  balancingRounds.repeat prob.moreWeights .one

end Problem

end Embedding

end QuadraticTrials

import QuadraticTrials.Dense

/-!
Symmetric systems whose pivots have known signs. A factor keeps, for each unknown, its pivot and
the multiples of its equation that were taken from those below. A pivot that is too small for its
sign is replaced, so that a factor always exists; corrections by the residual then lead back to
the system that is meant.
-/

namespace QuadraticTrials

/-- The pivots of a symmetric matrix, each with the multipliers below it. -/
inductive Factor (K : Type) : Nat → Type
  | empty : Factor K 0
  | step {n : Nat} (pivot : K) (multipliers : Vector K n) (rest : Factor K n) : Factor K (n + 1)

namespace Factor

variable {K : Type} [Scalar K] {n : Nat}

/-- The magnitude up to which a pivot is replaced. -/
def leastPivot : K :=
  Scalar.decimal 1 13

/-- The magnitude of a replaced pivot. -/
def replacedPivot : K :=
  Scalar.decimal 2 7

/-- A pivot of the expected sign: one that does not reach it by enough is replaced. -/
def usablePivot (isPositive : Bool) (pivot : K) : K :=
  if isPositive then if pivot ≤ leastPivot then replacedPivot else pivot
  else if -pivot ≤ leastPivot then -replacedPivot else pivot

/-- Takes multiples of the first row from the others, which leaves a matrix without the first row
and column.
-/
def eliminate (a : Dense K (n + 1) (n + 1)) (multipliers : Vector K n) : Dense K n n :=
  let first := Vec.tail (Vec.head a)
  Vector.ofFn fun i =>
    let row := Vec.tail (a.get i.succ)
    Vector.ofFn fun j => row.get j - multipliers.get i * first.get j

/-- The factor of a symmetric matrix, given the signs that its pivots should have. -/
def ofSymmetric : {n : Nat} → Dense K n n → (arePositive : Vector Bool n) → Factor K n
  | 0, _, _ => .empty
  | n + 1, a, arePositive =>
      let pivot := usablePivot (Vec.head arePositive) (Vec.head (Vec.head a))
      let multipliers : Vector K n := (Vec.tail a).map (Vec.head · / pivot)
      .step pivot multipliers
        (ofSymmetric (eliminate a multipliers) (Vec.tail arePositive))

/-- The solution for a right-hand side: the multipliers carry each constant down to the equations
below, and the values found below back up.
-/
def solve : {n : Nat} → Factor K n → Vector K n → Vector K n
  | 0, .empty, _ => Vec.empty
  | n + 1, .step pivot multipliers rest, b =>
      let below := rest.solve (Vec.minus (Vec.tail b) (Vec.scale multipliers (Vec.head b)))
      Vector.insertIdx below 0
        (Vec.head b / pivot - runningSum (Vec.times multipliers below).toList)

/-- The accuracy relative to the right-hand side at which corrections stop. -/
def relativeTolerance : K :=
  Scalar.decimal 1 13

/-- The accuracy at which corrections stop whatever the right-hand side. -/
def absoluteTolerance : K :=
  Scalar.decimal 1 12

/-- A correction goes on while it makes the residual smaller by at least this ratio. -/
def improvement : K :=
  ((5 : Nat) : K)

/-- Corrects a solution of `a x = b` by its residual. A correction that makes the residual larger
is not taken, and one that makes it little smaller is the last.
-/
def correct? (f : Factor K n) (a : Dense K n n) (b : Vector K n)
    : (rounds : Nat) → Vector K n → Option (Vector K n)
  | rounds, x =>
      let residual := Vec.minus b (a.mul x)
      if Vec.isFinite residual then
        match rounds with
        | 0 => some x
        | rounds + 1 =>
            let error := Vec.maxAbs residual
            if error ≤ absoluteTolerance + relativeTolerance * Vec.maxAbs b then some x
            else
              let corrected := x + f.solve residual
              let left := Vec.minus b (a.mul corrected)
              if Vec.isFinite left then
                if error < improvement * Vec.maxAbs left then
                  if Vec.maxAbs left < error then some corrected else some x
                else f.correct? a b rounds corrected
              else none
      else none

/-- Rounds of correction for each solution. -/
def corrections : Nat := 10

/-- A solution of `a x = b` by a factor of a matrix close to `a`. -/
def solve? (f : Factor K n) (a : Dense K n n) (b : Vector K n) : Option (Vector K n) :=
  f.correct? a b corrections (f.solve b)

end Factor

end QuadraticTrials

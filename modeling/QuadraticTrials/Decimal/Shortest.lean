import QuadraticTrials.Decimal.Binary

/-!
The fewest decimal digits that read back as a given binary float. A grid of `n` significant
digits is searched for each `n`; the two neighbours of the exact value on it are tested against
the interval of numbers that round to the float.
-/

namespace QuadraticTrials

/-- The positive number `digits · 10 ^ exponent`; the last digit is not zero. -/
structure Decimal where
  digits : Nat
  exponent : Int
  deriving DecidableEq, Repr

/-- Which neighbour is taken when the exact value lies halfway. -/
inductive Tie
  | toEven
  | upward
  deriving DecidableEq, Repr

namespace Decimal

/-- Moves trailing zeros into the exponent; `fuel` bounds the number of zeros looked for. -/
def trim : (fuel : Nat) → Decimal → Decimal
  | 0, d => d
  | fuel + 1, d =>
      if d.digits % 10 == 0 then trim fuel ⟨d.digits / 10, d.exponent + 1⟩ else d

/-- Whether `count · 10 ^ grid` rounds to `b`; the ends of the interval round to even. -/
def readsBack (b : Binary) (count : Nat) (grid : Int) : Bool :=
  let low := Magnitude.compareUnits count grid b.lowerEnd
  let high := Magnitude.compareUnits count grid b.upperEnd
  if b.mantissa % 2 == 0 then low != .lt && high != .gt else low == .gt && high == .lt

/-- Whether the left-over part is rounded up to the next unit. -/
def roundsUp (tie : Tie) (whole : Nat) (rest : Magnitude) : Bool :=
  match compare (2 * rest.numerator) rest.denominator with
  | .lt => false
  | .gt => true
  | .eq => tie == .upward || whole % 2 == 1

/-- The neighbour of `b` on one grid that reads back, the nearer one when both do. -/
def onGrid? (tie : Tie) (b : Binary) (grid : Int) : Option Decimal :=
  let (whole, rest) := b.magnitude.inUnits grid
  let below := readsBack b whole grid
  let above := readsBack b (whole + 1) grid
  if below && above then
    some ⟨if roundsUp tie whole rest then whole + 1 else whole, grid⟩
  else if below then some ⟨whole, grid⟩
  else if above then some ⟨whole + 1, grid⟩
  else none

/-- The shortest decimal that reads back as the magnitude of `b`; `none` for zero. Seventeen
digits always suffice for a double, so the search ends there.
-/
def shortest? (tie : Tie) (b : Binary) : Option Decimal :=
  if b.mantissa == 0 then none
  else
    let lead := b.magnitude.leadingExponent
    ((List.range 17).findSome? fun (n : Nat) => onGrid? tie b (lead - n)).map (trim 20)

/-- The digits as characters, most significant first. -/
def digitChars (d : Decimal) : List Char :=
  Nat.toDigits 10 d.digits

/-- The power of ten of the leading digit. -/
def leadingExponent (d : Decimal) : Int :=
  d.exponent + d.digitChars.length - 1

end Decimal

end QuadraticTrials

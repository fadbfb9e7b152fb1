/-!
Finite binary floats as exact numbers: a sign and `mantissa · 2 ^ exponent`. All decimal text is
computed from this form in whole-number arithmetic.
-/

namespace QuadraticTrials

/-- The number `± mantissa · 2 ^ exponent`, in the form in which a double stores it. -/
structure Binary where
  negative : Bool
  mantissa : Nat
  exponent : Int
  deriving DecidableEq, Repr

/-- A non-negative fraction, the magnitude of a stored number. -/
structure Magnitude where
  numerator : Nat
  denominator : Nat

namespace Binary

/-- The stored form of a finite float; infinities and undefined values have none. -/
def ofFloat? (x : Float) : Option Binary :=
  let bits := x.toBits.toNat
  let negative := bits / Nat.pow 2 63 == 1
  let biased : Nat := bits / Nat.pow 2 52 % Nat.pow 2 11
  let fraction : Nat := bits % Nat.pow 2 52
  if biased == 2047 then none
  else if biased == 0 then some ⟨negative, fraction, -1074⟩
  else some ⟨negative, Nat.pow 2 52 + fraction, (biased : Int) - 1075⟩

/-- `count` quarters of the last binary place, as a fraction. -/
def quarters (b : Binary) (count : Nat) : Magnitude :=
  if b.exponent ≥ 0 then ⟨count * Nat.pow 2 b.exponent.toNat, 4⟩
  else ⟨count, 4 * Nat.pow 2 (-b.exponent).toNat⟩

/-- The distance from zero. -/
def magnitude (b : Binary) : Magnitude :=
  b.quarters (4 * b.mantissa)

/-- The numbers that round to `b` reach down to this one. The gap below a power of two is half
the gap above it.
-/
def lowerEnd (b : Binary) : Magnitude :=
  if b.mantissa == Nat.pow 2 52 && b.exponent > -1074 then b.quarters (4 * b.mantissa - 1)
  else b.quarters (4 * b.mantissa - 2)

/-- The numbers that round to `b` reach up to this one. -/
def upperEnd (b : Binary) : Magnitude :=
  b.quarters (4 * b.mantissa + 2)

end Binary

namespace Magnitude

/-- Number of decimal digits, none for zero. -/
def digitCount (n : Nat) : Nat :=
  if n == 0 then 0 else (Nat.toDigits 10 n).length

/-- The power of ten of the leading digit of a positive fraction. -/
def leadingExponent (v : Magnitude) : Int :=
  if v.numerator ≥ v.denominator then
    (digitCount (v.numerator / v.denominator) : Int) - 1
  else
    -(digitCount ((v.denominator - 1) / v.numerator) : Int)

/-- The fraction counted in units of `10 ^ grid`: whole units, and what is left over a common
denominator.
-/
def inUnits (v : Magnitude) (grid : Int) : Nat × Magnitude :=
  let scaled : Magnitude :=
    if grid ≥ 0 then ⟨v.numerator, v.denominator * Nat.pow 10 grid.toNat⟩
    else ⟨v.numerator * Nat.pow 10 (-grid).toNat, v.denominator⟩
  (scaled.numerator / scaled.denominator,
    ⟨scaled.numerator % scaled.denominator, scaled.denominator⟩)

/-- Comparison of `count · 10 ^ grid` with a fraction, by cross multiplication. -/
def compareUnits (count : Nat) (grid : Int) (v : Magnitude) : Ordering :=
  if grid ≥ 0 then compare (count * Nat.pow 10 grid.toNat * v.denominator) v.numerator
  else compare (count * v.denominator) (v.numerator * Nat.pow 10 (-grid).toNat)

end Magnitude

end QuadraticTrials

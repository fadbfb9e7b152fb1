import QuadraticTrials.Decimal.Shortest

/-!
Binary floats rounded to a given number of decimal places or digits. The exact value is rounded,
and a half goes to the even neighbour.
-/

namespace QuadraticTrials

namespace Decimal

/-- The fraction in whole units of `10 ^ grid`, rounded to nearest. -/
def roundedUnits (v : Magnitude) (grid : Int) : Nat :=
  let (whole, rest) := v.inUnits grid
  if roundsUp .toEven whole rest then whole + 1 else whole

/-- `count` units of `10 ^ (-places)` in positional notation. -/
def positional (count places : Nat) : String :=
  let digits := Nat.toDigits 10 count
  let padded := List.replicate (places + 1 - digits.length) '0' ++ digits
  let whole := padded.take (padded.length - places)
  let fraction := padded.drop (padded.length - places)
  String.ofList (if fraction.isEmpty then whole else whole ++ '.' :: fraction)

/-- The magnitude of a number with a fixed number of decimal places. -/
def fixedMagnitude (places : Nat) (b : Binary) : String :=
  positional (roundedUnits b.magnitude (-(places : Int))) places

/-- A magnitude as one digit, `places` further digits and a power of ten. -/
def scientificParts (places : Nat) (b : Binary) : Nat × Int :=
  if b.mantissa == 0 then (0, 0)
  else
    let lead := b.magnitude.leadingExponent
    let count := roundedUnits b.magnitude (lead - places)
    if count == Nat.pow 10 (places + 1) then (Nat.pow 10 places, lead + 1) else (count, lead)

/-- The magnitude of a number in scientific notation, its exponent unpadded. -/
def scientificMagnitude (places : Nat) (b : Binary) : String :=
  let (count, lead) := scientificParts places b
  positional count places ++ "e" ++ toString lead

end Decimal

end QuadraticTrials

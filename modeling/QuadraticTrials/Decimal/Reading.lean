import QuadraticTrials.Decimal.Shortest

/-!
Floats read from plain decimal text, rounded correctly: a sign, digits with an optional point and
an optional exponent, or one of the words for infinity and the undefined value.
-/

namespace QuadraticTrials

namespace Decimal

/-- Digits at the head of a text, and what follows them. -/
def leadingDigits (text : List Char) : List Char × List Char :=
  (text.takeWhile Char.isDigit, text.dropWhile Char.isDigit)

/-- A leading sign, absent counting as plus. -/
def leadingSign : List Char → Bool × List Char
  | '-' :: rest => (true, rest)
  | '+' :: rest => (false, rest)
  | rest => (false, rest)

/-- The number that digits write. -/
def ofDigits (digits : List Char) : Nat :=
  digits.foldl (fun n c => 10 * n + (c.toNat - '0'.toNat)) 0

/-- An exponent mark with its digits, or nothing. -/
def exponent? : List Char → Option Int
  | [] => some 0
  | mark :: rest =>
      if mark == 'e' || mark == 'E' then
        let (negative, rest) := leadingSign rest
        let (digits, rest) := leadingDigits rest
        if digits.isEmpty || !rest.isEmpty then none
        else some (if negative then -(ofDigits digits : Int) else ofDigits digits)
      else none

/-- The double nearest to `count · 10 ^ exponent`. Powers of ten that no double reaches are
decided without being computed.
-/
def nearestFloat (count : Nat) (exponent : Int) : Float :=
  let top := exponent + Magnitude.digitCount count
  if count == 0 || top < -330 then 0
  else if top > 320 then 1 / 0
  else if exponent ≥ 0 then Float.ofScientific count false exponent.toNat
  else Float.ofScientific count true (-exponent).toNat

/-- Digits, with a point before, between or after them, and an exponent. -/
def unsigned? (text : List Char) : Option Float :=
  let (whole, rest) := leadingDigits text
  let (fraction, rest) :=
    match rest with
    | '.' :: rest => leadingDigits rest
    | rest => ([], rest)
  if whole.isEmpty && fraction.isEmpty then none
  else
    (exponent? rest).map fun e =>
      nearestFloat (ofDigits (whole ++ fraction)) (e - fraction.length)

/-- The words for values that are not finite, in any case of their letters. -/
def word? (text : List Char) : Option Float :=
  let lower := String.ofList (text.map Char.toLower)
  if lower == "inf" || lower == "infinity" then some (1 / 0)
  else if lower == "nan" then some (0 / 0)
  else none

def parse? (text : String) : Option Float :=
  let (negative, rest) := leadingSign text.toList
  ((word? rest).orElse fun _ => unsigned? rest).map fun x => if negative then -x else x

end Decimal

end QuadraticTrials

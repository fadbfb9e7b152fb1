import QuadraticTrials.Decimal.Literal
import QuadraticTrials.Decimal.Rounded

/-!
The written forms of a number type: for messages, for tables, and as literals of the stored
formats. Doubles use the shortest digits that read back.
-/

namespace QuadraticTrials

/-- How the numbers of a type are written and read. -/
class NumberText (K : Type) where
  /-- Positional, never with an exponent. -/
  plain : K → String
  /-- Positional with a fixed number of places. -/
  fixed : Nat → K → String
  /-- One digit, a fixed number of places and a power of ten. -/
  scientific : Nat → K → String
  /-- The stored literal; values that are not finite have none. -/
  toLiteral? : K → Option Literal
  /-- The number of a stored literal, unless it is out of range. -/
  ofLiteral? : Literal → Option K

namespace NumberText

/-- Writes a float by its magnitude, with the usual words for values that are not finite. -/
def floatText (magnitude : Binary → String) (x : Float) : String :=
  match Binary.ofFloat? x with
  | some b => (if b.negative then "-" else "") ++ magnitude b
  | none => if x > 0 then "inf" else if x < 0 then "-inf" else "NaN"

/-- Shortest digits in positional notation, a tie going up. -/
def plainMagnitude (b : Binary) : String :=
  match Decimal.shortest? .upward b with
  | none => "0"
  | some d =>
      if d.exponent ≥ 0 then Decimal.positional (d.digits * Nat.pow 10 d.exponent.toNat) 0
      else Decimal.positional d.digits (-d.exponent).toNat

instance : NumberText Float where
  plain := floatText plainMagnitude
  fixed places := floatText (Decimal.fixedMagnitude places)
  scientific places := floatText (Decimal.scientificMagnitude places)
  toLiteral? := Literal.ofFloat?
  ofLiteral? := Literal.toFloat?

end NumberText

end QuadraticTrials

import QuadraticTrials.Decimal.Shortest

/-!
Number literals of the stored formats: an optional minus sign, whole digits without leading
zeros, a fraction and an exponent. Reading scales a bounded significand; writing uses the
shortest digits.
-/

namespace QuadraticTrials

/-- A number as it is written. An empty fraction stands for no decimal point. -/
structure Literal where
  negative : Bool
  whole : Nat
  fraction : List (Fin 10)
  exponent : Option Int
  deriving DecidableEq, Repr

namespace Literal

def digitChar (d : Fin 10) : Char :=
  Char.ofNat ('0'.toNat + d)

def digit? (c : Char) : Option (Fin 10) :=
  if h : '0'.toNat ≤ c.toNat ∧ c.toNat - '0'.toNat < 10 then some ⟨c.toNat - '0'.toNat, h.2⟩
  else none

def isWhole (l : Literal) : Bool :=
  l.fraction.isEmpty && l.exponent.isNone

def ofInt (i : Int) : Literal :=
  ⟨decide (i < 0), i.natAbs, [], none⟩

/-- The characters of a literal; an exponent always shows its sign. -/
def chars (l : Literal) : List Char :=
  (if l.negative then ['-'] else [])
    ++ Nat.toDigits 10 l.whole
    ++ (if l.fraction.isEmpty then [] else '.' :: l.fraction.map digitChar)
    ++ match l.exponent with
      | none => []
      | some e => 'e' :: (if e < 0 then '-' else '+') :: Nat.toDigits 10 e.natAbs

def text (l : Literal) : String :=
  String.ofList l.chars

/-- Splits digits before and after the point that follows the first `count` of them. -/
def split (count : Nat) (digits : List Char) : Nat × List (Fin 10) :=
  let padded := digits ++ List.replicate (count - digits.length) '0'
  ((padded.take count).foldl (fun n c => 10 * n + ((digit? c).elim 0 Fin.val)) 0,
    (padded.drop count).filterMap digit?)

/-- A decimal in positional notation when its leading exponent lies in `-5 … 15`, otherwise
with an exponent. An integral positional value keeps `.0`.
-/
def ofDecimal (negative : Bool) (d : Decimal) : Literal :=
  let digits := d.digitChars
  let lead := d.leadingExponent
  if lead < -5 || lead > 15 then
    let (whole, fraction) := split 1 digits
    ⟨negative, whole, fraction, some lead⟩
  else if lead < 0 then
    let (_, fraction) := split 0 (List.replicate (-lead - 1).toNat '0' ++ digits)
    ⟨negative, 0, fraction, none⟩
  else
    let (whole, fraction) := split (lead.toNat + 1) digits
    ⟨negative, whole, if fraction.isEmpty then [0] else fraction, none⟩

/-- The literal of a finite float, shortest digits with ties to even. -/
def ofFloat? (x : Float) : Option Literal :=
  (Binary.ofFloat? x).map fun b =>
    match Decimal.shortest? .toEven b with
    | none => ⟨b.negative, 0, [0], none⟩
    | some d => ofDecimal b.negative d

/-- Significands are kept below this bound, the range of a 64-bit word. -/
def significandBound : Nat := Nat.pow 2 64

/-- Extends a significand by whole digits; from the first digit that does not fit, every digit
counts only as a power of ten.
-/
def takeWhole : List (Fin 10) → Nat → Nat × Nat
  | [], significand => (significand, 0)
  | d :: rest, significand =>
      if 10 * significand + d < significandBound then takeWhole rest (10 * significand + d)
      else (significand, rest.length + 1)

/-- Extends a significand by fraction digits, giving also how many were taken; the digits from
the first one that does not fit are dropped.
-/
def takeFraction : List (Fin 10) → Nat → Nat × Nat
  | [], significand => (significand, 0)
  | d :: rest, significand =>
      if 10 * significand + d < significandBound then
        let (all, taken) := takeFraction rest (10 * significand + d)
        (all, taken + 1)
      else (significand, 0)

/-- The significand and the power of ten by which it is scaled. -/
def scaled (l : Literal) : Nat × Int :=
  let (significand, tens) := takeWhole ((Nat.toDigits 10 l.whole).filterMap digit?) 0
  let (significand, taken) := takeFraction l.fraction significand
  (significand, (tens : Int) - taken + l.exponent.getD 0)

/-- The largest power of ten that a double holds. -/
def maxTens : Nat := 308

def tens (n : Nat) : Float :=
  Float.ofScientific 1 false n

/-- The float of a literal: its significand multiplied or divided by a power of ten. A value
beyond the range of doubles is refused; one below it is zero.
-/
def toFloat? (l : Literal) : Option Float :=
  let (significand, exponent) := l.scaled
  let start := Float.ofNat significand
  let magnitude? : Option Float :=
    if significand == 0 then some 0
    else if exponent > maxTens then none
    else if exponent ≥ 0 then
      let value := start * tens exponent.toNat
      if value.isFinite then some value else none
    else if exponent ≥ -maxTens then some (start / tens (-exponent).toNat)
    else if exponent ≥ -(2 * maxTens) then
      some (start / tens maxTens / tens (-exponent - maxTens).toNat)
    else some 0
  magnitude?.map fun value => if l.negative then -value else value

end Literal

end QuadraticTrials

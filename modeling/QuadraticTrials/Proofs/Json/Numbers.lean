import Mathlib
import QuadraticTrials.Json.Tree

/-!
Number literals read back. The text of a literal is read to that literal, up to whatever ends a
number after it.
-/

namespace QuadraticTrials

-----------------------------------------------------------------------------------------
-- Digits
-----------------------------------------------------------------------------------------

namespace Literal

theorem digit?_digitChar (d : Fin 10) : digit? (digitChar d) = some d := by
  decide +revert

theorem digit?_of_isDigit {c : Char} (digit : c.isDigit)
    : ∃ d, digit? c = some d ∧ d.val = c.toNat - '0'.toNat := by
  have range : '0'.toNat ≤ c.toNat ∧ c.toNat - '0'.toNat < 10 := by
    simp only [Char.isDigit, Bool.and_eq_true, decide_eq_true_eq] at digit
    obtain ⟨low, high⟩ := digit
    have low : '0'.toNat ≤ c.toNat := low
    have high : c.toNat ≤ '9'.toNat := high
    have nine : '9'.toNat = '0'.toNat + 9 := rfl
    omega
  exact ⟨⟨c.toNat - '0'.toNat, range.2⟩, dif_pos range, rfl⟩

end Literal

namespace Tree

open Literal

/-- Nothing more of a run of digits follows. -/
def EndsDigits (rest : List Char) : Prop :=
  ∀ c ∈ rest.head?, digit? c = none

/-- Nothing more of a number follows. -/
def EndsNumber (rest : List Char) : Prop :=
  ∀ c ∈ rest.head?, digit? c = none ∧ c ≠ '.' ∧ c ≠ 'e' ∧ c ≠ 'E'

theorem EndsNumber.endsDigits {rest : List Char} (ends : EndsNumber rest) : EndsDigits rest :=
  fun c first => (ends c first).1

/-- Nothing is read where digits end. -/
theorem readDigits_of_ends {rest : List Char} (ends : EndsDigits rest)
    : readDigits rest = ([], rest) := by
  cases rest with
  | nil => rfl
  | cons c rest => simp [readDigits, ends c rfl]

/-- Digits are read up to their end, by induction on them. -/
theorem readDigits_append {digits : List Char} {rest : List Char}
    (all : ∀ c ∈ digits, c.isDigit) (ends : EndsDigits rest)
    : readDigits (digits ++ rest) = (digits.filterMap digit?, rest) := by
  induction digits with
  | nil => exact readDigits_of_ends ends
  | cons c digits ih =>
      obtain ⟨d, read, -⟩ := digit?_of_isDigit (all c List.mem_cons_self)
      have later := ih fun c member => all c (List.mem_cons_of_mem _ member)
      simp [readDigits, read, later]

/-- Written digits are read to themselves, by induction on them. -/
theorem readDigits_map_digitChar (digits : List (Fin 10)) {rest : List Char}
    (ends : EndsDigits rest)
    : readDigits (digits.map digitChar ++ rest) = (digits, rest) := by
  induction digits with
  | nil => exact readDigits_of_ends ends
  | cons d digits ih => simp [readDigits, digit?_digitChar, ih]

/-- The number that digits write is read off them, by induction with a first part generalized. -/
theorem foldl_filterMap_digit? {digits : List Char} (all : ∀ c ∈ digits, c.isDigit) (first : Nat)
    : (digits.filterMap digit?).foldl (fun n (d : Fin 10) => 10 * n + d.val) first
      = Nat.ofDigitChars 10 digits first := by
  induction digits generalizing first with
  | nil => rfl
  | cons c digits ih =>
      obtain ⟨d, read, value⟩ := digit?_of_isDigit (all c List.mem_cons_self)
      rw [List.filterMap_cons_some read, List.foldl_cons, value, Nat.ofDigitChars_cons]
      exact ih (fun c member => all c (List.mem_cons_of_mem _ member)) _

/-- The digits of a number are read, at least one, and write it. -/
theorem exists_readDigits_toDigits (n : Nat) {rest : List Char} (ends : EndsDigits rest)
    : ∃ first others,
        readDigits (Nat.toDigits 10 n ++ rest) = (first :: others, rest)
          ∧ ofDigits (first :: others) = n := by
  have all : ∀ c ∈ Nat.toDigits 10 n, c.isDigit :=
    fun c => Nat.isDigit_of_mem_toDigits (by decide) (by decide)
  have value := foldl_filterMap_digit? all 0
  rw [Nat.ofDigitChars_ten_toDigits] at value
  rw [readDigits_append all ends]
  cases digits : Nat.toDigits 10 n with
  | nil => exact absurd digits Nat.toDigits_ne_nil
  | cons c cs =>
      rw [digits] at all value
      obtain ⟨d, read, -⟩ := digit?_of_isDigit (all c List.mem_cons_self)
      rw [List.filterMap_cons_some read] at value ⊢
      exact ⟨d, _, rfl, value⟩

/-- Only zero begins with the digit zero, by induction on the number of digits. -/
theorem head?_toDigits {n : Nat} (positive : 0 < n) : (Nat.toDigits 10 n).head? ≠ some '0' := by
  induction n using Nat.strongRecOn with
  | ind n ih =>
      by_cases single : n < 10
      · rw [Nat.toDigits_of_lt_base single]
        simpa using positive.ne'
      · have shorter := ih (n / 10) (by omega) (by omega)
        rw [Nat.toDigits_of_base_le (by decide) (by omega), List.head?_append]
        cases head : (Nat.toDigits 10 (n / 10)).head? with
        | none => exact absurd (List.head?_eq_none_iff.mp head) Nat.toDigits_ne_nil
        | some c =>
            rw [head] at shorter
            exact shorter

-----------------------------------------------------------------------------------------
-- Parts of a number
-----------------------------------------------------------------------------------------

/-- Digits that do not begin with zero are whole digits. -/
theorem readWhole_of_digits {s rest : List Char} {d : Fin 10} {digits : List (Fin 10)}
    (nonzero : s.head? ≠ some '0') (read : readDigits s = (d :: digits, rest))
    : readWhole s = some (ofDigits (d :: digits), rest) := by
  unfold readWhole
  split
  case h_1 => exact absurd rfl nonzero
  case h_2 => rw [read]

/-- Whole digits read back; zero is the only number with the digit zero in front. -/
theorem readWhole_toDigits (n : Nat) {rest : List Char} (ends : EndsDigits rest)
    : readWhole (Nat.toDigits 10 n ++ rest) = some (n, rest) := by
  rcases Nat.eq_zero_or_pos n with rfl | positive
  · rfl
  · obtain ⟨first, others, read, value⟩ := exists_readDigits_toDigits n ends
    have nonzero : (Nat.toDigits 10 n ++ rest).head? ≠ some '0' := by
      rw [List.head?_append_of_ne_nil _ Nat.toDigits_ne_nil]
      exact head?_toDigits positive
    rw [readWhole_of_digits nonzero read, value]

/-- The fraction part of a literal, empty without digits. -/
def fractionChars (fraction : List (Fin 10)) : List Char :=
  if fraction.isEmpty then [] else '.' :: fraction.map digitChar

/-- A fraction reads back; an empty one has no point. -/
theorem readFraction_append (fraction : List (Fin 10)) {rest : List Char} (ends : EndsDigits rest)
    (pointless : rest.head? ≠ some '.')
    : readFraction (fractionChars fraction ++ rest) = some (fraction, rest) := by
  cases fraction with
  | nil =>
      simp only [fractionChars, List.isEmpty_nil, if_true, List.nil_append]
      unfold readFraction
      split
      case h_1 later => exact absurd rfl pointless
      case h_2 => rfl
  | cons d fraction =>
      have read := readDigits_map_digitChar (d :: fraction) ends
      simp only [fractionChars, List.isEmpty_cons, Bool.false_eq_true, if_false, List.cons_append]
      rw [readFraction, read]

/-- The exponent part of a literal. -/
def exponentChars : Option Int → List Char
  | none => []
  | some e => 'e' :: (if e < 0 then '-' else '+') :: Nat.toDigits 10 e.natAbs

/-- An exponent reads back with its sign, which is always written. -/
theorem readExponent_append (exponent : Option Int) {rest : List Char} (ends : EndsNumber rest)
    : readExponent (exponentChars exponent ++ rest) = some (exponent, rest) := by
  cases exponent with
  | none =>
      cases rest with
      | nil => rfl
      | cons c rest =>
          obtain ⟨-, -, lower, upper⟩ := ends c rfl
          simp [exponentChars, readExponent, lower, upper]
  | some e =>
      obtain ⟨first, others, read, value⟩ := exists_readDigits_toDigits e.natAbs ends.endsDigits
      by_cases negative : e < 0
      · simp [exponentChars, readExponent, negative, read, value, abs_of_neg negative]
      · simp [exponentChars, readExponent, negative, read, value, abs_of_nonneg (not_lt.mp negative)]

-----------------------------------------------------------------------------------------
-- Numbers
-----------------------------------------------------------------------------------------

/-- An exponent ends the digits before it, and so does what follows when there is none. -/
theorem EndsNumber.exponentChars {rest : List Char} (ends : EndsNumber rest)
    (exponent : Option Int)
    : EndsDigits (exponentChars exponent ++ rest)
      ∧ (Tree.exponentChars exponent ++ rest).head? ≠ some '.' := by
  cases exponent with
  | none => exact ⟨ends.endsDigits, fun point => (ends '.' point).2.1 rfl⟩
  | some e =>
      refine ⟨fun c first => ?_, by simp [Tree.exponentChars]⟩
      cases first
      rfl

/-- A fraction ends the digits before it, and so does what follows when there is none. -/
theorem EndsDigits.fractionChars {rest : List Char} (ends : EndsDigits rest)
    (fraction : List (Fin 10))
    : EndsDigits (fractionChars fraction ++ rest) := by
  cases fraction with
  | nil => exact ends
  | cons d fraction =>
      intro c first
      cases first
      rfl

theorem chars_eq (l : Literal)
    : l.chars
      = (if l.negative then ['-'] else [])
        ++ (Nat.toDigits 10 l.whole ++ (fractionChars l.fraction ++ exponentChars l.exponent)) := by
  rw [chars, List.append_assoc, List.append_assoc]
  cases l.exponent <;> rfl

/-- A minus sign is taken off before the parts are read. -/
theorem readNumber_signed (negative : Bool) {s : List Char} (unsigned : s.head? ≠ some '-')
    : readNumber ((if negative then ['-'] else []) ++ s)
      = (readWhole s).bind fun (whole, s) =>
          (readFraction s).bind fun (fraction, s) =>
            (readExponent s).bind fun (exponent, s) =>
              some (⟨negative, whole, fraction, exponent⟩, s) := by
  cases negative with
  | true => rfl
  | false =>
      simp only [Bool.false_eq_true, if_false, List.nil_append]
      rw [readNumber]
      case x =>
        rintro rest rfl
        exact unsigned rfl
      rfl

/-- A literal reads back, part by part. -/
theorem readNumber_chars (l : Literal) {rest : List Char} (ends : EndsNumber rest)
    : readNumber (l.chars ++ rest) = some (l, rest) := by
  obtain ⟨digitless, pointless⟩ := ends.exponentChars l.exponent
  have whole := readWhole_toDigits l.whole (digitless.fractionChars l.fraction)
  have fraction := readFraction_append l.fraction digitless pointless
  have exponent := readExponent_append l.exponent ends
  rw [chars_eq, List.append_assoc, readNumber_signed]
  case unsigned =>
    intro minus
    rw [List.append_assoc, List.head?_append] at minus
    cases digits : Nat.toDigits 10 l.whole with
    | nil => exact absurd digits Nat.toDigits_ne_nil
    | cons c cs =>
        rw [digits] at minus
        have member : '-' ∈ Nat.toDigits 10 l.whole := by
          rw [digits, Option.some.inj minus]
          exact List.mem_cons_self
        have digit := Nat.isDigit_of_mem_toDigits (by decide) (by decide) member
        cases digit
  simp only [List.append_assoc, whole, fraction, exponent, Option.bind_some]

end Tree

end QuadraticTrials

import Mathlib
import QuadraticTrials.Proofs.Json.ReadBack

/-!
Blanks outside strings do not matter. A text that is read is read to the same tree when all of them
are taken out.
-/

namespace QuadraticTrials

namespace Tree

open Literal

-----------------------------------------------------------------------------------------
-- Texts without blanks
-----------------------------------------------------------------------------------------

def isBlank (c : Char) : Bool :=
  c == ' ' || c == '\t' || c == '\n' || c == '\r'

/-- A text without its blanks, but for those in strings. A string is open in the beginning when
`inside` is true; a backslash keeps the character after it from closing it.
-/
def dropBlanks : (inside : Bool) → List Char → List Char
  | _, [] => []
  | true, '\\' :: c :: rest => '\\' :: c :: dropBlanks true rest
  | true, c :: rest => c :: dropBlanks (c != '"') rest
  | false, c :: rest =>
      if isBlank c then dropBlanks false rest else c :: dropBlanks (c == '"') rest

/-- A text without its blanks outside strings. -/
def bare (s : List Char) : List Char :=
  dropBlanks false s

theorem bare_of_isBlank {c : Char} (blank : isBlank c) (s : List Char)
    : bare (c :: s) = bare s := by
  rw [bare, dropBlanks, if_pos blank, ← bare]

theorem bare_of_not_isBlank {c : Char} (kept : isBlank c = false) (s : List Char)
    : bare (c :: s) = c :: dropBlanks (c == '"') s := by
  rw [bare, dropBlanks, kept]
  rfl

/-- A character that is no blank and opens no string is kept. -/
theorem bare_cons {c : Char} (kept : isBlank c = false) (quoteless : c ≠ '"') (s : List Char)
    : bare (c :: s) = c :: bare s := by
  rw [bare_of_not_isBlank kept, beq_false_of_ne quoteless, ← bare]

theorem bare_quote (s : List Char) : bare ('"' :: s) = '"' :: dropBlanks true s :=
  rfl

theorem skipBlank_eq (s : List Char) : skipBlank s = s.dropWhile isBlank :=
  rfl

theorem bare_skipBlank (s : List Char) : bare (skipBlank s) = bare s := by
  induction s with
  | nil => rfl
  | cons c s ih =>
      rw [skipBlank_eq, List.dropWhile_cons]
      split
      case isTrue blank => rw [← skipBlank_eq, ih, bare_of_isBlank blank]
      case isFalse => rfl

/-- The text that is left after blanks begins with none. -/
theorem isBlank_of_skipBlank {c : Char} {s rest : List Char} (left : skipBlank s = c :: rest)
    : isBlank c = false := by
  have first := List.head?_dropWhile_not isBlank s
  rw [← skipBlank_eq, left] at first
  simpa using first

/-- Nothing is left to skip. -/
theorem skipBlank_bare (s : List Char) : skipBlank (bare s) = bare s := by
  rw [← bare_skipBlank]
  cases left : skipBlank s with
  | nil => rfl
  | cons c rest =>
      have kept := isBlank_of_skipBlank left
      rw [bare_of_not_isBlank kept, skipBlank_eq, List.dropWhile_cons_of_neg (by simp [kept])]

-----------------------------------------------------------------------------------------
-- Numbers
-----------------------------------------------------------------------------------------

/-- A digit is no blank and no quote. -/
theorem bare_digit {c : Char} {d : Fin 10} (digit : digit? c = some d) (s : List Char)
    : bare (c :: s) = c :: bare s := by
  refine bare_cons ?_ ?_ s
  · simp only [isBlank, Bool.or_eq_false_iff, beq_eq_false_iff_ne]
    refine ⟨⟨⟨?_, ?_⟩, ?_⟩, ?_⟩ <;> rintro rfl <;> cases digit
  · rintro rfl
    cases digit

/-- Digits are read up to the same end, by induction on the text. -/
theorem readDigits_bare {s rest : List Char} {digits : List (Fin 10)}
    (read : readDigits s = (digits, rest)) (ends : EndsDigits (bare rest))
    : readDigits (bare s) = (digits, bare rest) := by
  induction s generalizing digits with
  | nil =>
      cases read
      rfl
  | cons c s ih =>
      cases digit : digit? c with
      | none =>
          rw [readDigits, digit] at read
          cases read
          exact readDigits_of_ends ends
      | some d =>
          rw [readDigits, digit] at read
          cases read
          rw [bare_digit digit, readDigits, digit, ih rfl]

/-- Nothing is read from a text that has no digit in front. -/
theorem exists_digit_of_readDigits {s rest : List Char} {d : Fin 10} {digits : List (Fin 10)}
    (read : readDigits s = (d :: digits, rest))
    : ∃ c later, s = c :: later ∧ digit? c = some d := by
  cases s with
  | nil => cases read
  | cons c later =>
      cases digit : digit? c with
      | none =>
          rw [readDigits, digit] at read
          cases read
      | some first =>
          rw [readDigits, digit] at read
          cases read
          exact ⟨c, later, rfl, digit⟩

/-- Whole digits are a zero alone, or digits that do not begin with zero. -/
theorem readWhole_eq_some {s rest : List Char} {n : Nat} (read : readWhole s = some (n, rest))
    : s = '0' :: rest ∧ n = 0
      ∨ s.head? ≠ some '0'
        ∧ ∃ d digits, readDigits s = (d :: digits, rest) ∧ n = ofDigits (d :: digits) := by
  unfold readWhole at read
  split at read
  case h_1 =>
    cases read
    exact .inl ⟨rfl, rfl⟩
  case h_2 nonzero =>
    refine .inr ⟨fun zero => ?_, ?_⟩
    · obtain ⟨later, same⟩ := List.head?_eq_some_iff.mp zero
      exact nonzero later same
    · cases found : readDigits s with
      | mk digits later =>
          rw [found] at read
          cases digits with
          | nil => cases read
          | cons d digits =>
              cases read
              exact ⟨d, digits, rfl, rfl⟩

theorem readWhole_bare {s rest : List Char} {n : Nat} (read : readWhole s = some (n, rest))
    (ends : EndsDigits (bare rest))
    : readWhole (bare s) = some (n, bare rest) := by
  rcases readWhole_eq_some read with ⟨rfl, rfl⟩ | ⟨nonzero, d, digits, found, rfl⟩
  · rfl
  · refine readWhole_of_digits ?_ (readDigits_bare found ends)
    obtain ⟨c, later, rfl, digit⟩ := exists_digit_of_readDigits found
    rw [bare_digit digit]
    exact nonzero

/-- A fraction is a point with digits, or nothing. -/
theorem readFraction_eq_some {s rest : List Char} {fraction : List (Fin 10)}
    (read : readFraction s = some (fraction, rest))
    : (∃ later d digits,
        s = '.' :: later ∧ fraction = d :: digits ∧ readDigits later = (d :: digits, rest))
      ∨ fraction = [] ∧ rest = s := by
  unfold readFraction at read
  split at read
  case h_1 later =>
    cases found : readDigits later with
    | mk digits rest' =>
        rw [found] at read
        cases digits with
        | nil => cases read
        | cons d digits =>
            cases read
            exact .inl ⟨later, d, digits, rfl, rfl, found⟩
  case h_2 =>
    cases read
    exact .inr ⟨rfl, rfl⟩

theorem readFraction_bare {s rest : List Char} {fraction : List (Fin 10)}
    (read : readFraction s = some (fraction, rest)) (ends : EndsDigits (bare rest))
    (pointless : (bare rest).head? ≠ some '.')
    : readFraction (bare s) = some (fraction, bare rest) := by
  rcases readFraction_eq_some read with ⟨later, d, digits, rfl, rfl, found⟩ | ⟨rfl, rfl⟩
  · rw [bare_cons (by decide) (by decide), readFraction, readDigits_bare found ends]
  · exact readFraction_append [] ends pointless

/-- The sign of an exponent and what follows it. -/
def exponentSign : List Char → Bool × List Char
  | '-' :: rest => (true, rest)
  | '+' :: rest => (false, rest)
  | rest => (false, rest)

theorem readExponent_marked {mark : Char} (marked : mark = 'e' ∨ mark = 'E') (s : List Char)
    : readExponent (mark :: s)
      = match readDigits (exponentSign s).2 with
        | ([], _) => none
        | (digits, rest) =>
            some (some (if (exponentSign s).1 then -(ofDigits digits : Int) else ofDigits digits),
              rest) := by
  rcases marked with rfl | rfl <;> rfl

/-- An exponent is a mark with an optional sign and digits, or nothing. -/
theorem readExponent_eq_some {s rest : List Char} {exponent : Option Int}
    (read : readExponent s = some (exponent, rest))
    : (∃ mark later d digits,
        s = mark :: later
          ∧ (mark = 'e' ∨ mark = 'E')
          ∧ readDigits (exponentSign later).2 = (d :: digits, rest))
      ∨ exponent = none ∧ rest = s := by
  cases s with
  | nil =>
      cases read
      exact .inr ⟨rfl, rfl⟩
  | cons mark later =>
      by_cases marked : mark = 'e' ∨ mark = 'E'
      case neg =>
        have none : readExponent (mark :: later) = some (none, mark :: later) :=
          if_neg (by simpa using marked)
        rw [none] at read
        cases read
        exact .inr ⟨rfl, rfl⟩
      case pos =>
        rw [readExponent_marked marked] at read
        cases found : readDigits (exponentSign later).2 with
        | mk digits rest' =>
            rw [found] at read
            cases digits with
            | nil => cases read
            | cons d digits =>
                cases read
                exact .inl ⟨mark, later, d, digits, rfl, marked, found⟩

/-- The sign stays in front of the digits. -/
theorem exponentSign_bare {s rest : List Char} {d : Fin 10} {digits : List (Fin 10)}
    (read : readDigits (exponentSign s).2 = (d :: digits, rest))
    : exponentSign (bare s) = ((exponentSign s).1, bare (exponentSign s).2) := by
  unfold exponentSign at read ⊢
  split at read
  case h_1 => rfl
  case h_2 => rfl
  case h_3 unequal unequal' =>
    obtain ⟨c, later, rfl, digit⟩ := exists_digit_of_readDigits read
    rw [bare_digit digit]
    split
    case h_1 same => exact absurd (congrArg (· :: later) (List.cons.inj same).1) (unequal later)
    case h_2 same => exact absurd (congrArg (· :: later) (List.cons.inj same).1) (unequal' later)
    case h_3 => rfl

/-- An exponent with its optional sign is read from the same mark on. -/
theorem readExponent_bare {s rest : List Char} {exponent : Option Int}
    (read : readExponent s = some (exponent, rest)) (ends : EndsNumber (bare rest))
    : readExponent (bare s) = some (exponent, bare rest) := by
  rcases readExponent_eq_some read with ⟨mark, later, d, digits, rfl, marked, found⟩ | ⟨rfl, rfl⟩
  · have kept : isBlank mark = false ∧ mark ≠ '"' := by
      rcases marked with rfl | rfl <;> decide
    rw [readExponent_marked marked, found] at read
    cases read
    rw [bare_cons kept.1 kept.2, readExponent_marked marked, exponentSign_bare found,
      readDigits_bare found ends.endsDigits]
  · exact readExponent_append none ends

/-- What stands before an exponent, or before the end of a number without one, ends there. -/
theorem ends_of_readExponent {s rest : List Char} {exponent : Option Int}
    (read : readExponent s = some (exponent, rest)) (ends : EndsNumber (bare rest))
    : EndsDigits (bare s) ∧ (bare s).head? ≠ some '.' := by
  rcases readExponent_eq_some read with ⟨mark, later, d, digits, rfl, marked, -⟩ | ⟨rfl, rfl⟩
  · rcases marked with rfl | rfl
    all_goals
      rw [bare_cons (by decide) (by decide)]
      refine ⟨?_, by simp⟩
      rintro c ⟨⟩
      rfl
  · exact ⟨ends.endsDigits, fun point => (ends '.' point).2.1 rfl⟩

/-- What stands before a fraction, or before the end of digits without one, ends there. -/
theorem endsDigits_of_readFraction {s rest : List Char} {fraction : List (Fin 10)}
    (read : readFraction s = some (fraction, rest)) (ends : EndsDigits (bare rest))
    : EndsDigits (bare s) := by
  rcases readFraction_eq_some read with ⟨later, d, digits, rfl, -⟩ | ⟨-, rfl⟩
  · rw [bare_cons (by decide) (by decide)]
    rintro c ⟨⟩
    rfl
  · exact ends

/-- A number after its sign. -/
def readParts (negative : Bool) (s : List Char) : Option (Literal × List Char) :=
  (readWhole s).bind fun (whole, s) =>
    (readFraction s).bind fun (fraction, s) =>
      (readExponent s).bind fun (exponent, s) =>
        some (⟨negative, whole, fraction, exponent⟩, s)

theorem readParts_bare {negative : Bool} {s rest : List Char} {l : Literal}
    (read : readParts negative s = some (l, rest)) (ends : EndsNumber (bare rest))
    : readParts negative (bare s) = some (l, bare rest) := by
  obtain ⟨⟨whole, s'⟩, first, read⟩ := Option.bind_eq_some_iff.mp read
  obtain ⟨⟨fraction, s''⟩, second, read⟩ := Option.bind_eq_some_iff.mp read
  obtain ⟨⟨exponent, s'''⟩, third, read⟩ := Option.bind_eq_some_iff.mp read
  cases read
  obtain ⟨digitless, pointless⟩ := ends_of_readExponent third ends
  have whole := readWhole_bare first (endsDigits_of_readFraction second digitless)
  have fraction := readFraction_bare second digitless pointless
  simp only [readParts, whole, fraction, readExponent_bare third ends, Option.bind_some]

/-- A number that is read begins with a digit, if not with a minus sign. -/
theorem exists_digit_of_readParts {negative : Bool} {s rest : List Char} {l : Literal}
    (read : readParts negative s = some (l, rest))
    : ∃ c later d, s = c :: later ∧ digit? c = some d := by
  obtain ⟨⟨whole, s'⟩, first, -⟩ := Option.bind_eq_some_iff.mp read
  rcases readWhole_eq_some first with ⟨rfl, -⟩ | ⟨-, d, digits, found, -⟩
  · exact ⟨'0', s', 0, rfl, rfl⟩
  · obtain ⟨c, later, same, digit⟩ := exists_digit_of_readDigits found
    exact ⟨c, later, d, same, digit⟩

/-- A number is read up to the same end. -/
theorem readNumber_bare {s rest : List Char} {l : Literal}
    (read : readNumber s = some (l, rest)) (ends : EndsNumber (bare rest))
    : readNumber (bare s) = some (l, bare rest) := by
  by_cases minus : s.head? = some '-'
  case pos =>
    obtain ⟨s, rfl⟩ := List.head?_eq_some_iff.mp minus
    have parts : readParts true s = some (l, rest) := read
    rw [bare_cons (by decide) (by decide)]
    exact readParts_bare parts ends
  case neg =>
    have parts : readParts false s = some (l, rest) :=
      (readNumber_signed false minus).symm.trans read
    obtain ⟨c, later, d, rfl, digit⟩ := exists_digit_of_readParts parts
    have unsigned : (bare (c :: later)).head? ≠ some '-' := by
      rw [bare_digit digit]
      exact minus
    exact (readNumber_signed false unsigned).trans (readParts_bare parts ends)

-----------------------------------------------------------------------------------------
-- Strings
-----------------------------------------------------------------------------------------

/-- A character inside a string is kept, and the string stays open unless it is a quote. -/
theorem dropBlanks_inside {c : Char} (unescaped : c ≠ '\\') (s : List Char)
    : dropBlanks true (c :: s) = c :: dropBlanks (c != '"') s := by
  rw [dropBlanks]
  rintro c rest rfl rfl
  exact unescaped rfl

/-- A hexadecimal digit inside a string is kept. -/
theorem dropBlanks_hexDigit {c : Char} {n : Nat} (digit : hexDigit? c = some n) (s : List Char)
    : dropBlanks true (c :: s) = c :: dropBlanks true s := by
  have unescaped : c ≠ '\\' := by
    rintro rfl
    cases digit
  have unquoted : c ≠ '"' := by
    rintro rfl
    cases digit
  rw [dropBlanks_inside unescaped, bne_iff_ne.mpr unquoted]

theorem dropBlanks_hexUnit {a b c d : Char} {n : Nat} (unit : hexUnit? a b c d = some n)
    (s : List Char)
    : dropBlanks true (a :: b :: c :: d :: s) = a :: b :: c :: d :: dropBlanks true s := by
  simp only [hexUnit?, Option.bind_eq_bind, Option.bind_eq_some_iff] at unit
  obtain ⟨_, first, _, second, _, third, _, fourth, -⟩ := unit
  rw [dropBlanks_hexDigit first, dropBlanks_hexDigit second, dropBlanks_hexDigit third,
    dropBlanks_hexDigit fourth]

/-- Pieces are read up to the same closing quote, with no blank between them taken out. -/
theorem readPieces_dropBlanks {s rest : List Char} {pieces : List Piece}
    (read : readPieces s = some (pieces, rest))
    : readPieces (dropBlanks true s) = some (pieces, bare rest) := by
  fun_induction readPieces s generalizing pieces rest
  case case1 => cases read
  case case2 later =>
    cases read
    rfl
  case case3 a b c d later ih =>
    simp only [Option.bind_eq_bind, Option.bind_eq_some_iff] at read
    obtain ⟨unit, found, ⟨others, rest'⟩, more, same⟩ := read
    cases same
    rw [dropBlanks, dropBlanks_hexUnit found, readPieces, found]
    simp [ih more]
  case case4 letter later plain ih =>
    simp only [Option.bind_eq_bind, Option.bind_eq_some_iff] at read
    obtain ⟨c, found, ⟨others, rest'⟩, more, same⟩ := read
    cases same
    rw [dropBlanks, readPieces, found]
    · simp [ih more]
    · rintro _ _ _ _ _ rfl
      cases found
  case case5 => cases read
  case case6 c later unquoted _ _ visible ih =>
    simp only [Option.map_eq_some_iff] at read
    obtain ⟨⟨others, rest'⟩, more, same⟩ := read
    cases same
    have unescaped : c ≠ '\\' := by
      rintro rfl
      exact visible rfl
    rw [dropBlanks_inside unescaped, bne_iff_ne.mpr unquoted, readPieces, if_neg visible, ih more]
    · rfl
    · exact unquoted
    · exact fun _ _ _ _ _ same => absurd same unescaped
    · exact fun _ _ same => absurd same unescaped

/-- A string is read up to the same closing quote. -/
theorem readText_dropBlanks {s rest : List Char} {value : Option String}
    (read : readText s = some (value, rest))
    : readText (dropBlanks true s) = some (value, bare rest) := by
  obtain ⟨⟨pieces, rest'⟩, found, same⟩ := Option.map_eq_some_iff.mp read
  cases same
  rw [readText, readPieces_dropBlanks found, Option.map_some]

-----------------------------------------------------------------------------------------
-- Lengths
-----------------------------------------------------------------------------------------

theorem length_readDigits (s : List Char) : (readDigits s).2.length ≤ s.length := by
  induction s with
  | nil => exact le_rfl
  | cons c s ih =>
      cases digit : digit? c with
      | none => rw [readDigits, digit]
      | some d =>
          rw [readDigits, digit]
          exact ih.trans (Nat.le_succ _)

theorem length_of_readDigits {s rest : List Char} {digits : List (Fin 10)}
    (read : readDigits s = (digits, rest))
    : rest.length ≤ s.length := by
  have shorter := length_readDigits s
  rwa [read] at shorter

theorem length_readWhole {s rest : List Char} {n : Nat} (read : readWhole s = some (n, rest))
    : rest.length ≤ s.length := by
  rcases readWhole_eq_some read with ⟨rfl, -⟩ | ⟨-, d, digits, found, -⟩
  · exact Nat.le_succ _
  · exact length_of_readDigits found

theorem length_readFraction {s rest : List Char} {fraction : List (Fin 10)}
    (read : readFraction s = some (fraction, rest))
    : rest.length ≤ s.length := by
  rcases readFraction_eq_some read with ⟨later, d, digits, rfl, -, found⟩ | ⟨-, rfl⟩
  · exact (length_of_readDigits found).trans (Nat.le_succ _)
  · exact le_rfl

theorem length_exponentSign (s : List Char) : (exponentSign s).2.length ≤ s.length := by
  unfold exponentSign
  split <;> simp

theorem length_readExponent {s rest : List Char} {exponent : Option Int}
    (read : readExponent s = some (exponent, rest))
    : rest.length ≤ s.length := by
  rcases readExponent_eq_some read with ⟨mark, later, d, digits, rfl, -, found⟩ | ⟨-, rfl⟩
  · have shorter := (length_of_readDigits found).trans (length_exponentSign later)
    exact shorter.trans (Nat.le_succ _)
  · exact le_rfl

theorem length_readParts {negative : Bool} {s rest : List Char} {l : Literal}
    (read : readParts negative s = some (l, rest))
    : rest.length ≤ s.length := by
  obtain ⟨⟨whole, s'⟩, first, read⟩ := Option.bind_eq_some_iff.mp read
  obtain ⟨⟨fraction, s''⟩, second, read⟩ := Option.bind_eq_some_iff.mp read
  obtain ⟨⟨exponent, s'''⟩, third, read⟩ := Option.bind_eq_some_iff.mp read
  cases read
  exact (length_readExponent third).trans
    ((length_readFraction second).trans (length_readWhole first))

theorem length_readPieces {s rest : List Char} {pieces : List Piece}
    (read : readPieces s = some (pieces, rest))
    : rest.length ≤ s.length := by
  fun_induction readPieces s generalizing pieces rest
  case case1 => cases read
  case case2 later =>
    cases read
    exact Nat.le_succ _
  case case3 a b c d later ih =>
    simp only [Option.bind_eq_bind, Option.bind_eq_some_iff] at read
    obtain ⟨unit, found, ⟨others, rest'⟩, more, same⟩ := read
    cases same
    have shorter := ih more
    simp only [List.length_cons]
    omega
  case case4 letter later plain ih =>
    simp only [Option.bind_eq_bind, Option.bind_eq_some_iff] at read
    obtain ⟨c, found, ⟨others, rest'⟩, more, same⟩ := read
    cases same
    have shorter := ih more
    simp only [List.length_cons]
    omega
  case case5 => cases read
  case case6 c later _ _ _ visible ih =>
    obtain ⟨⟨others, rest'⟩, more, same⟩ := Option.map_eq_some_iff.mp read
    cases same
    exact (ih more).trans (Nat.le_succ _)

theorem length_readText {s rest : List Char} {value : Option String}
    (read : readText s = some (value, rest))
    : rest.length ≤ s.length := by
  obtain ⟨⟨pieces, rest'⟩, found, same⟩ := Option.map_eq_some_iff.mp read
  cases same
  exact length_readPieces found

-----------------------------------------------------------------------------------------
-- Values
-----------------------------------------------------------------------------------------

/-- What a reader reads is read from the text without blanks too, with fuel for twice its characters
and `extra` steps; no more is left of it than there was.
-/
def ReadsBare {α : Type} (reader : Nat → List Char → Option (α × List Char)) (extra : Nat)
    (s : List Char) (value : α) (rest : List Char)
    : Prop :=
  (bare rest).length ≤ (bare s).length
    ∧ ∀ fuel, 2 * (bare s).length + extra ≤ fuel → reader fuel (bare s) = some (value, bare rest)

theorem ReadsBare.intro {α : Type} {reader : Nat → List Char → Option (α × List Char)}
    {extra : Nat} {s rest : List Char} {value : α}
    (shorter : (bare rest).length < (bare s).length)
    (reads : ∀ fuel, 2 * (bare s).length + extra ≤ fuel + 1 →
      reader (fuel + 1) (bare s) = some (value, bare rest))
    : ReadsBare reader extra s value rest := by
  refine ⟨shorter.le, fun fuel enough => ?_⟩
  obtain ⟨fuel, rfl⟩ := Nat.exists_eq_succ_of_ne_zero (by omega : fuel ≠ 0)
  exact reads fuel enough

theorem isDigit_of_digit? {c : Char} {d : Fin 10} (digit : digit? c = some d) : c.isDigit := by
  unfold digit? at digit
  split at digit
  case isFalse => cases digit
  case isTrue range =>
    simp only [Char.isDigit, Bool.and_eq_true, decide_eq_true_eq]
    have nine : '9'.toNat = '0'.toNat + 9 := rfl
    exact ⟨range.1, (by omega : c.toNat ≤ '9'.toNat)⟩

/-- A number begins with a sign or a digit. -/
theorem numeric_of_readNumber {s rest : List Char} {l : Literal}
    (read : readNumber s = some (l, rest))
    : ∃ c later, s = c :: later ∧ (c = '-' ∨ c.isDigit) ∧ rest.length ≤ s.length := by
  by_cases minus : s.head? = some '-'
  case pos =>
    obtain ⟨s, rfl⟩ := List.head?_eq_some_iff.mp minus
    have parts : readParts true s = some (l, rest) := read
    exact ⟨'-', s, rfl, .inl rfl, (length_readParts parts).trans (Nat.le_succ _)⟩
  case neg =>
    have parts : readParts false s = some (l, rest) :=
      (readNumber_signed false minus).symm.trans read
    obtain ⟨c, later, d, rfl, digit⟩ := exists_digit_of_readParts parts
    exact ⟨c, later, rfl, .inr (isDigit_of_digit? digit), length_readParts parts⟩

/-- Nothing but blanks is taken out before the first character that is read. -/
theorem bare_of_skipBlank {c : Char} {s later : List Char} (left : skipBlank s = c :: later)
    (quoteless : c ≠ '"')
    : bare s = c :: bare later := by
  rw [← bare_skipBlank, left, bare_cons (isBlank_of_skipBlank left) quoteless]

theorem bare_of_skipBlank_quote {s later : List Char} (left : skipBlank s = '"' :: later)
    : bare s = '"' :: dropBlanks true later := by
  rw [← bare_skipBlank, left, bare_quote]

theorem readValue_quote (fuel : Nat) (s : List Char)
    : readValue (fuel + 1) ('"' :: s)
      = (readText s).map fun (value, rest) => (.text value, rest) :=
  rfl

/-- Taking out blanks brings no character to the front that skipping them would not. -/
theorem bare_ne_of_skipBlank_ne {c : Char} {s : List Char}
    (other : ∀ rest, skipBlank s ≠ c :: rest)
    : ∀ rest, bare s ≠ c :: rest := by
  intro rest same
  cases left : skipBlank s with
  | nil =>
      rw [← bare_skipBlank, left] at same
      cases same
  | cons first later =>
      rw [← bare_skipBlank, left, bare_of_not_isBlank (isBlank_of_skipBlank left)] at same
      exact other later ((List.cons.inj same).1 ▸ left)

theorem endsNumber_bare {c : Char} {s later : List Char} (left : skipBlank s = c :: later)
    (ends : digit? c = none ∧ c ≠ '.' ∧ c ≠ 'e' ∧ c ≠ 'E')
    : EndsNumber (bare s) := by
  rw [← bare_skipBlank, left, bare_of_not_isBlank (isBlank_of_skipBlank left)]
  exact endsNumber_cons ends _

/-- A word that stands for a value is read whatever follows it. -/
theorem ReadsBare.of_word {s rest : List Char} {t : Tree} (word : List Char)
    (text : bare s = word ++ bare rest) (nonempty : word ≠ [])
    (reads : ∀ fuel later, readValue (fuel + 1) (word ++ later) = some (t, later))
    : ReadsBare readValue 0 s t rest := by
  have positive := List.length_pos_iff.mpr nonempty
  refine .intro (by rw [text, List.length_append]; omega) fun fuel _ => ?_
  rw [text, reads]

mutual

/-- A value is read from the text without blanks when what follows it does not go on a number. -/
theorem readValue_bare {fuel : Nat} {s rest : List Char} {t : Tree}
    (read : readValue fuel s = some (t, rest)) (ends : EndsNumber (bare rest))
    : ReadsBare readValue 0 s t rest := by
  cases fuel with
  | zero => cases read
  | succ fuel =>
    unfold readValue at read
    split at read
    case h_1 later left =>
      cases read
      have text := bare_of_skipBlank left (by decide)
      exact .of_word ['n', 'u', 'l', 'l'] text (List.cons_ne_nil _ _) fun _ _ => rfl
    case h_2 later left =>
      cases read
      have text := bare_of_skipBlank left (by decide)
      exact .of_word ['t', 'r', 'u', 'e'] text (List.cons_ne_nil _ _) fun _ _ => rfl
    case h_3 later left =>
      cases read
      have text := bare_of_skipBlank left (by decide)
      exact .of_word ['f', 'a', 'l', 's', 'e'] text (List.cons_ne_nil _ _) fun _ _ => rfl
    case h_4 later left =>
      obtain ⟨⟨value, rest'⟩, found, same⟩ := Option.map_eq_some_iff.mp read
      cases same
      have text := bare_of_skipBlank_quote left
      have inside := readText_dropBlanks found
      have shorter := length_readText inside
      refine .intro (by rw [text, List.length_cons]; omega) fun fuel _ => ?_
      rw [text, readValue_quote, inside]
      rfl
    case h_5 later left =>
      have text := bare_of_skipBlank left (by decide)
      split at read
      case h_1 closed =>
        cases read
        rw [bare_of_skipBlank closed (by decide)] at text
        exact .of_word ['[', ']'] text (List.cons_ne_nil _ _) fun _ _ => rfl
      case h_2 items =>
        obtain ⟨⟨all, rest'⟩, found, same⟩ := Option.map_eq_some_iff.mp read
        cases same
        obtain ⟨shorter, reads⟩ := readItems_bare found
        rw [bare_skipBlank] at shorter reads
        refine .intro (by rw [text, List.length_cons]; omega) fun fuel enough => ?_
        rw [text, List.length_cons] at enough
        rw [text, readValue_array (skipBlank_bare later) (bare_ne_of_skipBlank_ne items),
          reads fuel (by omega)]
        rfl
    case h_6 later left =>
      have text := bare_of_skipBlank left (by decide)
      split at read
      case h_1 closed =>
        cases read
        rw [bare_of_skipBlank closed (by decide)] at text
        exact .of_word ['{', '}'] text (List.cons_ne_nil _ _) fun _ _ => rfl
      case h_2 fields =>
        obtain ⟨⟨all, rest'⟩, found, same⟩ := Option.map_eq_some_iff.mp read
        cases same
        obtain ⟨shorter, reads⟩ := readFields_bare found
        rw [bare_skipBlank] at shorter reads
        refine .intro (by rw [text, List.length_cons]; omega) fun fuel enough => ?_
        rw [text, List.length_cons] at enough
        rw [text, readValue_object (skipBlank_bare later) (bare_ne_of_skipBlank_ne fields),
          reads fuel (by omega)]
        rfl
    case h_7 =>
      obtain ⟨⟨l, rest'⟩, found, same⟩ := Option.map_eq_some_iff.mp read
      cases same
      have inside := readNumber_bare found ends
      rw [bare_skipBlank] at inside
      obtain ⟨c, later, text, numeric, shorter⟩ := numeric_of_readNumber inside
      refine ⟨shorter, fun fuel enough => ?_⟩
      obtain ⟨fuel, rfl⟩ : ∃ more, fuel = more + 1 := by
        rw [text, List.length_cons] at enough
        exact ⟨fuel - 1, by omega⟩
      rw [text] at inside ⊢
      rw [readValue_of_numeric numeric, inside]
      rfl

/-- Items are read from the text without blanks, one after another. -/
theorem readItems_bare {fuel : Nat} {s rest : List Char} {items : List Tree}
    (read : readItems fuel s = some (items, rest))
    : ReadsBare readItems 1 s items rest := by
  cases fuel with
  | zero => cases read
  | succ fuel =>
    obtain ⟨⟨item, left⟩, found, read⟩ := Option.bind_eq_some_iff.mp read
    dsimp only at read
    split at read
    case h_1 later closed =>
      cases read
      obtain ⟨shorter, reads⟩ := readValue_bare found (endsNumber_bare closed (by decide))
      have text := bare_of_skipBlank closed (by decide)
      have blankless := skipBlank_bare left
      rw [text] at shorter reads blankless
      refine .intro (by rw [List.length_cons] at shorter; omega) fun fuel enough => ?_
      rw [readItems, reads fuel (by omega)]
      simp only [Option.bind_eq_bind, Option.bind_some, blankless]
    case h_2 later more =>
      obtain ⟨⟨others, rest'⟩, found', same⟩ := Option.bind_eq_some_iff.mp read
      cases same
      obtain ⟨shorter, reads⟩ := readValue_bare found (endsNumber_bare more (by decide))
      obtain ⟨shorter', reads'⟩ := readItems_bare found'
      have text := bare_of_skipBlank more (by decide)
      have blankless := skipBlank_bare left
      rw [text] at shorter reads blankless
      rw [List.length_cons] at shorter
      refine .intro (shorter'.trans_lt (by omega)) fun fuel enough => ?_
      rw [readItems, reads fuel (by omega)]
      simp only [Option.bind_eq_bind, Option.bind_some, blankless, reads' fuel (by omega)]
    case h_3 => cases read

/-- Fields are read from the text without blanks, each with its key. -/
theorem readFields_bare {fuel : Nat} {s rest : List Char} {fields : List (Option String × Tree)}
    (read : readFields fuel s = some (fields, rest))
    : ReadsBare readFields 1 s fields rest := by
  cases fuel with
  | zero => cases read
  | succ fuel =>
    unfold readFields at read
    split at read
    case h_2 => cases read
    case h_1 keyed quoted =>
      obtain ⟨⟨key, after⟩, named, read⟩ := Option.bind_eq_some_iff.mp read
      dsimp only at read
      split at read
      case h_2 => cases read
      case h_1 valued colon =>
        obtain ⟨⟨value, left⟩, found, read⟩ := Option.bind_eq_some_iff.mp read
        dsimp only at read
        -- The key, the colon and the end of the value in the text without blanks.
        have key := readText_dropBlanks named
        have key_shorter := length_readText key
        have start := skipBlank_bare s
        have middle := skipBlank_bare after
        have finish := skipBlank_bare left
        have text := bare_of_skipBlank_quote quoted
        rw [bare_of_skipBlank colon (by decide)] at key key_shorter middle
        rw [text] at start
        rw [List.length_cons] at key_shorter
        split at read
        case h_1 later closed =>
          cases read
          obtain ⟨shorter, reads⟩ := readValue_bare found (endsNumber_bare closed (by decide))
          rw [bare_of_skipBlank closed (by decide)] at shorter reads finish
          rw [List.length_cons] at shorter
          refine .intro (by rw [text, List.length_cons]; omega) fun fuel enough => ?_
          rw [text, List.length_cons] at enough
          rw [text, readFields, start]
          simp only [key, Option.bind_eq_bind, Option.bind_some, middle, reads fuel (by omega),
            finish]
        case h_2 later more =>
          obtain ⟨⟨others, rest'⟩, found', same⟩ := Option.bind_eq_some_iff.mp read
          cases same
          obtain ⟨shorter, reads⟩ := readValue_bare found (endsNumber_bare more (by decide))
          obtain ⟨shorter', reads'⟩ := readFields_bare found'
          rw [bare_of_skipBlank more (by decide)] at shorter reads finish
          rw [List.length_cons] at shorter
          refine .intro (shorter'.trans_lt (by rw [text, List.length_cons]; omega))
            fun fuel enough => ?_
          rw [text, List.length_cons] at enough
          rw [text, readFields, start]
          simp only [key, Option.bind_eq_bind, Option.bind_some, middle, reads fuel (by omega),
            finish, reads' fuel (by omega)]
        case h_3 => cases read

end

-----------------------------------------------------------------------------------------
-- Texts
-----------------------------------------------------------------------------------------

/-- A text without its blanks outside strings. -/
def withoutBlanks (text : String) : String :=
  String.ofList (bare text.toList)

/-- A text that is read is read to the same tree without its blanks. -/
theorem parse?_withoutBlanks {text : String} {t : Tree} (read : parse? text = some t)
    : parse? (withoutBlanks text) = some t := by
  unfold parse? at read
  dsimp only at read
  split at read
  case h_2 => cases read
  case h_1 t' rest found =>
    split at read
    case isFalse => cases read
    case isTrue empty =>
      cases read
      have none : bare rest = [] := by
        rw [← bare_skipBlank, List.isEmpty_iff.mp empty]
        rfl
      obtain ⟨-, reads⟩ := readValue_bare found (none ▸ nofun)
      rw [none] at reads
      simp only [parse?, withoutBlanks, String.toList_ofList]
      rw [reads _ (by omega)]
      rfl

end Tree

end QuadraticTrials

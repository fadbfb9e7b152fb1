import Mathlib
import QuadraticTrials.Proofs.Json.ReadBack
import QuadraticTrials.Reporter.Console

/-!
Values on the lines of a report. Compact texts have no control characters, so a value takes one line
for each line break that the layout puts in; every line reads back to what it shows.
-/

namespace QuadraticTrials

variable {K : Type} [NumberText K]

namespace Json

-----------------------------------------------------------------------------------------
-- Control characters
-----------------------------------------------------------------------------------------

/-- There are no control characters. -/
def Printable (s : List Char) : Prop :=
  ∀ c ∈ s, 0x20 ≤ c.toNat

instance (s : List Char) : Decidable (Printable s) :=
  List.decidableBAll (fun c : Char => 0x20 ≤ c.toNat) s

theorem printable_cons {c : Char} {s : List Char}
    : Printable (c :: s) ↔ 0x20 ≤ c.toNat ∧ Printable s :=
  List.forall_mem_cons

theorem printable_append {s t : List Char} : Printable (s ++ t) ↔ Printable s ∧ Printable t :=
  List.forall_mem_append

theorem printable_of_isDigit {s : List Char} (digits : ∀ c ∈ s, c.isDigit) : Printable s := by
  intro c member
  have digit := digits c member
  simp only [Char.isDigit, Bool.and_eq_true, decide_eq_true_eq] at digit
  exact le_trans (by decide) (UInt32.le_iff_toNat_le.mp digit.1)

theorem printable_toDigits (n : Nat) : Printable (Nat.toDigits 10 n) :=
  printable_of_isDigit fun _ member => Nat.isDigit_of_mem_toDigits (by decide) (by decide) member

/-- A fraction consists of a point and digits. -/
theorem printable_fractionChars (fraction : List (Fin 10))
    : Printable (Tree.fractionChars fraction) := by
  have digit : ∀ d : Fin 10, 0x20 ≤ (Literal.digitChar d).toNat := by decide
  cases fraction with
  | nil => exact nofun
  | cons d fraction =>
      refine printable_cons.mpr ⟨by decide, ?_⟩
      intro c member
      obtain ⟨d, -, rfl⟩ := List.mem_map.mp member
      exact digit d

/-- An exponent consists of a mark, a sign and digits. -/
theorem printable_exponentChars (exponent : Option Int)
    : Printable (Tree.exponentChars exponent) := by
  cases exponent with
  | none => exact nofun
  | some e =>
      rw [Tree.exponentChars, printable_cons, printable_cons]
      refine ⟨by decide, ?_, printable_toDigits _⟩
      split_ifs <;> decide

/-- Literals consist of a sign, digits, a fraction and an exponent. -/
theorem printable_literal (l : Literal) : Printable l.chars := by
  simp only [Tree.chars_eq, printable_append]
  refine ⟨?_, printable_toDigits _, printable_fractionChars _, printable_exponentChars _⟩
  split_ifs
  · decide
  · exact nofun

/-- Control characters are escaped. -/
theorem printable_escape (c : Char) : Printable (escape c) := by
  have hex (n : Nat) : 0x20 ≤ (hexChar n).toNat := by
    have digit : ∀ d < 16, 0x20 ≤ (Nat.digitChar d).toNat := by decide
    exact digit _ (Nat.mod_lt _ (by decide))
  unfold escape
  split
  case h_8 =>
    split
    case isTrue =>
      simp only [printable_cons]
      exact ⟨by decide, by decide, by decide, by decide, hex _, hex _, nofun⟩
    case isFalse visible => exact printable_cons.mpr ⟨not_lt.mp visible, nofun⟩
  all_goals decide

theorem printable_quote (s : String) : Printable (quote s) := by
  have inside : Printable (s.toList.flatMap escape) := by
    intro c member
    obtain ⟨d, -, member⟩ := List.mem_flatMap.mp member
    exact printable_escape d c member
  rw [quote, List.cons_append, printable_cons, printable_append]
  exact ⟨by decide, inside, printable_cons.mpr ⟨by decide, nofun⟩⟩

mutual

/-- The text of a value has no control characters. -/
theorem printable_chars : (v : Json K) → Printable (chars v)
  | .null => by rw [chars]; decide
  | .bool true => by rw [chars]; decide
  | .bool false => by rw [chars]; decide
  | .integer value => printable_literal _
  | .number value => by
      rw [chars, numberChars]
      split
      · exact printable_literal _
      · decide
  | .text value => printable_quote value
  | .array items => printable_cons.mpr ⟨by decide, printable_itemChars items⟩
  | .object fields => printable_cons.mpr ⟨by decide, printable_fieldChars fields⟩

/-- The text of items has none, separators included. -/
theorem printable_itemChars : (items : List (Json K)) → Printable (itemChars items)
  | [] => printable_cons.mpr ⟨by decide, nofun⟩
  | [item] => printable_append.mpr
      ⟨printable_chars item, printable_cons.mpr ⟨by decide, nofun⟩⟩
  | item :: next :: rest => by
      rw [Tree.itemChars_cons_cons, printable_append, printable_cons]
      exact ⟨printable_chars item, by decide, printable_itemChars (next :: rest)⟩

/-- The text of fields has none, keys and separators included. -/
theorem printable_fieldChars : (fields : List (String × Json K)) → Printable (fieldChars fields)
  | [] => printable_cons.mpr ⟨by decide, nofun⟩
  | [(key, value)] => by
      simp only [fieldChars, printable_append, printable_cons]
      exact ⟨⟨printable_quote key, by decide, printable_chars value⟩, by decide, nofun⟩
  | (key, value) :: next :: rest => by
      simp only [Tree.fieldChars_cons_cons, printable_append, printable_cons]
      exact ⟨⟨printable_quote key, by decide, printable_chars value⟩, by decide,
        printable_fieldChars (next :: rest)⟩

end

end Json

-----------------------------------------------------------------------------------------
-- Lines
-----------------------------------------------------------------------------------------

namespace Tree

open Json

/-- A value is read after blanks. -/
theorem readValue_blank (fuel : Nat) (s : List Char)
    : readValue (fuel + 1) (' ' :: s) = readValue (fuel + 1) s := by
  have blank : skipBlank (' ' :: s) = skipBlank s := rfl
  rw [readValue, readValue, blank]

/-- An indented value is read to its tree. -/
theorem parse?_indented (v : Json K) : parse? ("  " ++ v.compact) = some (tree v) := by
  have read := readValue_chars v (2 * ((chars v).length + 2) + 1 + 1) [] (by omega) nofun
  rw [List.append_nil] at read
  have blanks : ("  " ++ v.compact).toList = ' ' :: ' ' :: chars v := by
    simp [compact]
  simp [parse?, blanks, readValue_blank, read, skipBlank]

end Tree

namespace Console

/-- The lines of a text. -/
def lines (text : String) : List String :=
  (text.split '\n').toList.map (·.copy)

omit [NumberText K] in
/-- Texts without line breaks are the lines of the text that joins them. -/
theorem lines_intercalate {texts : List String} (some : texts ≠ [])
    (unbroken : ∀ text ∈ texts, '\n' ∉ text.toList)
    : lines (String.intercalate "\n" texts) = texts := by
  have split := String.toList_split_intercalate unbroken
  rwa [if_neg some] at split

/-- An indented value has no line break. -/
theorem newline_not_mem (v : Json K) : '\n' ∉ ("  " ++ v.compact).toList := by
  intro member
  have visible := Json.printable_chars v '\n' (by simpa [Json.compact] using member)
  exact absurd visible (by decide)

/-- An array of arrays that is not empty, with the given rows. -/
def IsMatrix (v : Json K) (rows : List (Json K)) : Prop :=
  v = .array rows ∧ rows ≠ [] ∧ ∀ row ∈ rows, ∃ items, row = .array items

omit [NumberText K] in
theorem all_isArray_iff {rows : List (Json K)}
    : rows.all isArray = true ↔ ∀ row ∈ rows, ∃ items, row = .array items := by
  rw [List.all_eq_true]
  refine forall₂_congr fun row _ => ?_
  cases row <;> simp [isArray]

/-- The text of a matrix joins one line for each row. -/
theorem indented_of_isMatrix {v : Json K} {rows : List (Json K)} (matrix : IsMatrix v rows)
    : indented v = String.intercalate "\n" (rows.map ("  " ++ ·.compact)) := by
  obtain ⟨rfl, some, arrays⟩ := matrix
  obtain ⟨row, rows, rfl⟩ := List.exists_cons_of_ne_nil some
  exact if_pos (all_isArray_iff.mpr arrays)

/-- Any other value has its compact text, by cases on what it is. -/
theorem indented_of_not_isMatrix {v : Json K} (other : ∀ rows, ¬IsMatrix v rows)
    : indented v = "  " ++ v.compact := by
  unfold indented
  split
  case h_1 row rows =>
    split
    case isTrue arrays =>
      exact absurd ⟨rfl, List.cons_ne_nil row rows, all_isArray_iff.mp arrays⟩ (other _)
    case isFalse => rfl
  case h_2 => rfl

/-- A text shows some values on a line each: indented, and so that each line reads back to its
value.
-/
structure OnLines (values : List (Json K)) (text : String) : Prop where
  joined : text = String.intercalate "\n" (values.map ("  " ++ ·.compact))
  apart : lines text = values.map ("  " ++ ·.compact)
  reads : (lines text).map Tree.parse? = values.map (some ·.tree)

theorem onLines {values : List (Json K)} (some : values ≠ [])
    : OnLines values (String.intercalate "\n" (values.map ("  " ++ ·.compact))) := by
  have shown : lines (String.intercalate "\n" (values.map ("  " ++ ·.compact)))
      = values.map ("  " ++ ·.compact) := by
    apply lines_intercalate
    · simpa using some
    · intro text member
      obtain ⟨value, -, rfl⟩ := List.mem_map.mp member
      exact newline_not_mem value
  refine ⟨rfl, shown, ?_⟩
  rw [shown, List.map_map]
  exact List.map_congr_left fun value _ => Tree.parse?_indented value

/-- A value is printed in full: a nonempty array of arrays on a line for each row, and any other
value on one line.
-/
structure InFull (v : Json K) (text : String) : Prop where
  rows : ∀ rows, IsMatrix v rows → OnLines rows text
  whole : (∀ rows, ¬IsMatrix v rows) → OnLines [v] text

theorem inFull (v : Json K) : InFull v (indented v) := by
  constructor
  · intro rows matrix
    rw [indented_of_isMatrix matrix]
    exact onLines matrix.2.1
  · intro other
    have single := onLines (List.cons_ne_nil v [])
    rwa [List.map_singleton, String.intercalate_singleton, ← indented_of_not_isMatrix other]
      at single

end Console

end QuadraticTrials

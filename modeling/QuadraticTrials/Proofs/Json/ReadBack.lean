import Mathlib
import QuadraticTrials.Proofs.Json.Numbers
import QuadraticTrials.Proofs.Json.Strings

/-!
Compact texts read back. The text of a value is read to the tree of the value, in which a number
without a literal stands as null.
-/

namespace QuadraticTrials

variable {K : Type} [NumberText K]

namespace Json

mutual

/-- The tree that the text of a value writes. -/
def tree : Json K → Tree
  | .null => .null
  | .bool value => .bool value
  | .integer value => .number (Literal.ofInt value)
  | .number value => (NumberText.toLiteral? value).elim .null .number
  | .text value => .text (some value)
  | .array items => .array (trees items)
  | .object fields => .object (fieldTrees fields)

def trees : List (Json K) → List Tree
  | [] => []
  | item :: rest => tree item :: trees rest

def fieldTrees : List (String × Json K) → List (Option String × Tree)
  | [] => []
  | (key, value) :: rest => (some key, tree value) :: fieldTrees rest

end

theorem trees_eq_map (items : List (Json K)) : trees items = items.map tree := by
  induction items with
  | nil => rfl
  | cons item items ih => rw [trees, ih, List.map_cons]

theorem fieldTrees_eq_map (fields : List (String × Json K))
    : fieldTrees fields = fields.map fun (key, value) => (some key, tree value) := by
  induction fields with
  | nil => rfl
  | cons field fields ih => rw [fieldTrees, ih, List.map_cons]

end Json

namespace Tree

open Json

-----------------------------------------------------------------------------------------
-- First characters
-----------------------------------------------------------------------------------------

/-- A character that is no blank and closes nothing. -/
def Opens (c : Char) : Prop :=
  (c == ' ' || c == '\t' || c == '\n' || c == '\r') = false ∧ c ≠ ']' ∧ c ≠ '}'

theorem skipBlank_of_opens {c : Char} (opens : Opens c) (cs : List Char)
    : skipBlank (c :: cs) = c :: cs := by
  rw [skipBlank, List.dropWhile_cons_of_neg]
  simpa using opens.1

theorem Opens.not_bracket {c : Char} (opens : Opens c) (cs : List Char)
    : ∀ rest, c :: cs ≠ ']' :: rest := by
  rintro rest ⟨⟩
  exact opens.2.1 rfl

/-- A literal begins with a sign or a digit. -/
theorem exists_chars_literal (l : Literal)
    : ∃ c cs, l.chars = c :: cs ∧ (c = '-' ∨ c.isDigit) := by
  rw [chars_eq]
  cases l.negative with
  | true => exact ⟨'-', _, rfl, .inl rfl⟩
  | false =>
      cases digits : Nat.toDigits 10 l.whole with
      | nil => exact absurd digits Nat.toDigits_ne_nil
      | cons c cs =>
          refine ⟨c, _, rfl, .inr ?_⟩
          exact Nat.isDigit_of_mem_toDigits (by decide) (by decide)
            (digits ▸ List.mem_cons_self : c ∈ Nat.toDigits 10 l.whole)

/-- A sign or a digit is none of the characters that other values begin with. -/
theorem opens_of_numeric {c : Char} (numeric : c = '-' ∨ c.isDigit)
    : Opens c ∧ c ≠ 'n' ∧ c ≠ 't' ∧ c ≠ 'f' ∧ c ≠ '"' ∧ c ≠ '[' ∧ c ≠ '{' := by
  rcases numeric with rfl | digit
  · unfold Opens
    decide
  · refine ⟨⟨?_, ?_, ?_⟩, ?_, ?_, ?_, ?_, ?_, ?_⟩
    case refine_1 =>
      simp only [Bool.or_eq_false_iff, beq_eq_false_iff_ne]
      refine ⟨⟨⟨?_, ?_⟩, ?_⟩, ?_⟩ <;> rintro rfl <;> cases digit
    all_goals
      rintro rfl
      cases digit

theorem readValue_of_numeric {c : Char} (numeric : c = '-' ∨ c.isDigit) (fuel : Nat)
    (cs : List Char)
    : readValue (fuel + 1) (c :: cs)
      = (readNumber (c :: cs)).map fun (literal, rest) => (.number literal, rest) := by
  obtain ⟨opens, n, t, f, quote, bracket, brace⟩ := opens_of_numeric numeric
  simp [readValue, skipBlank_of_opens opens, n, t, f, quote, bracket, brace]

theorem readValue_literal (l : Literal) {fuel : Nat} {rest : List Char} (enough : 0 < fuel)
    (ends : EndsNumber rest)
    : readValue fuel (l.chars ++ rest) = some (.number l, rest) := by
  obtain ⟨fuel, rfl⟩ := Nat.exists_eq_add_of_lt enough
  obtain ⟨c, cs, written, numeric⟩ := exists_chars_literal l
  have read := readNumber_chars l ends
  rw [written, List.cons_append] at read ⊢
  rw [Nat.zero_add, readValue_of_numeric numeric, read]
  rfl

/-- The text of a value begins with a character that is no blank and closes nothing. -/
theorem exists_chars_value (v : Json K) : ∃ c cs, chars v = c :: cs ∧ Opens c := by
  have literal (l : Literal) : ∃ c cs, l.chars = c :: cs ∧ Opens c := by
    obtain ⟨c, cs, written, numeric⟩ := exists_chars_literal l
    exact ⟨c, cs, written, (opens_of_numeric numeric).1⟩
  cases v with
  | null => exact ⟨'n', _, rfl, by unfold Opens; decide⟩
  | bool value =>
      cases value with
      | true => exact ⟨'t', _, rfl, by unfold Opens; decide⟩
      | false => exact ⟨'f', _, rfl, by unfold Opens; decide⟩
  | integer value => exact literal _
  | number value =>
      rw [chars, numberChars]
      cases NumberText.toLiteral? value with
      | some l => exact literal l
      | none => exact ⟨'n', _, rfl, by unfold Opens; decide⟩
  | text value => exact ⟨'"', _, rfl, by unfold Opens; decide⟩
  | array items => exact ⟨'[', _, rfl, by unfold Opens; decide⟩
  | object fields => exact ⟨'{', _, rfl, by unfold Opens; decide⟩

theorem itemChars_cons_cons (item next : Json K) (items : List (Json K))
    : itemChars (item :: next :: items) = chars item ++ ',' :: itemChars (next :: items) := by
  rw [itemChars]
  exact nofun

theorem fieldChars_cons_cons (key : String) (value : Json K) (next : String × Json K)
    (fields : List (String × Json K))
    : fieldChars ((key, value) :: next :: fields)
      = quote key ++ ':' :: chars value ++ ',' :: fieldChars (next :: fields) := by
  rw [fieldChars]
  exact nofun

/-- So does the text of items, with the first of them. -/
theorem exists_itemChars (item : Json K) (items : List (Json K))
    : ∃ c cs, itemChars (item :: items) = c :: cs ∧ Opens c := by
  obtain ⟨c, cs, written, opens⟩ := exists_chars_value item
  cases items with
  | nil => exact ⟨c, _, by rw [itemChars, written]; rfl, opens⟩
  | cons next items => exact ⟨c, _, by rw [itemChars_cons_cons, written]; rfl, opens⟩

/-- The text of fields begins with the quote of the first key. -/
theorem exists_fieldChars (field : String × Json K) (fields : List (String × Json K))
    : ∃ cs, fieldChars (field :: fields) = '"' :: cs := by
  obtain ⟨key, value⟩ := field
  cases fields with
  | nil => exact ⟨_, rfl⟩
  | cons next fields => exact ⟨_, fieldChars_cons_cons key value next fields⟩

-----------------------------------------------------------------------------------------
-- Values
-----------------------------------------------------------------------------------------

theorem endsNumber_cons {c : Char} (ends : Literal.digit? c = none ∧ c ≠ '.' ∧ c ≠ 'e' ∧ c ≠ 'E')
    (rest : List Char)
    : EndsNumber (c :: rest) := by
  rintro c' ⟨⟩
  exact ends

/-- A bracket that is not closed at once opens items. -/
theorem readValue_array {s : List Char} (blankless : skipBlank s = s)
    (unclosed : ∀ rest, s ≠ ']' :: rest) (fuel : Nat)
    : readValue (fuel + 1) ('[' :: s)
      = (readItems fuel s).map fun (items, rest) => (.array items, rest) := by
  have bracket : skipBlank ('[' :: s) = '[' :: s := rfl
  simp only [readValue, bracket, blankless]

/-- A brace that is not closed at once opens fields. -/
theorem readValue_object {s : List Char} (blankless : skipBlank s = s)
    (unclosed : ∀ rest, s ≠ '}' :: rest) (fuel : Nat)
    : readValue (fuel + 1) ('{' :: s)
      = (readFields fuel s).map fun (fields, rest) => (.object fields, rest) := by
  have brace : skipBlank ('{' :: s) = '{' :: s := rfl
  simp only [readValue, brace, blankless]

mutual

/-- A value is read to its tree when fuel is at least twice its length. -/
theorem readValue_chars (v : Json K) (fuel : Nat) (rest : List Char)
    (enough : 2 * (chars v).length ≤ fuel) (ends : EndsNumber rest)
    : readValue fuel (chars v ++ rest) = some (tree v, rest) := by
  obtain ⟨c, cs, written, opens⟩ := exists_chars_value v
  obtain ⟨fuel, rfl⟩ : ∃ more, fuel = more + 1 := by
    rw [written, List.length_cons] at enough
    exact ⟨fuel - 1, by omega⟩
  cases v with
  | null => rfl
  | bool value => cases value <;> rfl
  | integer value => exact readValue_literal _ fuel.succ_pos ends
  | number value =>
      rw [chars, numberChars, tree]
      cases NumberText.toLiteral? value with
      | some l => exact readValue_literal l fuel.succ_pos ends
      | none => rfl
  | text value =>
      have read := readText_flatMap_escape value rest
      simp [chars, quote, readValue, skipBlank_of_opens (c := '"') (by unfold Opens; decide), read,
        tree]
  | array items =>
      cases items with
      | nil => rfl
      | cons item items =>
          obtain ⟨c, cs, written, opens⟩ := exists_itemChars item items
          have read := readItems_itemChars (item :: items) (List.cons_ne_nil _ _) fuel rest
            (by rw [chars, List.length_cons] at enough; omega)
          rw [written, List.cons_append] at read
          rw [chars, List.cons_append, written, List.cons_append,
            readValue_array (skipBlank_of_opens opens _) (opens.not_bracket _), read]
          rfl
  | object fields =>
      cases fields with
      | nil => rfl
      | cons field fields =>
          have read := readFields_fieldChars (field :: fields) (List.cons_ne_nil _ _)
            fuel rest (by rw [chars, List.length_cons] at enough; omega)
          obtain ⟨cs, written⟩ := exists_fieldChars field fields
          rw [written, List.cons_append] at read
          rw [chars, List.cons_append, written, List.cons_append, readValue_object rfl (by simp),
            read]
          rfl

/-- Items are read up to the closing bracket, one after another. -/
theorem readItems_itemChars (items : List (Json K)) (nonempty : items ≠ []) (fuel : Nat)
    (rest : List Char) (enough : 2 * (itemChars items).length ≤ fuel)
    : readItems fuel (itemChars items ++ rest) = some (trees items, rest) := by
  cases items with
  | nil => exact absurd rfl nonempty
  | cons item items =>
      obtain ⟨c, cs, written, -⟩ := exists_itemChars item items
      obtain ⟨fuel, rfl⟩ : ∃ more, fuel = more + 1 := by
        rw [written, List.length_cons] at enough
        exact ⟨fuel - 1, by omega⟩
      cases items with
      | nil =>
          rw [itemChars, List.length_append, List.length_singleton] at enough
          have read := readValue_chars item fuel (']' :: rest) (by omega)
            (endsNumber_cons (by decide) _)
          simp [itemChars, readItems, read, skipBlank, trees]
      | cons next items =>
          rw [itemChars_cons_cons, List.length_append, List.length_cons] at enough
          have first := readValue_chars item fuel
            (',' :: (itemChars (next :: items) ++ rest)) (by omega)
            (endsNumber_cons (by decide) _)
          have others := readItems_itemChars (next :: items) (List.cons_ne_nil _ _)
            fuel rest (by omega)
          simp [itemChars_cons_cons, readItems, first, skipBlank, others, trees]

/-- Fields are read up to the closing brace, each with its key. -/
theorem readFields_fieldChars (fields : List (String × Json K)) (nonempty : fields ≠ [])
    (fuel : Nat) (rest : List Char) (enough : 2 * (fieldChars fields).length ≤ fuel)
    : readFields fuel (fieldChars fields ++ rest) = some (fieldTrees fields, rest) := by
  cases fields with
  | nil => exact absurd rfl nonempty
  | cons field fields =>
      obtain ⟨cs, written⟩ := exists_fieldChars field fields
      obtain ⟨fuel, rfl⟩ : ∃ more, fuel = more + 1 := by
        rw [written, List.length_cons] at enough
        exact ⟨fuel - 1, by omega⟩
      obtain ⟨key, value⟩ := field
      cases fields with
      | nil =>
          simp only [fieldChars, List.length_append, List.length_cons] at enough
          have named := readText_flatMap_escape key (':' :: (chars value ++ '}' :: rest))
          have read := readValue_chars value fuel ('}' :: rest) (by omega)
            (endsNumber_cons (by decide) _)
          simp [fieldChars, quote, readFields, named, read, skipBlank, fieldTrees]
      | cons next fields =>
          simp only [fieldChars_cons_cons, List.length_append, List.length_cons] at enough
          have named := readText_flatMap_escape key
            (':' :: (chars value ++ ',' :: (fieldChars (next :: fields) ++ rest)))
          have first := readValue_chars value fuel
            (',' :: (fieldChars (next :: fields) ++ rest)) (by omega)
            (endsNumber_cons (by decide) _)
          have others := readFields_fieldChars (next :: fields) (List.cons_ne_nil _ _)
            fuel rest (by omega)
          simp [fieldChars_cons_cons, quote, readFields, named, first, skipBlank, others,
            fieldTrees]

end

/-- The compact text of a value is read to its tree. -/
theorem parse?_compact (v : Json K) : parse? v.compact = some (tree v) := by
  have read := readValue_chars v (2 * (chars v).length + 2) [] (by omega) nofun
  rw [List.append_nil] at read
  simp [parse?, compact, read, skipBlank]

end Tree

end QuadraticTrials

import Mathlib
import QuadraticTrials.Config
import QuadraticTrials.Proofs.Json.Values

/-!
Records read out of objects. The fields of an object are found by their keys in whatever order they
stand, and a field that is missing has a value of its own.
-/

namespace QuadraticTrials

variable {K : Type} [NumberText K]

namespace Tree

open Json

-----------------------------------------------------------------------------------------
-- Scalars and lists
-----------------------------------------------------------------------------------------

theorem nat?_count {n : Nat} (small : n < wordBound) : (tree (.count n : Json K)).nat? = some n := by
  have bound : n < Nat.pow 2 64 := small
  simp [count, tree, Literal.ofInt, nat?, Literal.isWhole, bound]

theorem number?_number {x : K} (reads : ReadsBack x) : (tree (.number x)).number? = some x := by
  obtain ⟨literal, written, -, read⟩ := reads
  simp [tree, written, number?, read]

theorem number?_of_unwritten {x : K} (unwritten : NumberText.toLiteral? x = none)
    : (tree (.number x)).number? (K := K) = none := by
  simp [tree, unwritten, number?]

/-- Numbers that read back do so in a list, by induction on it. -/
theorem list?_numbers {xs : List K} (reads : ∀ x ∈ xs, ReadsBack x)
    : (tree (.numbers xs)).list? number? = some xs := by
  rw [numbers, tree, list?, trees_eq_map]
  induction xs with
  | nil => rfl
  | cons x xs ih =>
      rw [List.map_cons, List.map_cons, List.mapM_cons,
        number?_number (reads x List.mem_cons_self),
        ih fun later member => reads later (List.mem_cons_of_mem _ member)]
      rfl

/-- A count that may be missing reads back; null stands for none. -/
theorem optional?_count {n? : Option Nat} (small : ∀ n ∈ n?, n < wordBound)
    : (tree (Json.optional .count n? : Json K)).optional? nat? = some n? := by
  cases n? with
  | none => simp [Json.optional, tree, optional?]
  | some n =>
      have read := nat?_count (K := K) (small n rfl)
      simp only [Json.optional, Option.elim_some, count, tree] at read ⊢
      simp [optional?, read]

-----------------------------------------------------------------------------------------
-- Fields
-----------------------------------------------------------------------------------------

/-- The trees of fields under their keys. -/
def named (fields : List (String × Json K)) : List (String × Tree) :=
  fields.map fun field => (field.1, tree field.2)

theorem lookup_named (name : String) (fields : List (String × Json K))
    : (named fields).lookup name = (fields.lookup name).map tree := by
  induction fields with
  | nil => rfl
  | cons field fields ih =>
      obtain ⟨key, value⟩ := field
      rw [named, List.map_cons, List.lookup_cons, List.lookup_cons, ← named, ih]
      cases name == key <;> rfl

omit [NumberText K] in
/-- A key without a field is not found. -/
theorem lookup_eq_none {name : String} {fields : List (String × Json K)}
    (missing : name ∉ fields.map Prod.fst)
    : fields.lookup name = none := by
  rw [List.lookup_eq_none_iff]
  intro field member
  rw [bne_iff_ne]
  rintro rfl
  exact missing (List.mem_map_of_mem member)

omit [NumberText K] in
/-- A field is found under its key when no key comes twice, by induction on the fields. -/
theorem lookup_of_mem {field : String × Json K} {fields : List (String × Json K)}
    (once : (fields.map Prod.fst).Nodup) (member : field ∈ fields)
    : fields.lookup field.1 = some field.2 := by
  induction fields with
  | nil => cases member
  | cons first fields ih =>
      obtain ⟨fresh, others⟩ := List.nodup_cons.mp once
      rw [List.lookup_cons]
      rcases List.mem_cons.mp member with rfl | later
      · simp
      · have different : field.1 ≠ first.1 := fun same =>
          fresh (same ▸ List.mem_map_of_mem later)
        rw [beq_false_of_ne different, ih others later]

/-- The fields of an object are all taken over when each of them is known and none comes twice, by
induction on them.
-/
theorem knownFields?_fieldTrees {names : List String} {fields : List (String × Json K)}
    (known : ∀ field ∈ fields, field.1 ∈ names) (once : (fields.map Prod.fst).Nodup)
    : knownFields? names (fieldTrees fields) = some (named fields) := by
  induction fields with
  | nil => rfl
  | cons field fields ih =>
      obtain ⟨fresh, others⟩ := List.nodup_cons.mp once
      have rest := ih (fun later member => known later (List.mem_cons_of_mem _ member)) others
      have here : names.contains field.1 = true := by simpa using known field List.mem_cons_self
      have absent : (named fields).lookup field.1 = none := by
        rw [lookup_named, lookup_eq_none fresh, Option.map_none]
      rw [fieldTrees, knownFields?, rest]
      simp only [Option.bind_eq_bind, Option.bind_some, here, if_true, absent, Option.isSome_none,
        Bool.false_eq_true, if_false]
      rfl

theorem record?_object {names : List String} {fields : List (String × Json K)}
    (known : ∀ field ∈ fields, field.1 ∈ names) (once : (fields.map Prod.fst).Nodup)
    : (tree (.object fields)).record? names = some (named fields) :=
  knownFields?_fieldTrees known once

theorem partialRecord?_object {names : List String} {fields : List (String × Json K)}
    (known : ∀ field ∈ fields, field.1 ∈ names) (once : (fields.map Prod.fst).Nodup)
    : (tree (.object fields)).partialRecord? names = some (named fields) :=
  knownFields?_fieldTrees known once

theorem required?_named {α : Type} {value? : Tree → Option α} {fields : List (String × Json K)}
    {name : String} {v : Json K} (there : fields.lookup name = some v)
    : required? (named fields) name value? = value? (tree v) := by
  rw [required?, lookup_named, there, Option.map_some, Option.bind_some]

/-- A required count reads back. -/
theorem required?_count {fields : List (String × Json K)} {name : String} {n : Nat}
    (there : fields.lookup name = some (.count n)) (small : n < wordBound)
    : required? (named fields) name nat? = some n := by
  rw [required?_named there, nat?_count small]

/-- A required number reads back. -/
theorem required?_number {fields : List (String × Json K)} {name : String} {x : K}
    (there : fields.lookup name = some (.number x)) (reads : ReadsBack x)
    : required? (named fields) name number? = some x := by
  rw [required?_named there, number?_number reads]

/-- A required text reads back. -/
theorem required?_text {fields : List (String × Json K)} {name : String} (text : String)
    (there : fields.lookup name = some (.text text))
    : required? (named fields) name text? = some text := by
  rw [required?_named there, tree, text?]

theorem nullable?_named {α : Type} {value? : Tree → Option α} {fields : List (String × Json K)}
    {name : String} {v : Json K} (there : fields.lookup name = some v)
    : nullable? (named fields) name value? = (tree v).optional? value? := by
  rw [nullable?, lookup_named, there, Option.map_some]

/-- A field is read, or it is missing and its value is the default. -/
theorem withDefault?_named {α : Type} {value? : Tree → Option α} {fields : List (String × Json K)}
    {name : String} {v : Json K} {x default : α} (read : value? (tree v) = some x)
    (held : fields.lookup name = some v ∨ fields.lookup name = none ∧ x = default)
    : withDefault? (named fields) name default value? = some x := by
  rcases held with there | ⟨missing, rfl⟩
  · rw [withDefault?, lookup_named, there, Option.map_some]
    exact read
  · rw [withDefault?, lookup_named, missing, Option.map_none]

end Tree

end QuadraticTrials

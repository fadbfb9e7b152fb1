import Mathlib
import QuadraticTrials.Json.Decoding
import QuadraticTrials.Proofs.Json.ReadBack

/-!
Values that stand in reports as they are. Such a value has whole numbers of 64 bits, other numbers
with a literal that reads back, and objects with their keys in order; it is read from its own text.
-/

namespace QuadraticTrials

variable {K : Type} [NumberText K]

/-- A number has a literal that is not taken for a whole number, and the literal is read to it. -/
def ReadsBack (x : K) : Prop :=
  ∃ literal : Literal,
    NumberText.toLiteral? x = some literal
      ∧ literal.isWhole = false
      ∧ NumberText.ofLiteral? literal = some x

namespace Json

-----------------------------------------------------------------------------------------
-- Fields in order
-----------------------------------------------------------------------------------------

section Sorting

variable {α : Type}

/-- The order of fields with different keys. -/
def KeysSorted (fields : List (String × α)) : Prop :=
  fields.Pairwise fun first later => first.1 < later.1

theorem mem_insertField {key : String} {value : α} {fields : List (String × α)}
    {field : String × α} (member : field ∈ insertField key value fields)
    : field = (key, value) ∨ field ∈ fields := by
  induction fields with
  | nil => exact .inl (List.mem_singleton.mp member)
  | cons first fields ih =>
      obtain ⟨other, kept⟩ := first
      rw [insertField] at member
      split at member
      · exact (List.mem_cons.mp member).imp_right (List.mem_cons_of_mem _)
      split at member
      · exact List.mem_cons.mp member
      · rcases List.mem_cons.mp member with rfl | later
        · exact .inr List.mem_cons_self
        · exact (ih later).imp_right (List.mem_cons_of_mem _)

/-- Putting in a field keeps the order, by induction on the fields before it. -/
theorem keysSorted_insertField {key : String} {value : α} {fields : List (String × α)}
    (sorted : KeysSorted fields)
    : KeysSorted (insertField key value fields) := by
  induction fields with
  | nil => exact List.pairwise_singleton _ _
  | cons first fields ih =>
      obtain ⟨other, kept⟩ := first
      obtain ⟨before, rest⟩ := List.pairwise_cons.mp sorted
      rw [insertField]
      split
      case isTrue same =>
        subst same
        exact List.pairwise_cons.mpr ⟨before, rest⟩
      case isFalse different =>
        split
        case isTrue below =>
          refine List.pairwise_cons.mpr ⟨fun field member => ?_, sorted⟩
          rcases List.mem_cons.mp member with rfl | later
          · exact below
          · exact below.trans (before field later)
        case isFalse beyond =>
          refine List.pairwise_cons.mpr ⟨fun field member => ?_, ih rest⟩
          rcases mem_insertField member with rfl | later
          · exact lt_of_le_of_ne (not_lt.mp beyond) (Ne.symm different)
          · exact before field later

/-- A field with a new key is put in beside the others. -/
theorem perm_insertField {key : String} {value : α} {fields : List (String × α)}
    (fresh : key ∉ fields.map Prod.fst)
    : (insertField key value fields).Perm ((key, value) :: fields) := by
  induction fields with
  | nil => exact .refl _
  | cons first fields ih =>
      obtain ⟨other, kept⟩ := first
      obtain ⟨different, later⟩ := List.ne_and_not_mem_of_not_mem_cons fresh
      rw [insertField, if_neg different]
      split
      · exact .refl _
      · exact ((ih later).cons _).trans (.swap _ _ _)

/-- Sorting puts in one field after another, so the result is in order. -/
theorem keysSorted_sortFields (fields : List (String × α)) : KeysSorted (sortFields fields) := by
  induction fields using List.reverseRecOn with
  | nil => exact .nil
  | append_singleton fields field ih =>
      rw [sortFields, List.foldl_append]
      exact keysSorted_insertField ih

/-- Sorting keeps all fields when no key comes twice. -/
theorem perm_sortFields {fields : List (String × α)} (once : (fields.map Prod.fst).Nodup)
    : (sortFields fields).Perm fields := by
  induction fields using List.reverseRecOn with
  | nil => exact .refl _
  | append_singleton fields field ih =>
      rw [List.map_append, List.nodup_append'] at once
      obtain ⟨front, -, apart⟩ := once
      have before : (sortFields fields).Perm fields := ih front
      have fresh : field.1 ∉ (sortFields fields).map Prod.fst := fun member =>
        apart ((before.map Prod.fst).mem_iff.mp member) (List.mem_singleton_self _)
      rw [sortFields, List.foldl_append]
      exact (perm_insertField fresh).trans
        ((before.cons _).trans (List.perm_append_singleton _ _).symm)

/-- Fields in order are determined by which they are. -/
theorem eq_of_keysSorted {fields others : List (String × α)} (sorted : KeysSorted fields)
    (sorted' : KeysSorted others) (perm : fields.Perm others)
    : fields = others :=
  perm.eq_of_pairwise (fun _ _ _ _ below above => absurd above below.asymm) sorted sorted'

theorem KeysSorted.nodup {fields : List (String × α)} (sorted : KeysSorted fields)
    : (fields.map Prod.fst).Nodup :=
  List.pairwise_map.mpr (sorted.imp ne_of_lt)

/-- Fields with different keys are sorted alike in whatever order they come. -/
theorem sortFields_of_perm {fields others : List (String × α)} (perm : fields.Perm others)
    (once : (fields.map Prod.fst).Nodup)
    : sortFields fields = sortFields others := by
  have once' : (others.map Prod.fst).Nodup := (perm.map Prod.fst).nodup_iff.mp once
  exact eq_of_keysSorted (keysSorted_sortFields _) (keysSorted_sortFields _)
    ((perm_sortFields once).trans (perm.trans (perm_sortFields once').symm))

/-- Fields whose keys come in one order are the same when they are sorted alike, by induction on
them.
-/
theorem eq_of_sortFields_eq {fields others : List (String × α)}
    (keys : fields.map Prod.fst = others.map Prod.fst) (once : (fields.map Prod.fst).Nodup)
    (same : sortFields fields = sortFields others)
    : fields = others := by
  have perm : fields.Perm others :=
    (perm_sortFields once).symm.trans (same ▸ perm_sortFields (keys ▸ once))
  clear same
  induction fields generalizing others with
  | nil => exact (List.nil_perm.mp perm).symm
  | cons field fields ih =>
      obtain _ | ⟨other, others⟩ := others
      · cases keys
      obtain ⟨-, rest⟩ := List.cons.inj keys
      obtain ⟨fresh, front⟩ := List.nodup_cons.mp once
      have first : field = other := by
        rcases List.mem_cons.mp (perm.mem_iff.mp List.mem_cons_self) with same | later
        · exact same
        · exact absurd (rest ▸ List.mem_map_of_mem later) fresh
      subst first
      rw [ih rest front ((List.perm_cons field).mp perm)]

/-- Fields in order stay as they are. -/
theorem sortFields_of_sorted {fields : List (String × α)} (sorted : KeysSorted fields)
    : sortFields fields = fields :=
  eq_of_keysSorted (keysSorted_sortFields _) sorted (perm_sortFields sorted.nodup)

end Sorting

-----------------------------------------------------------------------------------------
-- Values from trees
-----------------------------------------------------------------------------------------

/-- A value of a reader's own: its whole numbers have 64 bits, its objects have their keys in order,
and it nests at most a number of arrays and objects.
-/
inductive Nests : (depth : Nat) → Json K → Prop
  | null (depth : Nat) : Nests depth .null
  | bool (depth : Nat) (value : Bool) : Nests depth (.bool value)
  | integer (depth : Nat) {value : Int} (low : -(2 ^ 63) ≤ value) (high : value < 2 ^ 64)
    : Nests depth (.integer value)
  | number (depth : Nat) (value : K) : Nests depth (.number value)
  | text (depth : Nat) (value : String) : Nests depth (.text value)
  | array {depth : Nat} {items : List (Json K)} (all : ∀ item ∈ items, Nests depth item)
    : Nests (depth + 1) (.array items)
  | object {depth : Nat} {fields : List (String × Json K)} (sorted : KeysSorted fields)
    (all : ∀ field ∈ fields, Nests depth field.2)
    : Nests (depth + 1) (.object fields)

mutual

/-- The numbers in a value that are not whole numbers. -/
def floats : Json K → List K
  | .number value => [value]
  | .array items => itemFloats items
  | .object fields => fieldFloats fields
  | _ => []

def itemFloats : List (Json K) → List K
  | [] => []
  | item :: rest => floats item ++ itemFloats rest

def fieldFloats : List (String × Json K) → List K
  | [] => []
  | (_, value) :: rest => floats value ++ fieldFloats rest

end

omit [NumberText K] in
theorem mem_itemFloats {x : K} {items : List (Json K)}
    : x ∈ itemFloats items ↔ ∃ item ∈ items, x ∈ floats item := by
  induction items with
  | nil => simp [itemFloats]
  | cons item items ih => simp [itemFloats, ih]

omit [NumberText K] in
theorem mem_fieldFloats {x : K} {fields : List (String × Json K)}
    : x ∈ fieldFloats fields ↔ ∃ field ∈ fields, x ∈ floats field.2 := by
  induction fields with
  | nil => simp [fieldFloats]
  | cons field fields ih => simp [fieldFloats, ih]

omit [NumberText K] in
theorem floats_numbers (xs : List K) : (numbers xs).floats = xs := by
  rw [numbers, floats]
  induction xs with
  | nil => rfl
  | cons x xs ih => rw [List.map_cons, itemFloats, ih, floats, List.singleton_append]

/-- Whole numbers of 64 bits are read as such, by cases on the sign. -/
theorem ofLiteral?_ofInt {value : Int} (low : -(2 ^ 63) ≤ value) (high : value < 2 ^ 64)
    : ofLiteral? (Literal.ofInt value) = some (.integer value : Json K) := by
  have bound : Nat.pow 2 64 = 2 ^ 64 := rfl
  have bound' : Nat.pow 2 63 = 2 ^ 63 := rfl
  unfold ofLiteral?
  rw [bound, bound']
  cases value with
  | ofNat n =>
      have small : n < 2 ^ 64 := by simpa using high
      have literal : Literal.ofInt (Int.ofNat n) = ⟨false, n, [], none⟩ := rfl
      rw [literal, if_pos (by simpa [Literal.isWhole] using small)]
      rfl
  | negSucc n =>
      have small : n + 1 ≤ 2 ^ 63 := by omega
      have literal : Literal.ofInt (Int.negSucc n) = ⟨true, n + 1, [], none⟩ := by
        simp [Literal.ofInt, Int.negSucc_lt_zero]
      rw [literal, if_neg (by simp), if_pos (by simpa [Literal.isWhole] using small)]
      rfl

theorem ofItems?_trees {depth : Nat} {items : List (Json K)}
    (read : ∀ item ∈ items, ofTree? depth (tree item) = some item)
    : ofItems? depth (trees items) = some items := by
  induction items with
  | nil => rfl
  | cons item items ih =>
      rw [trees, ofItems?, read item List.mem_cons_self,
        ih fun later member => read later (List.mem_cons_of_mem _ member)]
      rfl

theorem ofFields?_fieldTrees {depth : Nat} {fields : List (String × Json K)}
    (read : ∀ field ∈ fields, ofTree? depth (tree field.2) = some field.2)
    : ofFields? depth (fieldTrees fields) = some fields := by
  induction fields with
  | nil => rfl
  | cons field fields ih =>
      rw [fieldTrees, ofFields?, read field List.mem_cons_self,
        ih fun later member => read later (List.mem_cons_of_mem _ member)]
      rfl

/-- A value whose numbers read back is read from its tree, by induction on it. -/
theorem ofTree?_tree {depth : Nat} {v : Json K} (nests : Nests depth v)
    (reads : ∀ x ∈ v.floats, ReadsBack x)
    : ofTree? depth (tree v) = some v := by
  induction nests with
  | null => simp [tree, ofTree?]
  | bool => simp [tree, ofTree?]
  | text => simp [tree, ofTree?]
  | integer depth low high => simp [tree, ofTree?, ofLiteral?_ofInt low high]
  | number depth value =>
      obtain ⟨literal, written, shown, read⟩ := reads value (List.mem_singleton_self value)
      simp [tree, written, ofTree?, ofLiteral?, shown, read]
  | array all ih =>
      have items := ofItems?_trees fun item member =>
        ih item member fun x inside => reads x (mem_itemFloats.mpr ⟨item, member, inside⟩)
      rw [tree, ofTree?, items, Option.map_some]
  | object sorted all ih =>
      have fields := ofFields?_fieldTrees fun field member =>
        ih field member fun x inside => reads x (mem_fieldFloats.mpr ⟨field, member, inside⟩)
      rw [tree, ofTree?, fields, Option.map_some, ofFields, sortFields_of_sorted sorted]

end Json

end QuadraticTrials

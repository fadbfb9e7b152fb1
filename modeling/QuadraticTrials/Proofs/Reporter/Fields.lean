import Mathlib
import QuadraticTrials.Proofs.Json.Records
import QuadraticTrials.Proofs.Json.Values
import QuadraticTrials.Proofs.Reporter.Lines
import QuadraticTrials.Proofs.Sweep.Console

/-!
The fields of a printed object. None is lost and none comes twice: the preferred keys come first, in
the order of the preference, and the others follow in the order of their bytes.
-/

namespace QuadraticTrials

-----------------------------------------------------------------------------------------
-- The order of bytes
-----------------------------------------------------------------------------------------

namespace Sink

open String

/-- Smaller characters have smaller encodings, whatever follows them: a longer encoding has a larger
first byte, and encodings of one length are compared digit by digit.
-/
theorem utf8EncodeChar_append_lt {c d : Char} (less : c < d) (xs ys : List UInt8)
    : utf8EncodeChar c ++ xs < utf8EncodeChar d ++ ys := by
  have less : c.val.toNat < d.val.toNat := less
  have valid : d.val.toNat < 0xd800 ∨ 0xdfff < d.val.toNat ∧ d.val.toNat < 0x110000 := d.valid
  have second (n : Nat) : n / 4096 = n / 64 / 64 := by omega
  have third (n : Nat) : n / 262144 = n / 64 / 64 / 64 := by omega
  simp only [utf8EncodeChar, second, third]
  generalize c.val.toNat = v at *
  generalize d.val.toNat = w at *
  -- The comparison never comes to what follows, since some digit differs.
  by_cases later : xs < ys
  all_goals
    split_ifs <;>
    simp only [List.cons_append, List.nil_append, List.cons_lt_cons_iff, UInt8.lt_iff_toNat_lt,
      ← UInt8.toNat_inj, UInt8.toNat_ofNat', later, and_true, and_false, or_false] <;>
    omega

/-- The bytes of a text are those of its characters. -/
theorem bytes_eq_flatMap (text : String) : bytes text = text.toList.flatMap utf8EncodeChar := by
  have encoded : text.toUTF8 = text.toList.utf8Encode := String.utf8Encode_toList.symm
  rw [bytes, encoded, List.utf8Encode, List.data_toByteArray]

/-- Texts in the order of their characters are in the order of their bytes, by induction on both up
to the first character that differs.
-/
theorem bytes_lt {s t : String} (less : s < t) : bytes s < bytes t := by
  have encoded (cs ds : List Char) (less : cs < ds)
      : cs.flatMap utf8EncodeChar < ds.flatMap utf8EncodeChar := by
    induction cs generalizing ds with
    | nil =>
        cases ds with
        | nil => exact absurd less (List.not_lt_nil _)
        | cons d ds =>
            obtain ⟨b, bs, encoding⟩ := List.exists_cons_of_ne_nil (utf8EncodeChar_ne_nil (c := d))
            rw [List.flatMap_nil, List.flatMap_cons, encoding]
            exact List.nil_lt_cons _ _
    | cons c cs ih =>
        cases ds with
        | nil => exact absurd less (List.not_lt_nil _)
        | cons d ds =>
            rw [List.flatMap_cons, List.flatMap_cons]
            rcases List.cons_lt_cons_iff.mp less with differs | ⟨rfl, later⟩
            · exact utf8EncodeChar_append_lt differs _ _
            · exact List.append_left_lt (ih ds later)
  rw [bytes_eq_flatMap, bytes_eq_flatMap]
  exact encoded _ _ less

end Sink

-----------------------------------------------------------------------------------------
-- Fields
-----------------------------------------------------------------------------------------

namespace Console

variable {K : Type} {preferred : List String} {fields : List (String × Json K)}

/-- The fields under preferred keys, in the order of the preference. -/
def front (preferred : List String) (fields : List (String × Json K)) : List (String × Json K) :=
  preferred.filterMap fun key => (fields.lookup key).map fun value => (key, value)

/-- The fields under all other keys, in their own order. -/
def back (preferred : List String) (fields : List (String × Json K)) : List (String × Json K) :=
  fields.filter fun (key, _) => !preferred.contains key

/-- A field is in front exactly if it is one of the fields, under a preferred key. -/
theorem mem_front (once : (fields.map Prod.fst).Nodup) {field : String × Json K}
    : field ∈ front preferred fields ↔ field.1 ∈ preferred ∧ field ∈ fields := by
  rw [front, List.mem_filterMap]
  constructor
  · rintro ⟨key, listed, found⟩
    obtain ⟨value, here, rfl⟩ := Option.map_eq_some_iff.mp found
    obtain ⟨before, after, rfl, -⟩ := List.lookup_eq_some_iff.mp here
    exact ⟨listed, List.mem_append_right _ List.mem_cons_self⟩
  · rintro ⟨listed, member⟩
    exact ⟨field.1, listed, by rw [Tree.lookup_of_mem once member]; rfl⟩

/-- The keys in front are the preferred ones that have a field, by induction on the preference. -/
theorem map_fst_front (preferred : List String) (fields : List (String × Json K))
    : (front preferred fields).map Prod.fst
      = preferred.filter fun key => key ∈ fields.map Prod.fst := by
  induction preferred with
  | nil => rfl
  | cons key preferred ih =>
      rw [front, List.filterMap_cons, ← front, List.filter_cons, ← ih]
      cases found : fields.lookup key with
      | none =>
          have missing : key ∉ fields.map Prod.fst := fun member => by
            obtain ⟨field, here, rfl⟩ := List.mem_map.mp member
            simpa using List.lookup_eq_none_iff.mp found field here
          rw [if_neg (by simpa using missing)]
          rfl
      | some value =>
          have present : key ∈ fields.map Prod.fst := by
            obtain ⟨before, after, rfl, -⟩ := List.lookup_eq_some_iff.mp found
            simp
          rw [if_pos (decide_eq_true present)]
          rfl

/-- Front and back are all fields: the front has those under preferred keys, the back the others. -/
theorem perm_front_append_back (distinct : preferred.Nodup)
    (once : (fields.map Prod.fst).Nodup)
    : (front preferred fields ++ back preferred fields).Perm fields := by
  have keys : ((front preferred fields).map Prod.fst).Nodup := by
    rw [map_fst_front]
    exact distinct.filter _
  have first : (front preferred fields).Perm
      (fields.filter fun field => preferred.contains field.1) := by
    refine (List.perm_ext_iff_of_nodup keys.of_map (once.of_map.filter _)).mpr fun field => ?_
    rw [mem_front once, List.mem_filter, List.contains_iff_mem, and_comm]
  exact (first.append_right _).trans (List.filter_append_perm _ fields)

/-- A text shows fields in order, each with its key and an equals sign on a line and its value in
full after it.
-/
def ShowsFields [NumberText K] (fields : List (String × Json K)) (text : String) : Prop :=
  ∃ shown : Json K → String,
    (∀ value, InFull value (shown value))
      ∧ text = String.join (fields.map fun (key, value) => key ++ " =\n" ++ shown value ++ "\n")

/-- How the fields of an object are printed: all of them and each once, those in front under the
preferred keys and those behind in the order of their bytes.
-/
structure Arranges [NumberText K] (preferred : List String) (fields : List (String × Json K))
    (text : String) (first rest : List (String × Json K))
    : Prop where
  printed : ShowsFields (first ++ rest) text
  all : (first ++ rest).Perm fields
  once : ((first ++ rest).map Prod.fst).Nodup
  leading : first.map Prod.fst = preferred.filter fun key => key ∈ fields.map Prod.fst
  others : ∀ field ∈ rest, field.1 ∉ preferred
  sorted : rest.Pairwise fun field later => Sink.bytes field.1 < Sink.bytes later.1

/-- Fields on their lines are shown one after the other, by induction on them. -/
theorem showsFields_flatMap [NumberText K] (fields : List (String × Json K))
    : ShowsFields fields
        (String.join (fields.flatMap fun (key, value) =>
          [line (key ++ " ="), line (indented value)])) := by
  refine ⟨indented, inFull, ?_⟩
  induction fields with
  | nil => rfl
  | cons field fields ih =>
      rw [List.flatMap_cons, String.join_append, ih, List.map_cons, String.join_cons]
      simp [line, String.append_assoc]

/-- Every object with its keys in order is printed in this way. -/
theorem arranges [NumberText K] (distinct : preferred.Nodup) (sorted : Json.KeysSorted fields)
    : Arranges preferred fields (String.join (fieldLines preferred (.object fields)))
        (front preferred fields) (back preferred fields) := by
  have all := perm_front_append_back distinct sorted.nodup
  refine ⟨showsFields_flatMap _, all, (all.map Prod.fst).nodup_iff.mpr sorted.nodup,
    map_fst_front _ _, ?_, ?_⟩
  · intro field member
    simpa using (List.mem_filter.mp member).2
  · exact (sorted.filter _).imp Sink.bytes_lt

/-- How the data of a report is printed: an object field by field, anything else on one line. -/
structure ShowsData [NumberText K] (preferred : List String) (data : Json K) (text : String)
    : Prop where
  object
    : ∀ fields,
        data = .object fields → Json.KeysSorted fields →
          ∃ first rest, Arranges preferred fields text first rest
  other : (∀ fields, data ≠ .object fields) → text = data.compact ++ "\n"

theorem showsData [NumberText K] (distinct : preferred.Nodup) (data : Json K)
    : ShowsData preferred data (String.join (fieldLines preferred data)) := by
  constructor
  · rintro fields rfl sorted
    exact ⟨_, _, arranges distinct sorted⟩
  · intro other
    cases data with
    | object fields => exact absurd rfl (other fields)
    | _ => simp [fieldLines, line]

/-- Fields come in the order of the preference, and then in the order of their bytes. -/
example (a b c d : Json K)
    : front ["P", "q", "A"] [("P", a), ("Z", b), ("n", c), ("q", d)]
          ++ back ["P", "q", "A"] [("P", a), ("Z", b), ("n", c), ("q", d)]
        = [("P", a), ("q", d), ("Z", b), ("n", c)] :=
  rfl

end Console

end QuadraticTrials

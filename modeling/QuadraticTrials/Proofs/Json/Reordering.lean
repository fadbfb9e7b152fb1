import Mathlib
import QuadraticTrials.Report
import QuadraticTrials.Proofs.Json.Blanks
import QuadraticTrials.Proofs.Json.Identity
import QuadraticTrials.Proofs.Json.Stored

/-!
The order of keys does not matter, at any depth. Texts that differ only in it, and in blanks outside
strings, are read to one value when none of their objects has a key twice, and so have one digest.
-/

namespace QuadraticTrials

namespace Tree

-----------------------------------------------------------------------------------------
-- Orders of keys
-----------------------------------------------------------------------------------------

/-- Two trees are the same but for the order of fields in objects at any depth: the fields of an
object change their order, or one of the values within an array or object is reordered.
-/
inductive Reordered : Tree → Tree → Prop
  | refl (t : Tree) : Reordered t t
  | trans {t t' t'' : Tree} (first : Reordered t t') (second : Reordered t' t'') : Reordered t t''
  | fields {fields fields' : List (Option String × Tree)} (perm : fields.Perm fields')
    : Reordered (.object fields) (.object fields')
  | item {t t' : Tree} (before after : List Tree) (within : Reordered t t')
    : Reordered (.array (before ++ t :: after)) (.array (before ++ t' :: after))
  | value {t t' : Tree} (before after : List (Option String × Tree)) (key? : Option String)
    (within : Reordered t t')
    : Reordered (.object (before ++ (key?, t) :: after)) (.object (before ++ (key?, t') :: after))

/-- No object within a tree has a key twice. -/
inductive Distinct : Tree → Prop
  | null : Distinct .null
  | bool (value : Bool) : Distinct (.bool value)
  | number (literal : Literal) : Distinct (.number literal)
  | text (value : Option String) : Distinct (.text value)
  | array {items : List Tree} (all : ∀ item ∈ items, Distinct item) : Distinct (.array items)
  | object {fields : List (Option String × Tree)} (once : (fields.filterMap Prod.fst).Nodup)
    (all : ∀ field ∈ fields, Distinct field.2)
    : Distinct (.object fields)

/-- Keys stay distinct in another order, by cases on what is reordered. -/
theorem Reordered.distinct {t t' : Tree} (reordered : Reordered t t') (distinct : Distinct t)
    : Distinct t' := by
  induction reordered with
  | refl => exact distinct
  | trans _ _ first second => exact second (first distinct)
  | fields perm =>
      cases distinct with
      | object once all =>
          refine .object ((perm.filterMap Prod.fst).nodup_iff.mp once) fun field member => ?_
          exact all field (perm.mem_iff.mpr member)
  | item before after _ ih =>
      cases distinct with
      | array all =>
          rw [List.forall_mem_append, List.forall_mem_cons] at all
          refine .array ?_
          rw [List.forall_mem_append, List.forall_mem_cons]
          exact ⟨all.1, ih all.2.1, all.2.2⟩
  | value before after key? _ ih =>
      cases distinct with
      | object once all =>
          rw [List.forall_mem_append, List.forall_mem_cons] at all
          refine .object ?_ ?_
          · simpa only [List.filterMap_append, List.filterMap_cons] using once
          · rw [List.forall_mem_append, List.forall_mem_cons]
            exact ⟨all.1, ih all.2.1, all.2.2⟩

end Tree

-----------------------------------------------------------------------------------------
-- Values
-----------------------------------------------------------------------------------------

namespace Json

variable {K : Type} [NumberText K]

theorem ofItems?_congr {depth : Nat} {t t' : Tree}
    (same : (ofTree? depth t : Option (Json K)) = ofTree? depth t') (before after : List Tree)
    : (ofItems? depth (before ++ t :: after) : Option (List (Json K)))
      = ofItems? depth (before ++ t' :: after) := by
  induction before with
  | nil => simp only [List.nil_append, ofItems?, same]
  | cons first before ih => simp only [List.cons_append, ofItems?, ih]

theorem ofFields?_congr {depth : Nat} {t t' : Tree}
    (same : (ofTree? depth t : Option (Json K)) = ofTree? depth t')
    (before after : List (Option String × Tree)) (key? : Option String)
    : (ofFields? depth (before ++ (key?, t) :: after) : Option (List (String × Json K)))
      = ofFields? depth (before ++ (key?, t') :: after) := by
  induction before with
  | nil => simp only [List.nil_append, ofFields?, same]
  | cons first before ih => simp only [List.cons_append, ofFields?, ih]

/-- Fields are read one by one, each with a key and a value. -/
theorem ofFields?_eq_some_iff {depth : Nat} {fields : List (Option String × Tree)}
    {read : List (String × Json K)}
    : ofFields? depth fields = some read
      ↔ List.Forall₂
          (fun field entry => field.1 = some entry.1 ∧ ofTree? depth field.2 = some entry.2)
          fields read := by
  induction fields generalizing read with
  | nil => simp [ofFields?, eq_comm]
  | cons field fields ih =>
      obtain ⟨key?, t⟩ := field
      simp only [ofFields?, Option.bind_eq_bind, Option.bind_eq_some_iff, Option.some.injEq,
        List.forall₂_cons_left_iff, ← ih]
      constructor
      · rintro ⟨key, rfl, value, first, others, rest, rfl⟩
        exact ⟨(key, value), others, ⟨rfl, first⟩, rest, rfl⟩
      · rintro ⟨⟨key, value⟩, others, ⟨rfl, first⟩, rest, rfl⟩
        exact ⟨key, rfl, value, first, others, rest, rfl⟩

/-- Fields in another order are read to the same entries in another order. -/
theorem ofFields?_of_perm {depth : Nat} {fields fields' : List (Option String × Tree)}
    {read : List (String × Json K)} (perm : fields.Perm fields')
    (found : ofFields? depth fields = some read)
    : ∃ read', ofFields? depth fields' = some read' ∧ read.Perm read' := by
  obtain ⟨read', each, same⟩ := List.perm_comp_forall₂ perm.symm (ofFields?_eq_some_iff.mp found)
  exact ⟨read', ofFields?_eq_some_iff.mpr each, same.symm⟩

/-- The keys of entries are those of the fields that they are read from. -/
theorem map_fst_of_ofFields? {depth : Nat} {fields : List (Option String × Tree)}
    {read : List (String × Json K)} (found : ofFields? depth fields = some read)
    : read.map Prod.fst = fields.filterMap Prod.fst := by
  have each := ofFields?_eq_some_iff.mp found
  clear found
  induction each with
  | nil => rfl
  | cons first _ ih => rw [List.map_cons, List.filterMap_cons_some first.1, ih]

/-- An object is read to one value in whatever order its fields are, as its entries are sorted. -/
theorem ofTree?_object_of_perm {fields fields' : List (Option String × Tree)}
    (perm : fields.Perm fields') (once : (fields.filterMap Prod.fst).Nodup) (depth : Nat)
    : (ofTree? depth (.object fields) : Option (Json K)) = ofTree? depth (.object fields') := by
  cases depth with
  | zero => rw [ofTree?, ofTree?]
  | succ depth =>
      rw [ofTree?, ofTree?]
      cases found : (ofFields? depth fields : Option (List (String × Json K))) with
      | some read =>
          obtain ⟨read', found', same⟩ := ofFields?_of_perm perm found
          have keys : (read.map Prod.fst).Nodup := map_fst_of_ofFields? found ▸ once
          rw [found', Option.map_some, Option.map_some, ofFields, ofFields,
            sortFields_of_perm same keys]
      | none =>
          cases found' : (ofFields? depth fields' : Option (List (String × Json K))) with
          | none => rfl
          | some read' =>
              obtain ⟨read, found'', -⟩ := ofFields?_of_perm perm.symm found'
              rw [found] at found''
              cases found''

/-- Trees that differ in the order of keys only are read to one value when their keys are distinct,
by cases on what is reordered.
-/
theorem ofTree?_of_reordered {t t' : Tree} (reordered : t.Reordered t') (distinct : t.Distinct)
    (depth : Nat)
    : (ofTree? depth t : Option (Json K)) = ofTree? depth t' := by
  induction reordered generalizing depth with
  | refl => rfl
  | trans first second ih ih' =>
      rw [ih distinct depth, ih' (first.distinct distinct) depth]
  | fields perm =>
      cases distinct with
      | object once all => exact ofTree?_object_of_perm perm once depth
  | item before after within ih =>
      cases distinct with
      | array all =>
          have inside := all _ (List.mem_append_right _ List.mem_cons_self)
          cases depth with
          | zero => rw [ofTree?, ofTree?]
          | succ depth => rw [ofTree?, ofTree?, ofItems?_congr (ih inside depth)]
  | value before after key? within ih =>
      cases distinct with
      | object once all =>
          have inside := all _ (List.mem_append_right _ List.mem_cons_self)
          cases depth with
          | zero => rw [ofTree?, ofTree?]
          | succ depth => rw [ofTree?, ofTree?, ofFields?_congr (ih inside depth)]

end Json

-----------------------------------------------------------------------------------------
-- Texts
-----------------------------------------------------------------------------------------

namespace Tree

/-- Two texts differ only in blanks outside strings and in the order of keys. -/
def Rearranged (text text' : String) : Prop :=
  ∃ t t',
    parse? (withoutBlanks text) = some t
      ∧ parse? (withoutBlanks text') = some t'
      ∧ Reordered t t'

/-- A text is read, and none of its objects has a key twice. -/
def HasDistinctKeys (text : String) : Prop :=
  ∃ t, parse? text = some t ∧ Distinct t

/-- Texts that differ only so are read to one value, their trees being those without blanks. -/
theorem read?_of_rearranged {K : Type} [NumberText K] {text text' : String}
    (distinct : HasDistinctKeys text) (distinct' : HasDistinctKeys text')
    (rearranged : Rearranged text text') (depth : Nat)
    : (read? (Json.ofTree? depth) text : Option (Json K)) = read? (Json.ofTree? depth) text' := by
  obtain ⟨t, read, once⟩ := distinct
  obtain ⟨t', read', -⟩ := distinct'
  obtain ⟨left, right, bare, bare', reordered⟩ := rearranged
  obtain rfl : t = left := Option.some.inj ((parse?_withoutBlanks read).symm.trans bare)
  obtain rfl : t' = right := Option.some.inj ((parse?_withoutBlanks read').symm.trans bare')
  rw [read?, read?, read, read', Option.bind_some, Option.bind_some,
    Json.ofTree?_of_reordered reordered once]

end Tree

/-- The digested text names the instance. Valid instances with one text are the same: shapes,
entries and blocks. Texts that differ only in the order of keys and in blanks outside strings give
reports with one digest. A report has the digest of the compact text of its inputs.
-/
theorem digested_text_identifies
    : (∀ inst inst' : Instance Float, inst.validate = .ok () → inst'.validate = .ok () →
        inst.toValue.compact = inst'.toValue.compact → inst = inst')
      ∧ (∀ text text' : String, Tree.HasDistinctKeys text → Tree.HasDistinctKeys text' →
          Tree.Rearranged text text' →
          ∀ inputs : Json Float, Tree.read? (Json.ofTree? Tree.maxDepth) text = some inputs →
            ∃ inputs' : Json Float, Tree.read? (Json.ofTree? Tree.maxDepth) text' = some inputs'
              ∧ ∀ trial trial' costScale costScale' outputs outputs' verdict verdict',
                  (Report.make trial costScale inputs outputs verdict).inputHash
                    = (Report.make trial' costScale' inputs' outputs' verdict').inputHash)
      ∧ ∀ trial costScale (inputs outputs : Json Float) verdict,
          (Report.make trial costScale inputs outputs verdict).inputHash
            = Digest.sha256 inputs.compact := by
  refine ⟨?_, ?_, fun _ _ _ _ _ => rfl⟩
  · intro inst inst' valid valid' same
    exact Instance.eq_of_compact_eq valid valid' same
  · intro text text' distinct distinct' rearranged inputs read
    rw [Tree.read?_of_rearranged distinct distinct' rearranged] at read
    exact ⟨inputs, read, fun _ _ _ _ _ _ _ _ => rfl⟩

namespace Sample

/-- Two variables with one cost, an equality block without rows and no inequality block. -/
def constantCost : Instance Float :=
  ⟨⟨2, 2, .replicate 2 (.replicate 2 2.5)⟩, [1, -0.1], none, some ⟨⟨0, 2, #v[]⟩, []⟩⟩

/-- The same instance with its entries written out. -/
def writtenCost : Instance Float :=
  ⟨⟨2, 2, #v[#v[2.5, 2.5], #v[2.5, 2.5]]⟩, [1, -0.1], none, some ⟨⟨0, 2, #v[]⟩, []⟩⟩

/-- Inputs in the order of their keys. -/
def orderly : Json Float :=
  .object [("P", .numbers [2.5]), ("name", .object [("first", .text "a b"), ("last", .null)])]

/-- The same inputs in another order, also within the name. -/
def disorderly : Json Float :=
  .object [("name", .object [("last", .null), ("first", .text "a b")]), ("P", .numbers [2.5])]

/-- The inputs in that order with blanks between them. -/
def spaced : String :=
  "\x7b \"name\": \x7b\"last\": null, \"first\": \"a b\"\x7d,\n  \"P\": [ 2.5 ] \x7d"

theorem reordered : orderly.tree.Reordered disorderly.tree :=
  .trans (.fields (.swap _ _ _)) (.value [] [_] _ (.fields (.swap _ _ _)))

theorem distinct : orderly.tree.Distinct := by
  refine .object (by decide) (List.forall_mem_cons.mpr ⟨?_, List.forall_mem_singleton.mpr ?_⟩)
  · exact .array (List.forall_mem_singleton.mpr (.number _))
  · refine .object (by decide) (List.forall_mem_cons.mpr ⟨.text _, ?_⟩)
    exact List.forall_mem_singleton.mpr .null

theorem parse?_spaced : Tree.parse? spaced = some disorderly.tree := by
  have bare : Tree.withoutBlanks spaced = disorderly.compact := by decide +kernel
  have read : (Tree.parse? spaced).isSome := by decide +kernel
  obtain ⟨t, read⟩ := Option.isSome_iff_exists.mp read
  have same := Tree.parse?_withoutBlanks read
  rw [bare, Tree.parse?_compact] at same
  rw [read, same]

theorem read_orderly
    : Tree.read? (Json.ofTree? Tree.maxDepth) orderly.compact = some orderly := by
  have nests : orderly.Nests Tree.maxDepth := by
    refine .object (by unfold Json.KeysSorted; decide) ?_
    refine List.forall_mem_cons.mpr ⟨?_, List.forall_mem_singleton.mpr ?_⟩
    · exact .array (List.forall_mem_singleton.mpr (.number _ _))
    · refine .object (by unfold Json.KeysSorted; decide) ?_
      exact List.forall_mem_cons.mpr ⟨.text _ _, List.forall_mem_singleton.mpr (.null _)⟩
  have finite : orderly.IsFinite := by
    unfold Json.IsFinite
    decide +kernel
  have inverts : orderly.LiteralsInvert := by
    unfold Json.LiteralsInvert
    decide +kernel
  rw [Tree.read?_compact, Json.ofTree?_tree nests (Json.readsBack finite inverts)]

end Sample

/-- Two instances with one text are the same, and inputs in another order have one digest, which is
computed from their text.
-/
theorem samples_identified
    : Sample.constantCost = Sample.writtenCost
      ∧ ∃ inputs : Json Float,
          Tree.read? (Json.ofTree? Tree.maxDepth) Sample.spaced = some inputs
            ∧ (Report.make 0 1 Sample.orderly .null .passed).inputHash
              = (Report.make 1 2 inputs .null .passed).inputHash
            ∧ (Report.make 1 2 inputs .null .passed).inputHash
              = "e87e661da7824fcb63e53b5b2c1195888af4f2bb2835b68869dddcfd1b762468" := by
  obtain ⟨instances, texts, digests⟩ := digested_text_identifies
  constructor
  · exact instances _ _ (by decide +kernel) (by decide +kernel) (by decide +kernel)
  · have once : Tree.HasDistinctKeys Sample.orderly.compact :=
      ⟨_, Tree.parse?_compact _, Sample.distinct⟩
    have once' : Tree.HasDistinctKeys Sample.spaced :=
      ⟨_, Sample.parse?_spaced, Sample.reordered.distinct Sample.distinct⟩
    have rearranged : Tree.Rearranged Sample.orderly.compact Sample.spaced :=
      ⟨_, _, Tree.parse?_withoutBlanks (Tree.parse?_compact _),
        Tree.parse?_withoutBlanks Sample.parse?_spaced, Sample.reordered⟩
    obtain ⟨inputs, read, same⟩ := texts _ _ once once' rearranged _ Sample.read_orderly
    refine ⟨inputs, read, same _ _ _ _ _ _ _ _, ?_⟩
    rw [← same 0 1 1 2 .null .null .passed .passed, digests]
    decide +kernel

end QuadraticTrials

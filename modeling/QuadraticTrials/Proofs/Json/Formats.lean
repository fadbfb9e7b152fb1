import Mathlib
import QuadraticTrials.Report
import QuadraticTrials.Summary
import QuadraticTrials.Proofs.Json.Doubles
import QuadraticTrials.Proofs.Json.Records

/-!
The stored formats read back: configurations, also without the fields that hold their defaults,
counters, verdicts, reports and outcomes. The one exception is an outcome whose difference has no
literal; its text is refused.
-/

namespace QuadraticTrials

open QuadraticTrials.Tree

variable {K : Type} [NumberText K]

-----------------------------------------------------------------------------------------
-- Seeds
-----------------------------------------------------------------------------------------

omit [NumberText K] in
/-- A seed that may be missing is written as its number. -/
theorem optional_seed (seed? : Option UInt64)
    : (.optional (fun seed => .count seed.toNat) seed? : Json K)
      = .optional .count (seed?.map UInt64.toNat) := by
  cases seed? <;> rfl

/-- The number of a seed is below the bound of a word. -/
theorem optional?_seed (seed? : Option UInt64)
    : (Json.tree (.optional .count (seed?.map UInt64.toNat) : Json K)).optional? nat?
      = some (seed?.map UInt64.toNat) := by
  refine optional?_count fun n there => ?_
  obtain ⟨seed, -, rfl⟩ := Option.map_eq_some_iff.mp there
  exact seed.toNat_lt

theorem seed_of_number (seed? : Option UInt64)
    : (seed?.map UInt64.toNat).map UInt64.ofNat = seed? := by
  cases seed? <;> simp

-----------------------------------------------------------------------------------------
-- Counters
-----------------------------------------------------------------------------------------

/-- The counters are within the range of a count. -/
def Summary.InRange (s : Summary) : Prop :=
  ∀ counter ∈ s.counters, counter.2 < wordBound

/-- Counters read back, field by field. -/
theorem Summary.ofTree?_tree {s : Summary} (inRange : s.InRange)
    : ofTree? (s.toJson : Json K).tree = some s := by
  simp only [Summary.InRange, counters, List.forall_mem_cons] at inRange
  obtain ⟨total, failed, failures, dimensions, mismatches, -⟩ := inRange
  rw [ofTree?, toJson, record?_object (by simp [counters, empty]) (by simp [counters])]
  simp only [Option.bind_eq_bind, Option.bind_some]
  rw [required?_count rfl total, Option.bind_some, required?_count rfl failed, Option.bind_some,
    required?_count rfl failures, Option.bind_some, required?_count rfl dimensions,
    Option.bind_some, required?_count rfl mismatches, Option.bind_some]
  rw [nullable?_named (v := .optional (fun seed => .count seed.toNat) s.seed) rfl, optional_seed,
    optional?_seed, Option.bind_some, seed_of_number]

-----------------------------------------------------------------------------------------
-- Outcomes
-----------------------------------------------------------------------------------------

theorem Role.ofTree?_tree (role : Role)
    : ofTree? (Json.tree (.text role.name : Json K)) = some role := by
  cases role <;> simp [ofTree?, Json.tree, name?, choice?, isEmptyContent, name]

/-- The tag of an object is found, and the other fields are kept, when these are readable and none of
them has its key.
-/
theorem tagged?_object {tag : String} {v : Json K} {details : List (String × Json K)}
    (others : ∀ detail ∈ details, detail.1 ≠ tag)
    (readable : ∀ detail ∈ details, isReadable K detail.2.tree)
    : tagged? K tag (Json.tree (.object ((tag, v) :: details)))
      = some (v.tree, Json.tree (.object details)) := by
  have other : ∀ field ∈ Json.fieldTrees details, (field.1 == some tag) = false := by
    rw [Json.fieldTrees_eq_map, List.forall_mem_map]
    exact fun detail member => by simpa using others detail member
  have sifted : (Json.fieldTrees ((tag, v) :: details)).partition (fun field => field.1 == some tag)
      = ([(some tag, v.tree)], Json.fieldTrees details) := by
    have left : (Json.fieldTrees details).filter (fun field => field.1 == some tag) = [] :=
      List.filter_eq_nil_iff.mpr fun field member => by simp [other field member]
    have right : (Json.fieldTrees details).filter (fun field => !field.1 == some tag)
        = Json.fieldTrees details :=
      List.filter_eq_self.mpr fun field member => by simp [other field member]
    simp [Json.fieldTrees, List.partition_eq_filter_filter, Function.comp_def, left, right]
  have all : (Json.fieldTrees details).all
      (fun field => field.1.isSome && isReadable K field.2) := by
    rw [Json.fieldTrees_eq_map, List.all_map, List.all_eq_true]
    exact fun detail member => readable detail member
  simp only [Json.tree, tagged?, sifted, all, if_true]

/-- A value that reads back is readable. -/
theorem isReadable_tree {v : Json K} (nests : Json.Nests (maxDepth - 1) v)
    (reads : ∀ x ∈ v.floats, ReadsBack x)
    : isReadable K v.tree := by
  rw [isReadable, Json.ofTree?_tree nests reads, Option.isSome_some]

namespace Outcome

/-- The counts in an outcome are within the range of a count. -/
def InRange : Outcome K → Prop
  | passed => True
  | equivalenceMismatch index _ => index < wordBound
  | dimensionMismatch reference candidate => reference < wordBound ∧ candidate < wordBound
  | solverFailure .. => True

omit [NumberText K] in
theorem nests_count {n : Nat} (small : n < wordBound)
    : Json.Nests (maxDepth - 1) (.count n : Json K) := by
  have bound : n < 2 ^ 64 := small
  exact .integer _ (by omega) (by omega)

/-- The particulars are acceptable as they stand, kind by kind. -/
theorem isReadable_details {o : Outcome K} (inRange : o.InRange)
    (reads : ∀ detail ∈ o.details, ∀ x ∈ detail.2.floats, ReadsBack x)
    : ∀ detail ∈ o.details, isReadable K detail.2.tree := by
  intro detail member
  refine isReadable_tree ?_ (reads detail member)
  cases o with
  | passed => cases member
  | equivalenceMismatch index difference =>
      simp only [details, List.mem_cons, List.not_mem_nil, or_false] at member
      rcases member with rfl | rfl
      · exact nests_count inRange
      · exact .number _ _
  | dimensionMismatch reference candidate =>
      simp only [details, List.mem_cons, List.not_mem_nil, or_false] at member
      rcases member with rfl | rfl
      · exact nests_count inRange.1
      · exact nests_count inRange.2
  | solverFailure role reason =>
      simp only [details, List.mem_cons, List.not_mem_nil, or_false] at member
      rcases member with rfl | rfl <;> exact .text _ _

/-- The particulars give the outcome back, kind by kind. -/
theorem ofDetails?_details {o : Outcome K} (inRange : o.InRange)
    (reads : ∀ detail ∈ o.details, ∀ x ∈ detail.2.floats, ReadsBack x)
    : ofDetails? o.kind (Json.tree (.object o.details)) = some o := by
  cases o with
  | passed => rfl
  | equivalenceMismatch index difference =>
      have number : ReadsBack difference := reads _ (.tail _ (.head _)) _ (.head _)
      simp only [ofDetails?, kind, details]
      rw [record?_object (by simp) (by simp)]
      simp only [Option.bind_eq_bind, Option.bind_some]
      rw [required?_count rfl inRange, Option.bind_some, required?_number rfl number,
        Option.bind_some]
  | dimensionMismatch reference candidate =>
      simp only [ofDetails?, kind, details]
      rw [record?_object (by simp) (by simp)]
      simp only [Option.bind_eq_bind, Option.bind_some]
      rw [required?_count rfl inRange.1, Option.bind_some, required?_count rfl inRange.2,
        Option.bind_some]
  | solverFailure role reason =>
      simp only [ofDetails?, kind, details]
      rw [record?_object (by simp) (by simp)]
      simp only [Option.bind_eq_bind, Option.bind_some]
      rw [required?_named (v := .text role.name) rfl, Role.ofTree?_tree, Option.bind_some,
        required?_text reason rfl, Option.bind_some]

theorem ofTree?_tree {o : Outcome K} (inRange : o.InRange)
    (reads : ∀ x ∈ o.toJson.floats, ReadsBack x)
    : ofTree? o.toJson.tree = some o := by
  have inside : ∀ detail ∈ o.details, ∀ x ∈ detail.2.floats, ReadsBack x :=
    fun detail member x there =>
      reads x (Json.mem_fieldFloats.mpr ⟨detail, List.mem_cons_of_mem _ member, there⟩)
  rw [ofTree?, toJson, tagged?_object (by cases o <;> simp [details])
    (isReadable_details inRange inside)]
  simp only [Option.bind_eq_bind, Option.bind_some, Json.tree, text?]
  exact ofDetails?_details inRange inside

/-- A difference without a literal is written as null, which is readable but no number. -/
theorem ofTree?_of_unwritten {index : Nat} {difference : K} (inRange : index < wordBound)
    (unwritten : NumberText.toLiteral? difference = none)
    : ofTree? (equivalenceMismatch index difference).toJson.tree = (none : Option (Outcome K)) := by
  have readable : ∀ detail ∈ (equivalenceMismatch index difference).details,
      isReadable K detail.2.tree := by
    intro detail member
    simp only [details, List.mem_cons, List.not_mem_nil, or_false] at member
    rcases member with rfl | rfl
    · exact isReadable_tree (nests_count inRange) nofun
    · simp [Json.tree, unwritten, isReadable, Json.ofTree?]
  rw [ofTree?, toJson, tagged?_object (by simp [details]) readable]
  simp only [Option.bind_eq_bind, Option.bind_some, Json.tree, text?]
  change ofDetails? "equivalence_mismatch" (Json.tree (.object _)) = _
  rw [ofDetails?, record?_object (by simp [details]) (by simp [details])]
  simp only [Option.bind_eq_bind, Option.bind_some]
  rw [required?_count rfl inRange, Option.bind_some,
    required?_named (v := .number difference) rfl, number?_of_unwritten unwritten, Option.bind_none]

end Outcome

-----------------------------------------------------------------------------------------
-- Verdicts and reports
-----------------------------------------------------------------------------------------

theorem Verdict.ofTree?_tree (v : Verdict) : ofTree? (v.toJson : Json K).tree = some v := by
  cases v with
  | passed =>
      rw [ofTree?, toJson, record?_object (by simp) (by simp)]
      simp only [Option.bind_eq_bind, Option.bind_some]
      rw [required?_named (v := .text "passed") rfl]
      rfl
  | failed reason =>
      rw [ofTree?, toJson, record?_object (by simp) (by simp)]
      simp only [Option.bind_eq_bind, Option.bind_some]
      rw [required?_named (v := .text "failed") rfl]
      simp only [Json.tree, name?, choice?, isEmptyContent, Option.map_some, Option.bind_eq_bind,
        Option.bind_some, if_true]
      rw [required?_text reason rfl]
      rfl

/-- The number of the trial is within the range of a count, and the values within nest no deeper than
a reader follows them.
-/
structure Report.InRange (r : Report K) : Prop where
  trial : r.trial < wordBound
  inputs : r.inputs.Nests (maxDepth - 2)
  outputs : r.outputs.Nests (maxDepth - 2)

/-- A report reads back, its inputs and outputs as they stand. -/
theorem Report.ofTree?_tree {r : Report K} (inRange : r.InRange)
    (reads : ∀ x ∈ r.toJson.floats, ReadsBack x)
    : ofTree? r.toJson.tree = some r := by
  simp only [toJson, Json.floats, Json.fieldFloats, List.mem_append, List.append_nil] at reads
  have scale : ReadsBack r.costScale := reads _ (by simp)
  have inputs : Json.ofTree? (maxDepth - 2) r.inputs.tree = some r.inputs :=
    Json.ofTree?_tree inRange.inputs fun x there => reads x (by simp [there])
  have outputs : Json.ofTree? (maxDepth - 2) r.outputs.tree = some r.outputs :=
    Json.ofTree?_tree inRange.outputs fun x there => reads x (by simp [there])
  rw [ofTree?, toJson, record?_object (by simp) (by simp)]
  simp only [Option.bind_eq_bind, Option.bind_some]
  rw [required?_count rfl inRange.trial, Option.bind_some, required?_number rfl scale,
    Option.bind_some, required?_text r.inputHash rfl, Option.bind_some,
    required?_named (v := r.verdict.toJson) rfl, Verdict.ofTree?_tree, Option.bind_some]
  rw [required?_named (v := .object [("inputs", r.inputs), ("outputs", r.outputs)]) rfl,
    record?_object (by simp) (by simp), Option.bind_some,
    required?_named (v := r.inputs) rfl, inputs, Option.bind_some,
    required?_named (v := r.outputs) rfl, outputs, Option.bind_some]

end QuadraticTrials

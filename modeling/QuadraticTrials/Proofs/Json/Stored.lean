import Mathlib
import QuadraticTrials.Proofs.Json.Formats
import QuadraticTrials.Proofs.Sweep.Agreement
import QuadraticTrials.Proofs.Sweep.Endings

/-!
Configurations read back, also from a text in which fields that hold their defaults are left out and
the others stand in any order; and with them all stored formats of machine floats.
-/

namespace QuadraticTrials

open QuadraticTrials.Tree

namespace Json

variable {K : Type}

theorem count_injective : (count : Nat → Json K).Injective := fun m n same => by
  simpa [count] using same

theorem numbers_injective : (numbers : List K → Json K).Injective := fun xs ys same => by
  simpa [numbers, List.map_inj_right fun x y => number.inj] using same

theorem optional_count_injective : (Json.optional .count : Option Nat → Json K).Injective := by
  intro m n same
  cases m <;> cases n <;> simp_all [Json.optional, count]

end Json

namespace Config

-----------------------------------------------------------------------------------------
-- Fields
-----------------------------------------------------------------------------------------

section Fields

variable {K : Type}

/-- The fields in their stored order. -/
def fields (c : Config K) : List (String × Json K) :=
  keys.zip [.count c.repetitions, .numbers c.costScales, .number c.tolerance,
    .optional (fun seed => .count seed.toNat) c.seed, .optional .count c.solveTimeoutMs,
    .bool c.parallelSolves, .bool c.showProgress, .number c.equalityProbability]

theorem toJson_eq (c : Config K) : c.toJson = .object c.fields :=
  rfl

theorem map_fields (c : Config K) : c.fields.map Prod.fst = keys :=
  rfl

theorem nodup_fields (c : Config K) : (c.fields.map Prod.fst).Nodup := by
  rw [map_fields]
  decide

/-- Scales, tolerance and probability are the numbers in a configuration. -/
theorem floats_toJson (c : Config K)
    : c.toJson.floats = c.costScales ++ [c.tolerance, c.equalityProbability] := by
  obtain ⟨repetitions, scales, tolerance, seed?, ms?, parallel, progress, probability⟩ := c
  cases seed? <;> cases ms? <;>
    simp [toJson, keys, Json.floats, Json.fieldFloats, Json.floats_numbers, Json.optional,
      Json.count]

/-- The counts are within the range of a count. -/
structure InRange (c : Config K) : Prop where
  repetitions : c.repetitions < wordBound
  solveTimeoutMs : ∀ ms ∈ c.solveTimeoutMs, ms < wordBound

end Fields

variable {K : Type} [Scalar K]

/-- Some of the fields of a configuration, in any order; the others hold their defaults. -/
structure Kept (c : Config K) (kept : List (String × Json K)) : Prop where
  part : kept.Subperm c.fields
  rest : ∀ field ∈ c.fields, field ∈ kept ∨ field ∈ standard.fields

namespace Kept

variable {c : Config K} {kept : List (String × Json K)}

theorem all (c : Config K) : c.Kept c.fields :=
  ⟨.refl _, fun _ => .inl⟩

theorem known (shown : c.Kept kept) : ∀ field ∈ kept, field.1 ∈ keys := by
  intro field member
  exact map_fields c ▸ List.mem_map_of_mem (shown.part.subset member)

theorem once (shown : c.Kept kept) : (kept.map Prod.fst).Nodup := by
  obtain ⟨same, perm, sublist⟩ := shown.part
  exact (perm.map Prod.fst).nodup_iff.mp ((sublist.map Prod.fst).nodup (nodup_fields c))

/-- A field that is not there is a default, since no key comes twice. -/
theorem lookup (shown : c.Kept kept) {name : String} {v d : Json K} (here : (name, v) ∈ c.fields)
    (default : (name, d) ∈ (standard : Config K).fields)
    : kept.lookup name = some v ∨ kept.lookup name = none ∧ v = d := by
  rcases shown.rest _ here with there | usual
  · exact .inl (lookup_of_mem shown.once there)
  · have same : some v = some d := by
      rw [← lookup_of_mem (nodup_fields standard) usual,
        ← lookup_of_mem (nodup_fields standard) default]
    cases found : kept.lookup name with
    | none => exact .inr ⟨rfl, Option.some.inj same⟩
    | some w =>
        obtain ⟨before, after, rfl, -⟩ := List.lookup_eq_some_iff.mp found
        have member : (name, w) ∈ c.fields := shown.part.subset (by simp)
        rw [← lookup_of_mem (nodup_fields c) member, ← lookup_of_mem (nodup_fields c) here]
        exact .inl rfl

variable [NumberText K]

/-- Every field is read, or it is missing and the configuration has the default. -/
theorem withDefault? (shown : c.Kept kept) {α : Type} {encode : α → Json K}
    (injective : encode.Injective) {value? : Tree → Option α} {name : String} {x default : α}
    (read : value? (encode x).tree = some x) (here : (name, encode x) ∈ c.fields)
    (usual : (name, encode default) ∈ (standard : Config K).fields)
    : Tree.withDefault? (named kept) name default value? = some x := by
  refine withDefault?_named read ?_
  rcases shown.lookup here usual with there | ⟨missing, same⟩
  · exact .inl there
  · exact .inr ⟨missing, injective same⟩

end Kept

variable [NumberText K]

/-- The configuration is read from the fields that are kept, one field after another. -/
theorem ofTree?_kept {c : Config K} {kept : List (String × Json K)} (inRange : c.InRange)
    (reads : ∀ x ∈ c.toJson.floats, ReadsBack x) (shown : c.Kept kept)
    : ofTree? (Json.tree (.object kept)) = some c := by
  rw [floats_toJson, List.forall_mem_append] at reads
  obtain ⟨scales, reads⟩ := reads
  have tolerance : ReadsBack c.tolerance := reads _ (.head _)
  have probability : ReadsBack c.equalityProbability := reads _ (.tail _ (.head _))
  rw [ofTree?, partialRecord?_object shown.known shown.once]
  simp only [Option.bind_eq_bind, Option.bind_some]
  rw [shown.withDefault? Json.count_injective (nat?_count inRange.repetitions)
      (by simp [fields, keys]) (by simp [fields, keys]), Option.bind_some,
    shown.withDefault? Json.numbers_injective (list?_numbers scales)
      (by simp [fields, keys]) (by simp [fields, keys]), Option.bind_some,
    shown.withDefault? (fun _ _ => Json.number.inj) (number?_number tolerance)
      (by simp [fields, keys]) (by simp [fields, keys]), Option.bind_some,
    shown.withDefault? Json.optional_count_injective (optional?_seed c.seed)
      (by simp [fields, keys, optional_seed]) (by simp [fields, keys, standard, optional_seed]),
    Option.bind_some,
    shown.withDefault? Json.optional_count_injective (optional?_count inRange.solveTimeoutMs)
      (by simp [fields, keys]) (by simp [fields, keys, standard]), Option.bind_some,
    shown.withDefault? (x := c.parallelSolves) (fun _ _ => Json.bool.inj) rfl
      (by simp [fields, keys]) (by simp [fields, keys]), Option.bind_some,
    shown.withDefault? (x := c.showProgress) (fun _ _ => Json.bool.inj) rfl
      (by simp [fields, keys]) (by simp [fields, keys]), Option.bind_some,
    shown.withDefault? (fun _ _ => Json.number.inj) (number?_number probability)
      (by simp [fields, keys]) (by simp [fields, keys]), Option.bind_some, seed_of_number]

end Config

-----------------------------------------------------------------------------------------
-- Accepted configurations
-----------------------------------------------------------------------------------------

/-- A float between two finite ones is finite, since each infinity is beyond one of them. -/
theorem FloatOrder.isFinite_of_le_of_le {a x b : Float} (low : a ≤ x) (high : x ≤ b)
    (finiteLow : a.isFinite) (finiteHigh : b.isFinite)
    : x.isFinite := by
  rw [le_iff] at low high
  change a.toModel.unpack.isFinite = true at finiteLow
  change b.toModel.unpack.isFinite = true at finiteHigh
  change x.toModel.unpack.isFinite = true
  revert low high finiteLow finiteHigh
  cases x.toModel.unpack with
  | notANumber => cases b.toModel.unpack <;> exact nofun
  | infinity sign =>
      cases sign with
      | negative => cases a.toModel.unpack <;> exact nofun
      | positive => cases b.toModel.unpack <;> exact nofun
  | zero sign => exact fun _ _ _ _ => rfl
  | finite sign => exact fun _ _ _ _ => rfl

/-- All numbers in a value are finite. -/
def Json.IsFinite (v : Json Float) : Prop :=
  ∀ x ∈ v.floats, x.isFinite

/-- The literals of the finite numbers in a value are read back. Reading scales by powers of ten and
rounds at each of its steps, so this has to be asked of the numbers at hand: not every float has it.
-/
def Json.LiteralsInvert (v : Json Float) : Prop :=
  ∀ x ∈ v.floats, x.isFinite → (Literal.ofFloat? x).bind Literal.toFloat? = some x

/-- A finite number has a literal, which is not taken for a whole number. -/
theorem Json.readsBack {v : Json Float} (finite : v.IsFinite) (inverts : v.LiteralsInvert)
    : ∀ x ∈ v.floats, ReadsBack x := by
  intro x member
  obtain ⟨literal, written, read⟩ :=
    Option.bind_eq_some_iff.mp (inverts x member (finite x member))
  exact ⟨literal, written, Literal.isWhole_of_ofFloat? written, read⟩

/-- An accepted probability is between zero and one. -/
theorem Config.probability_of_check {K : Type} [Scalar K] {c : Config K}
    (accepted : c.check = .ok ())
    : 0 ≤ c.equalityProbability ∧ c.equalityProbability ≤ 1 := by
  unfold check at accepted
  split at accepted
  · cases accepted
  split at accepted
  · cases accepted
  split at accepted
  · cases accepted
  split at accepted
  · cases accepted
  rename_i within
  simpa using within

/-- An accepted configuration has finite numbers only. -/
theorem Config.isFinite_of_check {c : Config Float} (accepted : c.check = .ok ())
    : c.toJson.IsFinite := by
  rw [Json.IsFinite, floats_toJson, List.forall_mem_append]
  constructor
  · intro scale member
    have positive := isPositive_of_check accepted member
    rw [Scalar.isPositive, Bool.and_eq_true] at positive
    exact positive.1
  · obtain ⟨low, high⟩ := probability_of_check accepted
    have probability : c.equalityProbability.isFinite :=
      FloatOrder.isFinite_of_le_of_le low high (by decide +kernel) (by decide +kernel)
    have tolerance : c.tolerance.isFinite := isFinite_tolerance accepted
    simp [tolerance, probability]

/-- The difference is the only number in an outcome. -/
theorem Outcome.isFinite_toJson {o : Outcome Float}
    (finite : ∀ index difference, o = .equivalenceMismatch index difference → difference.isFinite)
    : o.toJson.IsFinite := by
  cases o with
  | passed => exact nofun
  | dimensionMismatch reference candidate => exact nofun
  | solverFailure role reason => exact nofun
  | equivalenceMismatch index difference =>
      have difference := finite index difference rfl
      simpa [Json.IsFinite, toJson, details, Json.floats, Json.fieldFloats, Json.count]

-----------------------------------------------------------------------------------------
-- All formats
-----------------------------------------------------------------------------------------

/-- Reads a stored value from a text. -/
def Tree.read? {α : Type} (ofTree? : Tree → Option α) (text : String) : Option α :=
  (parse? text).bind ofTree?

/-- What a text is read to is what its tree is read to. -/
theorem Tree.read?_compact {α K : Type} [NumberText K] (ofTree? : Tree → Option α) (v : Json K)
    : read? ofTree? v.compact = ofTree? v.tree := by
  rw [read?, parse?_compact, Option.bind_some]

/-- A configuration is accepted from the fields that are kept when it is accepted itself. -/
theorem Config.ofText_kept {c : Config Float} {kept : List (String × Json Float)}
    (inRange : c.InRange) (accepted : c.check = .ok ()) (inverts : c.toJson.LiteralsInvert)
    (shown : c.Kept kept)
    : ofText (Json.object kept).compact = .ok c := by
  have read := ofTree?_kept inRange (Json.readsBack (isFinite_of_check accepted) inverts) shown
  rw [ofText, parse?_compact, Option.bind_some, read]
  simp only [accepted]

/-- Stored formats read back: the compact text of each value is read to the value again. A
configuration may leave out fields that hold their defaults and may have the others in any order. The
text of an outcome whose difference is not finite is refused.
-/
theorem stored_formats_read_back
    : (∀ c : Config Float, c.InRange → c.toJson.IsFinite → c.toJson.LiteralsInvert →
        Tree.read? Config.ofTree? c.toJson.compact = some c)
      ∧ (∀ (c : Config Float) (kept : List (String × Json Float)), c.InRange →
          c.check = .ok () → c.toJson.LiteralsInvert → c.Kept kept →
          Config.ofText (Json.object kept).compact = .ok c)
      ∧ (∀ s : Summary, s.InRange →
          Tree.read? Summary.ofTree? (s.toJson : Json Float).compact = some s)
      ∧ (∀ v : Verdict, Tree.read? Verdict.ofTree? (v.toJson : Json Float).compact = some v)
      ∧ (∀ r : Report Float, r.InRange → r.toJson.IsFinite → r.toJson.LiteralsInvert →
          Tree.read? Report.ofTree? r.toJson.compact = some r)
      ∧ (∀ o : Outcome Float, o.InRange → o.toJson.LiteralsInvert →
          ((∀ index difference, o = .equivalenceMismatch index difference →
              difference.isFinite) →
            Tree.read? Outcome.ofTree? o.toJson.compact = some o)
          ∧ (∀ index difference, o = .equivalenceMismatch index difference →
              difference.isFinite = false →
            Tree.read? Outcome.ofTree? o.toJson.compact = (none : Option (Outcome Float)))) := by
  refine ⟨?config, ?kept, ?summary, ?verdict, ?report, ?outcome⟩
  case config =>
    intro c inRange finite inverts
    rw [Tree.read?_compact, Config.toJson_eq]
    exact Config.ofTree?_kept inRange (Json.readsBack finite inverts) (.all c)
  case kept =>
    intro c kept inRange accepted inverts shown
    exact Config.ofText_kept inRange accepted inverts shown
  case summary =>
    intro s inRange
    rw [Tree.read?_compact, Summary.ofTree?_tree inRange]
  case verdict =>
    intro v
    rw [Tree.read?_compact, Verdict.ofTree?_tree]
  case report =>
    intro r inRange finite inverts
    rw [Tree.read?_compact, Report.ofTree?_tree inRange (Json.readsBack finite inverts)]
  case outcome =>
    intro o inRange inverts
    constructor
    · intro finite
      have reads := Json.readsBack (Outcome.isFinite_toJson finite) inverts
      rw [Tree.read?_compact, Outcome.ofTree?_tree inRange reads]
    · rintro index difference rfl infinite
      have unwritten : Literal.ofFloat? difference = none := by
        rw [← Option.isNone_iff_eq_none, ← Option.not_isSome, Literal.isSome_ofFloat?, infinite]
        rfl
      rw [Tree.read?_compact, Outcome.ofTree?_of_unwritten inRange unwritten]

namespace Sample

/-- A configuration in which five fields hold their defaults. -/
def config : Config Float :=
  { Config.standard with repetitions := 3, seed := some 7, equalityProbability := 0.25 }

/-- Its other fields and one of the five, out of their stored order. -/
def kept : List (String × Json Float) :=
  [("equality_probability", .number 0.25), ("show_progress", .bool false), ("seed", .count 7),
    ("repetitions", .count 3)]

theorem config_kept : config.Kept kept where
  part :=
    ⟨kept.reverse, kept.reverse_perm, by
      simp only [kept, List.reverse_cons, List.reverse_nil, List.nil_append, List.cons_append]
      exact .cons_cons _ (.cons _ (.cons _ (.cons_cons _ (.cons _ (.cons _
        (.cons_cons _ (.cons_cons _ .slnil)))))))⟩
  rest := by
    simp [Config.fields, Config.keys, config, kept, Json.count, Json.optional]

def report : Report Float where
  trial := 2
  costScale := 500
  inputHash := "5feceb66"
  verdict := .failed "x[0] differs by \"1\"\n"
  inputs := .object [("P", .array [.numbers [2.5]]), ("q", .numbers [-0.1])]
  outputs := .object [("candidate", .null), ("steps", .integer (-3))]

theorem report_inRange : report.InRange where
  trial := by decide
  inputs := by
    refine .object (by unfold Json.KeysSorted; decide) ?_
    rw [List.forall_mem_cons, List.forall_mem_singleton]
    constructor
    · refine .array (List.forall_mem_singleton.mpr (.array ?_))
      exact List.forall_mem_singleton.mpr (.number _ _)
    · exact .array (List.forall_mem_singleton.mpr (.number _ _))
  outputs := by
    refine .object (by unfold Json.KeysSorted; decide) ?_
    rw [List.forall_mem_cons, List.forall_mem_singleton]
    exact ⟨.null _, .integer _ (by decide) (by decide)⟩

def summary : Summary :=
  ⟨9, 2, 1, 0, 1, some 7⟩

def mismatch (difference : Float) : Outcome Float :=
  .equivalenceMismatch 1 difference

end Sample

/-- A sample of each format reads back, but for a difference that is no number. -/
theorem samples_read_back
    : Tree.read? Config.ofTree? Sample.config.toJson.compact = some Sample.config
      ∧ Config.ofText (Json.object Sample.kept).compact = .ok Sample.config
      ∧ Tree.read? Summary.ofTree? (Sample.summary.toJson : Json Float).compact
          = some Sample.summary
      ∧ Tree.read? Report.ofTree? Sample.report.toJson.compact = some Sample.report
      ∧ Tree.read? Outcome.ofTree? (Sample.mismatch 0.5).toJson.compact
          = some (Sample.mismatch 0.5)
      ∧ Tree.read? Outcome.ofTree? (Sample.mismatch (0 / 0)).toJson.compact
          = (none : Option (Outcome Float)) := by
  obtain ⟨config, kept, summary, -, report, outcome⟩ := stored_formats_read_back
  have accepted : Sample.config.check = .ok () := by
    have decided : Sample.config.check.isOk = true := by decide +kernel
    rcases found : Sample.config.check with fault | ⟨⟩
    · rw [found] at decided
      cases decided
    · rfl
  have inRange : Sample.config.InRange := ⟨by decide, nofun⟩
  have configInverts : Sample.config.toJson.LiteralsInvert := by
    unfold Json.LiteralsInvert
    decide +kernel
  have reportFinite : Sample.report.toJson.IsFinite := by
    unfold Json.IsFinite
    decide +kernel
  have reportInverts : Sample.report.toJson.LiteralsInvert := by
    unfold Json.LiteralsInvert
    decide +kernel
  have halfInverts : (Sample.mismatch 0.5).toJson.LiteralsInvert := by
    unfold Json.LiteralsInvert
    decide +kernel
  have undefinedInverts : (Sample.mismatch (0 / 0)).toJson.LiteralsInvert := by
    unfold Json.LiteralsInvert
    decide +kernel
  refine ⟨config _ inRange (Config.isFinite_of_check accepted) configInverts,
    kept _ _ inRange accepted configInverts Sample.config_kept,
    summary _ (by unfold Summary.InRange; decide),
    report _ Sample.report_inRange reportFinite reportInverts, ?_, ?_⟩
  · refine (outcome (Sample.mismatch 0.5) (by decide : 1 < wordBound) halfInverts).1 ?_
    rintro index difference ⟨⟩
    decide +kernel
  · exact (outcome (Sample.mismatch (0 / 0)) (by decide : 1 < wordBound) undefinedInverts).2
      1 (0 / 0) rfl (by decide +kernel)

end QuadraticTrials

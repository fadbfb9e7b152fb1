import Mathlib
import QuadraticTrials.Listing
import QuadraticTrials.Proofs.Decimal.Literals
import QuadraticTrials.Proofs.Json.Doubles
import QuadraticTrials.Proofs.Json.Values
import QuadraticTrials.Proofs.Unsized.Safety

/-!
Compact texts tell values apart, and instances with them. The text of a value determines the value
when its numbers are told apart by their literals; the value of a valid instance determines its
shapes, its entries and which of its blocks are there.
-/

namespace QuadraticTrials

variable {K : Type} [NumberText K]

-----------------------------------------------------------------------------------------
-- Values told apart
-----------------------------------------------------------------------------------------

namespace Json

/-- A number has a literal that is not taken for a whole number. -/
def Shown (x : K) : Prop :=
  ∃ literal, NumberText.toLiteral? x = some literal ∧ literal.isWhole = false

/-- All numbers in a value are shown. -/
def AllShown (v : Json K) : Prop :=
  ∀ x ∈ v.floats, Shown x

/-- Numbers in two values with one literal are the same. -/
def ToldApart (v w : Json K) : Prop :=
  ∀ x ∈ v.floats, ∀ y ∈ w.floats, NumberText.toLiteral? x = NumberText.toLiteral? y → x = y

theorem ofInt_injective : Literal.ofInt.Injective := by
  intro i j same
  obtain ⟨sign, size⟩ : (i < 0 ↔ j < 0) ∧ i.natAbs = j.natAbs := by
    simpa [Literal.ofInt] using same
  omega

/-- A shown number is no whole number, no null and no other number. -/
theorem eq_of_tree_number_eq {x : K} {w : Json K} (shown : Shown x) (others : AllShown w)
    (apart : ToldApart (.number x) w) (same : tree (.number x) = tree w)
    : .number x = w := by
  obtain ⟨literal, written, partly⟩ := shown
  rw [tree, written, Option.elim_some] at same
  cases w with
  | null => cases same
  | bool value => cases same
  | text value => cases same
  | array items => cases same
  | object fields => cases same
  | integer value =>
      rw [tree, Tree.number.injEq] at same
      rw [same] at partly
      cases partly
  | number y =>
      obtain ⟨literal', written', -⟩ := others y (List.mem_singleton_self y)
      rw [tree, written', Option.elim_some, Tree.number.injEq] at same
      refine congrArg number (apart x (List.mem_singleton_self x) y (List.mem_singleton_self y) ?_)
      rw [written, written', same]

theorem ToldApart.symm {v w : Json K} (apart : ToldApart v w) : ToldApart w v :=
  fun y there x here same => (apart x here y there same.symm).symm

mutual

/-- Values with one tree are the same, by induction on the first of them. -/
theorem eq_of_tree_eq (v w : Json K) (shown : AllShown v) (shown' : AllShown w)
    (apart : ToldApart v w) (same : tree v = tree w)
    : v = w := by
  -- A number on one side leaves only a number for the other side, and the remaining kinds of trees
  -- are apart.
  cases v
  case number x => exact eq_of_tree_number_eq (shown x (.head _)) shown' apart same
  all_goals
    cases w
    case number y =>
      exact (eq_of_tree_number_eq (shown' y (.head _)) shown apart.symm same.symm).symm
  case null.null => rfl
  case bool.bool =>
    rw [tree, tree, Tree.bool.injEq] at same
    rw [same]
  case integer.integer =>
    rw [tree, tree, Tree.number.injEq] at same
    rw [ofInt_injective same]
  case text.text =>
    rw [tree, tree, Tree.text.injEq, Option.some.injEq] at same
    rw [same]
  case array.array items items' =>
    rw [tree, tree, Tree.array.injEq] at same
    rw [eq_of_trees_eq items items' shown shown' apart same]
  case object.object fields fields' =>
    rw [tree, tree, Tree.object.injEq] at same
    rw [eq_of_fieldTrees_eq fields fields' shown shown' apart same]
  all_goals cases same

theorem eq_of_trees_eq (items items' : List (Json K))
    (shown : ∀ x ∈ itemFloats items, Shown x) (shown' : ∀ x ∈ itemFloats items', Shown x)
    (apart : ∀ x ∈ itemFloats items, ∀ y ∈ itemFloats items',
      NumberText.toLiteral? x = NumberText.toLiteral? y → x = y)
    (same : trees items = trees items')
    : items = items' := by
  cases items <;> cases items'
  case nil.nil => rfl
  case cons.cons item items item' items' =>
    simp only [trees, List.cons.injEq] at same
    simp only [itemFloats, List.forall_mem_append] at shown shown' apart
    rw [eq_of_tree_eq item item' shown.1 shown'.1 (fun x here y => (apart.1 x here).1 y) same.1,
      eq_of_trees_eq items items' shown.2 shown'.2 (fun x here y => (apart.2 x here).2 y) same.2]
  all_goals cases same

theorem eq_of_fieldTrees_eq (fields fields' : List (String × Json K))
    (shown : ∀ x ∈ fieldFloats fields, Shown x) (shown' : ∀ x ∈ fieldFloats fields', Shown x)
    (apart : ∀ x ∈ fieldFloats fields, ∀ y ∈ fieldFloats fields',
      NumberText.toLiteral? x = NumberText.toLiteral? y → x = y)
    (same : fieldTrees fields = fieldTrees fields')
    : fields = fields' := by
  cases fields <;> cases fields'
  case nil.nil => rfl
  case cons.cons field fields field' fields' =>
    simp only [fieldTrees, List.cons.injEq, Prod.mk.injEq, Option.some.injEq] at same
    simp only [fieldFloats, List.forall_mem_append] at shown shown' apart
    have value := eq_of_tree_eq field.2 field'.2 shown.1 shown'.1
      (fun x here y => (apart.1 x here).1 y) same.1.2
    rw [Prod.ext same.1.1 value, eq_of_fieldTrees_eq fields fields' shown.2 shown'.2
      (fun x here y => (apart.2 x here).2 y) same.2]
  all_goals cases same

end

/-- Values with one compact text are the same, since the text is read to their tree. -/
theorem eq_of_compact_eq {v w : Json K} (shown : AllShown v) (shown' : AllShown w)
    (apart : ToldApart v w) (same : v.compact = w.compact)
    : v = w := by
  have read := Tree.parse?_compact v
  rw [same, Tree.parse?_compact, Option.some.injEq] at read
  exact eq_of_tree_eq v w shown shown' apart read.symm

end Json

-----------------------------------------------------------------------------------------
-- Instances told apart
-----------------------------------------------------------------------------------------

section Instances

omit [NumberText K]

namespace Listing

theorem numbers_injective : (Json.numbers : List K → Json K).Injective := by
  intro xs ys same
  simpa [Json.numbers, List.map_inj_right fun x y => Json.number.inj] using same

theorem rowsJson_injective : (rowsJson : List (List K) → Json K).Injective := by
  intro rows rows' same
  simpa [rowsJson, List.map_inj_right numbers_injective] using same

/-- No list is written as null. -/
theorem optional_injective {α : Type} {encode : List α → Json K} (injective : encode.Injective)
    (written : ∀ xs, encode xs ≠ .null)
    : (Json.optional encode).Injective := by
  rintro (_ | xs) (_ | ys) same
  · rfl
  · exact absurd same.symm (written ys)
  · exact absurd same (written xs)
  · exact congrArg some (injective same)

/-- Listings with one value are the same, part by part. -/
theorem toValue_injective : (toValue : Listing K → Json K).Injective := by
  intro l l' same
  have written : ∀ rows : List (List K), rowsJson rows ≠ .null := fun _ => nofun
  have written' : ∀ xs : List K, Json.numbers xs ≠ .null := fun _ => nofun
  have fields : l.fields = l'.fields := by
    refine Json.eq_of_sortFields_eq rfl ?_ (Json.object.inj same)
    change keys.Nodup
    decide
  simp only [Listing.fields, keys, List.zip_cons_cons, List.cons.injEq, Prod.mk.injEq] at fields
  obtain ⟨⟨-, P⟩, ⟨-, q⟩, ⟨-, A⟩, ⟨-, b⟩, ⟨-, Aeq⟩, ⟨-, bEq⟩, -⟩ := fields
  obtain ⟨⟩ := l
  obtain ⟨⟩ := l'
  rw [Listing.mk.injEq]
  exact ⟨rowsJson_injective P, numbers_injective q,
    optional_injective rowsJson_injective written A,
    optional_injective numbers_injective written' b,
    optional_injective rowsJson_injective written Aeq,
    optional_injective numbers_injective written' bEq⟩

end Listing

/-- A matrix is determined by its shape and its rows. -/
theorem Grid.eq_of_toLists_eq {g g' : Grid K} (rows : g.rows = g'.rows) (cols : g.cols = g'.cols)
    (same : g.toLists = g'.toLists)
    : g = g' := by
  obtain ⟨m, n, entries⟩ := g
  obtain ⟨m', n', entries'⟩ := g'
  obtain rfl : m = m' := rows
  obtain rfl : n = n' := cols
  have rows : entries.map Vector.toList = entries'.map Vector.toList := Vector.toList_inj.mp same
  exact congrArg (Grid.mk m n) ((Vector.map_inj_right fun _ _ => Vector.toList_inj.mp).mp rows)

namespace Instance

/-- A block that fits the variables is determined by its rows and its right-hand sides. -/
theorem block?_eq_of_lists_eq {n : Nat} {block? block?' : Option (Block K)}
    (shaped : ∀ block ∈ block?, BlockShaped n block)
    (shaped' : ∀ block ∈ block?', BlockShaped n block)
    (matrix : block?.map (·.matrix.toLists) = block?'.map (·.matrix.toLists))
    (rhs : block?.map Block.rhs = block?'.map Block.rhs)
    : block? = block?' := by
  cases block? <;> cases block?'
  case none.none => rfl
  case some.some block block' =>
    obtain ⟨rows, cols⟩ := shaped block rfl
    obtain ⟨rows', cols'⟩ := shaped' block' rfl
    have rhs := Option.some.inj rhs
    have matrix := Grid.eq_of_toLists_eq (by rw [rows, rows', rhs]) (by rw [cols, cols'])
      (Option.some.inj matrix)
    obtain ⟨⟩ := block
    obtain ⟨⟩ := block'
    exact congrArg some (congrArg₂ Block.mk matrix rhs)
  all_goals cases rhs

/-- An instance whose shapes fit is determined by its listing. -/
theorem eq_of_listing_eq {inst inst' : Instance K} (shaped : inst.WellShaped)
    (shaped' : inst'.WellShaped) (same : inst.listing = inst'.listing)
    : inst = inst' := by
  rw [listing, listing, Listing.mk.injEq] at same
  obtain ⟨P, linear, A, b, Aeq, bEq⟩ := same
  have vars : inst.numVars = inst'.numVars := congrArg List.length linear
  have cost : inst.cost = inst'.cost :=
    Grid.eq_of_toLists_eq (by rw [shaped.cost_rows, shaped'.cost_rows, vars])
      (by rw [shaped.cost_cols, shaped'.cost_cols, vars]) P
  have inequality : inst.inequality = inst'.inequality :=
    block?_eq_of_lists_eq shaped.inequality (vars ▸ shaped'.inequality) A b
  have equality : inst.equality = inst'.equality :=
    block?_eq_of_lists_eq shaped.equality (vars ▸ shaped'.equality) Aeq bEq
  obtain ⟨⟩ := inst
  obtain ⟨⟩ := inst'
  rw [Instance.mk.injEq]
  exact ⟨cost, linear, inequality, equality⟩

end Instance

-----------------------------------------------------------------------------------------
-- Entries
-----------------------------------------------------------------------------------------

theorem Listing.mem_floats_rowsJson {x : K} {rows : List (List K)}
    : x ∈ (rowsJson rows).floats ↔ ∃ row ∈ rows, x ∈ row := by
  rw [rowsJson, Json.floats, Json.mem_itemFloats]
  simp [Json.floats_numbers]

theorem Listing.mem_floats_optional {α β : Type} {x : K} {encode : β → Json K} {part : α → β}
    {v? : Option α} (member : x ∈ (Json.optional encode (v?.map part)).floats)
    : ∃ v ∈ v?, x ∈ (encode (part v)).floats := by
  cases v? with
  | none => cases member
  | some v => exact ⟨v, rfl, member⟩

theorem Listing.mem_floats_toValue {x : K} {l : Listing K} (member : x ∈ l.toValue.floats)
    : ∃ field ∈ l.fields, x ∈ field.2.floats := by
  obtain ⟨field, sorted, inside⟩ := Json.mem_fieldFloats.mp member
  have once : (l.fields.map Prod.fst).Nodup := by
    change keys.Nodup
    decide
  exact ⟨field, (Json.perm_sortFields once).mem_iff.mp sorted, inside⟩

variable [Scalar K]

theorem Grid.isFinite_toLists {grid : Grid K}
    (finite : ∀ i j, Scalar.isFinite ((grid.entries.get i).get j))
    : ∀ x ∈ (Listing.rowsJson grid.toLists).floats, Scalar.isFinite x := by
  intro x member
  obtain ⟨row, inside, there⟩ := Listing.mem_floats_rowsJson.mp member
  simp only [toLists, Vector.toList_map, List.mem_map] at inside
  obtain ⟨entries, inside, rfl⟩ := inside
  rw [Vec.toList_eq_ofFn, List.mem_ofFn] at inside there
  obtain ⟨i, rfl⟩ := inside
  obtain ⟨j, rfl⟩ := there
  exact finite i j

/-- The numbers in the value of an instance are its entries. -/
theorem Instance.isFinite_toValue {inst : Instance K} (finite : inst.EntriesFinite)
    : ∀ x ∈ inst.toValue.floats, Scalar.isFinite x := by
  intro x member
  obtain ⟨field, there, inside⟩ := Listing.mem_floats_toValue member
  simp only [Listing.fields, Listing.keys, List.zip_cons_cons, List.zip_nil_left, listing,
    List.mem_cons, List.not_mem_nil, or_false] at there
  rcases there with rfl | rfl | rfl | rfl | rfl | rfl
  · exact Grid.isFinite_toLists finite.cost x inside
  · rw [Json.floats_numbers] at inside
    exact finite.linear x inside
  · obtain ⟨block, here, inside⟩ := Listing.mem_floats_optional inside
    exact Grid.isFinite_toLists (finite.inequality block here).matrix x inside
  · obtain ⟨block, here, inside⟩ := Listing.mem_floats_optional inside
    rw [Json.floats_numbers] at inside
    exact (finite.inequality block here).rhs x inside
  · obtain ⟨block, here, inside⟩ := Listing.mem_floats_optional inside
    exact Grid.isFinite_toLists (finite.equality block here).matrix x inside
  · obtain ⟨block, here, inside⟩ := Listing.mem_floats_optional inside
    rw [Json.floats_numbers] at inside
    exact (finite.equality block here).rhs x inside

end Instances

/-- Valid instances of machine floats with one compact text are the same: finite floats are shown,
and told apart by their literals.
-/
theorem Instance.eq_of_compact_eq {inst inst' : Instance Float} (valid : inst.validate = .ok ())
    (valid' : inst'.validate = .ok ()) (same : inst.toValue.compact = inst'.toValue.compact)
    : inst = inst' := by
  have shown {inst : Instance Float} (finite : inst.EntriesFinite)
      : Json.AllShown inst.toValue := by
    intro x member
    have written : (Literal.ofFloat? x).isSome := by
      rw [Literal.isSome_ofFloat?]
      exact isFinite_toValue finite x member
    obtain ⟨literal, written⟩ := Option.isSome_iff_exists.mp written
    exact ⟨literal, written, Literal.isWhole_of_ofFloat? written⟩
  obtain ⟨shaped, finite⟩ := validate_eq_ok_iff.mp valid
  obtain ⟨shaped', finite'⟩ := validate_eq_ok_iff.mp valid'
  have apart : Json.ToldApart inst.toValue inst'.toValue := by
    intro x member y _ same
    obtain ⟨literal, written, -⟩ := shown finite x member
    exact Literal.eq_of_ofFloat? written (same.symm.trans written)
  have values := Json.eq_of_compact_eq (shown finite) (shown finite') apart same
  exact eq_of_listing_eq shaped shaped' (Listing.toValue_injective values)

end QuadraticTrials

import Mathlib
import QuadraticTrials.Conic.Sparse

/-!
Compressed columns hold what they were made of. The stored form of a matrix is well formed, and each
entry that is not zero is read back from it as it was.
-/

namespace QuadraticTrials

namespace Sparse

variable {K : Type}

-----------------------------------------------------------------------------------------
-- Where columns start
-----------------------------------------------------------------------------------------

theorem length_runningTotals (total : Nat) (counts : List Nat)
    : (runningTotals total counts).length = counts.length + 1 := by
  induction counts generalizing total with
  | nil => rfl
  | cons count rest ih => rw [runningTotals, List.length_cons, ih, List.length_cons]

theorem getElem?_runningTotals (total : Nat) (counts : List Nat) {j : Nat}
    (inside : j ≤ counts.length)
    : (runningTotals total counts)[j]? = some (total + (counts.take j).sum) := by
  induction counts generalizing total j with
  | nil =>
      cases Nat.le_zero.mp inside
      rfl
  | cons count rest ih =>
      cases j with
      | zero => rfl
      | succ j =>
          rw [List.length_cons, Nat.add_le_add_iff_right] at inside
          rw [runningTotals, List.getElem?_cons_succ, ih _ inside, List.take_succ_cons,
            List.sum_cons, Nat.add_assoc]

theorem le_of_mem_runningTotals {total : Nat} {counts : List Nat}
    : ∀ start ∈ runningTotals total counts, total ≤ start := by
  induction counts generalizing total with
  | nil =>
      intro start member
      exact (List.mem_singleton.mp member).ge
  | cons count rest ih =>
      intro start member
      rcases List.mem_cons.mp member with rfl | later
      · exact Nat.le_refl _
      · exact Nat.le_trans (Nat.le_add_right total count) (ih start later)

theorem pairwise_runningTotals (total : Nat) (counts : List Nat)
    : (runningTotals total counts).Pairwise (· ≤ ·) := by
  induction counts generalizing total with
  | nil => exact List.pairwise_singleton _ _
  | cons count rest ih =>
      exact List.pairwise_cons.mpr
        ⟨fun start member => Nat.le_trans (Nat.le_add_right total count)
          (le_of_mem_runningTotals start member), ih _⟩

-----------------------------------------------------------------------------------------
-- Stored columns
-----------------------------------------------------------------------------------------

/-- A stored matrix is well formed: its columns start at nondecreasing places, from zero up to the
number of values; the rows of a column increase and are within range; no value is zero.
-/
structure WellFormed [Scalar K] (a : Sparse K) : Prop where
  length_starts : a.starts.length = a.cols + 1
  first : a.starts.head? = some 0
  nondecreasing : a.starts.Pairwise (· ≤ ·)
  last : a.starts.getLast? = some a.values.length
  length_rowIndices : a.rowIndices.length = a.values.length
  increasing : ∀ j < a.cols, ((a.column j).map Prod.fst).Pairwise (· < ·)
  bounded : ∀ i ∈ a.rowIndices, i < a.rows
  nonzero : ∀ value ∈ a.values, Scalar.isZero value = false

section Columns

variable {rows : Nat} {columns : List (List (Nat × K))}

/-- A column is read back as it was stored: it stands between two running totals. -/
theorem column_ofColumns {j : Nat} (inside : j < columns.length)
    : (ofColumns rows columns).column j = columns[j] := by
  have start {k : Nat} (within : k ≤ columns.length)
      : (ofColumns rows columns).starts.getD k 0 = ((columns.map List.length).take k).sum := by
    rw [ofColumns, List.getD_eq_getElem?_getD,
      getElem?_runningTotals _ _ (by rwa [List.length_map]), Option.getD_some, Nat.zero_add]
  have pairs
      : (ofColumns rows columns).rowIndices.zip (ofColumns rows columns).values
        = columns.flatten := by
    have whole := List.zip_unzip columns.flatten
    rwa [List.unzip_eq_map] at whole
  rw [column, pairs, start inside.le, start inside, ← List.drop_take,
    List.drop_take_succ_flatten_eq_getElem _ _ inside]

/-- Columns that are in order, in range and without zeros give a well formed matrix. -/
theorem wellFormed_ofColumns [Scalar K]
    (increasing : ∀ column ∈ columns, (column.map Prod.fst).Pairwise (· < ·))
    (bounded : ∀ column ∈ columns, ∀ pair ∈ column, pair.1 < rows)
    (nonzero : ∀ column ∈ columns, ∀ pair ∈ column, Scalar.isZero pair.2 = false)
    : (ofColumns rows columns).WellFormed := by
  constructor
  case length_starts =>
    rw [ofColumns, length_runningTotals, List.length_map]
  case first =>
    rw [ofColumns, List.head?_eq_getElem?, getElem?_runningTotals _ _ (Nat.zero_le _)]
    rfl
  case nondecreasing => exact pairwise_runningTotals _ _
  case last =>
    rw [ofColumns, List.getLast?_eq_getElem?, length_runningTotals, Nat.add_sub_cancel,
      getElem?_runningTotals _ _ (Nat.le_refl _), List.take_length, Nat.zero_add, List.length_map,
      List.length_flatten]
  case length_rowIndices =>
    rw [ofColumns, List.length_map, List.length_map]
  case increasing =>
    intro j inside
    rw [column_ofColumns inside]
    exact increasing _ (List.getElem_mem inside)
  case bounded =>
    intro i member
    obtain ⟨pair, held, rfl⟩ := List.mem_map.mp member
    obtain ⟨column, stored, among⟩ := List.mem_flatten.mp held
    exact bounded column stored pair among
  case nonzero =>
    intro value member
    obtain ⟨pair, held, rfl⟩ := List.mem_map.mp member
    obtain ⟨column, stored, among⟩ := List.mem_flatten.mp held
    exact nonzero column stored pair among

/-- In a column whose rows increase each stored pair can be looked up. -/
theorem lookup_eq_some {column : List (Nat × K)} {i : Nat} {value : K}
    (increasing : (column.map Prod.fst).Pairwise (· < ·)) (member : (i, value) ∈ column)
    : column.lookup i = some value := by
  obtain ⟨before, after, rfl⟩ := List.append_of_mem member
  rw [List.map_append, List.map_cons, List.pairwise_append] at increasing
  refine List.lookup_eq_some_iff.mpr ⟨before, after, rfl, fun pair earlier => ?_⟩
  have less := increasing.2.2 pair.1 (List.mem_map_of_mem earlier) i List.mem_cons_self
  exact bne_iff_ne.mpr less.ne'

end Columns

-----------------------------------------------------------------------------------------
-- Stored matrices
-----------------------------------------------------------------------------------------

variable [Scalar K] {m n : Nat}

/-- What is read back for a value: zeros are not stored. -/
def stored (value : K) : K :=
  if Scalar.isZero value then 0 else value

/-- A matrix with each column stored down to a depth of its own. -/
def ofDepths (a : Dense K m n) (depth : Fin n → Nat) : Sparse K :=
  ofColumns m ((List.finRange n).map fun j => columnEntries a (depth j) j)

theorem ofDense_eq (a : Dense K m n) : ofDense a = ofDepths a fun _ => m :=
  rfl

theorem ofUpper_eq (a : Dense K m n) : ofUpper a = ofDepths a fun j => j.val + 1 :=
  rfl

theorem mem_columnEntries {a : Dense K m n} {depth : Nat} {j : Fin n} {pair : Nat × K}
    : pair ∈ columnEntries a depth j
      ↔ ∃ i : Fin m,
          i.val < depth ∧ Scalar.isZero ((a.get i).get j) = false
            ∧ pair = (i.val, (a.get i).get j) := by
  rw [columnEntries, List.mem_filter, List.mem_map]
  constructor
  · rintro ⟨⟨i, within, rfl⟩, nonzero⟩
    rw [List.mem_filter, decide_eq_true_eq] at within
    exact ⟨i, within.2, by simpa using nonzero, rfl⟩
  · rintro ⟨i, within, nonzero, rfl⟩
    refine ⟨⟨i, ?_, rfl⟩, by simpa using nonzero⟩
    rw [List.mem_filter, decide_eq_true_eq]
    exact ⟨List.mem_finRange i, within⟩

theorem increasing_columnEntries (a : Dense K m n) (depth : Nat) (j : Fin n)
    : ((columnEntries a depth j).map Prod.fst).Pairwise (· < ·) := by
  rw [List.pairwise_map, columnEntries]
  refine List.Pairwise.filter _ (List.pairwise_map.mpr ?_)
  exact ((List.pairwise_lt_finRange m).filter _).imp fun less => less

theorem wellFormed_ofDepths (a : Dense K m n) (depth : Fin n → Nat)
    : (ofDepths a depth).WellFormed := by
  refine wellFormed_ofColumns ?_ ?_ ?_
  all_goals
    intro column member
    obtain ⟨j, -, rfl⟩ := List.mem_map.mp member
  · exact increasing_columnEntries a _ j
  all_goals
    intro pair member
    obtain ⟨i, -, nonzero, rfl⟩ := mem_columnEntries.mp member
  · exact i.isLt
  · exact nonzero

/-- Each entry above the depth of its column is read back, and below it there is nothing. -/
theorem entry_ofDepths (a : Dense K m n) (depth : Fin n → Nat) (i : Fin m) (j : Fin n)
    : (ofDepths a depth).entry i j = if i.val < depth j then stored ((a.get i).get j) else 0 := by
  have column : (ofDepths a depth).column j = columnEntries a (depth j) j := by
    rw [ofDepths, column_ofColumns (by simp)]
    simp
  rw [entry, column]
  by_cases kept : i.val < depth j ∧ Scalar.isZero ((a.get i).get j) = false
  · have member : (i.val, (a.get i).get j) ∈ columnEntries a (depth j) j :=
      mem_columnEntries.mpr ⟨i, kept.1, kept.2, rfl⟩
    rw [lookup_eq_some (increasing_columnEntries a _ j) member, if_pos kept.1, stored, kept.2]
    rfl
  · -- What is not stored is zero or lies below the depth.
    have missing : (columnEntries a (depth j) j).lookup i.val = none := by
      refine List.lookup_eq_none_iff.mpr fun pair member => bne_iff_ne.mpr fun same => ?_
      obtain ⟨i', within, nonzero, rfl⟩ := mem_columnEntries.mp member
      cases Fin.ext same
      exact kept ⟨within, nonzero⟩
    rw [missing, Option.getD_none]
    split
    case isTrue within =>
      rw [stored, if_pos]
      by_contra nonzero
      exact kept ⟨within, by simpa using nonzero⟩
    case isFalse => rfl

theorem entry_ofDense (a : Dense K m n) (i : Fin m) (j : Fin n)
    : (ofDense a).entry i j = stored ((a.get i).get j) := by
  rw [ofDense_eq, entry_ofDepths, if_pos i.isLt]

theorem entry_ofUpper (a : Dense K m n) (i : Fin m) (j : Fin n)
    : (ofUpper a).entry i j = if i.val ≤ j.val then stored ((a.get i).get j) else 0 := by
  simp only [ofUpper_eq, entry_ofDepths, Nat.lt_succ_iff]

end Sparse

end QuadraticTrials

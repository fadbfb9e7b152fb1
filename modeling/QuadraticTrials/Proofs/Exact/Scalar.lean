import Mathlib
import QuadraticTrials.Scalar

/-!
Exact arithmetic: every ordered field is a number type without values out of range, and the
library's comparisons and constants are the usual ones there.
-/

namespace QuadraticTrials

/-- An ordered field computes without rounding and has no values out of range. -/
instance Scalar.exact {K : Type} [Field K] [LinearOrder K] : Scalar K where
  abs a := |a|
  isFinite _ := true

namespace Scalar

variable {K : Type} [Field K] [LinearOrder K]

@[simp] theorem abs_eq_abs (a : K) : Scalar.abs a = |a| :=
  rfl

/-- The smaller of two field elements, since all of them are related to themselves. -/
@[simp] theorem min_eq_min (a b : K) : Scalar.min a b = min a b := by
  simp [Scalar.min, min_def]

/-- The larger of two field elements, since all of them are related to themselves. -/
@[simp] theorem max_eq_max (a b : K) : Scalar.max a b = max a b := by
  rw [Scalar.max, max_comm, max_def]
  simp

/-- Only zero passes the test for zero, by antisymmetry. -/
@[simp] theorem isZero_eq_true_iff {a : K} : Scalar.isZero a = true ↔ a = 0 := by
  simp only [Scalar.isZero, Bool.and_eq_true, decide_eq_true_eq]
  exact le_antisymm_iff.symm

/-- Every positive value is usable, since all values are finite. -/
@[simp] theorem isPositive_eq_true_iff {a : K} : Scalar.isPositive a = true ↔ 0 < a := by
  simp only [Scalar.isPositive, Bool.and_eq_true, decide_eq_true_eq]
  exact and_iff_right rfl

/-- A clamped value lies between the bounds, by cases on its comparisons with them. -/
theorem clamp_mem_Icc (a : K) {low high : K} (ordered : low ≤ high)
    : Scalar.clamp a low high ∈ Set.Icc low high := by
  unfold Scalar.clamp
  split
  · exact ⟨le_rfl, ordered⟩
  rename_i above
  split
  · exact ⟨ordered, le_rfl⟩
  · rename_i below
    exact ⟨not_lt.mp above, not_lt.mp below⟩

theorem ratio_eq_div (a b : Nat) : (Scalar.ratio a b : K) = a / b :=
  rfl

theorem decimal_eq_div (units place : Nat)
    : (Scalar.decimal units place : K) = units / 10 ^ place := by
  simp [Scalar.decimal, Scalar.ratio]

end Scalar

end QuadraticTrials

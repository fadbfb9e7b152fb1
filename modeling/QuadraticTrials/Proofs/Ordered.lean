import Mathlib
import QuadraticTrials.Proofs.Comparable

/-!
Comparisons chain. An ordered field has this by transitivity; machine floats that are numbers are
ordered by the sign of what they stand for, then by exponent and mantissa, and an undefined float is
on no side of a comparison that holds.
-/

namespace QuadraticTrials

/-- A strict comparison extends by a weak one on either side. -/
class Scalar.Ordered (K : Type) [Scalar K] : Prop where
  lt_of_lt_of_le {a b c : K} : a < b → b ≤ c → a < c
  lt_of_le_of_lt {a b c : K} : a ≤ b → b < c → a < c

/-- Comparisons of an ordered field chain by transitivity. -/
instance Scalar.ordered_exact {K : Type} [Field K] [LinearOrder K] : Scalar.Ordered K where
  lt_of_lt_of_le := LT.lt.trans_le
  lt_of_le_of_lt := LE.le.trans_lt

namespace FloatOrder

open Float.Model

-----------------------------------------------------------------------------------------
-- Unpacked floats
-----------------------------------------------------------------------------------------

/-- The place of a number among all numbers: sign and size class, then exponent and mantissa, which
count down below zero.
-/
def rank : UnpackedFloat → ℤ ×ₗ ℤ ×ₗ ℤ
  | .notANumber => toLex (0, toLex (0, 0))
  | .infinity .negative => toLex (-2, toLex (0, 0))
  | .finite .negative m e _ => toLex (-1, toLex (-e, -m))
  | .zero _ => toLex (0, toLex (0, 0))
  | .finite .positive m e _ => toLex (1, toLex (e, m))
  | .infinity .positive => toLex (2, toLex (0, 0))

/-- Numbers compare as their places do, by cases on both kinds and signs. -/
theorem compare_eq_lt_iff {a b : UnpackedFloat} (left : a ≠ .notANumber) (right : b ≠ .notANumber)
    : a.compare b = some .lt ↔ rank a < rank b := by
  cases a with
  | notANumber => exact absurd rfl left
  | infinity s =>
      cases b with
      | notANumber => exact absurd rfl right
      | infinity t =>
          have signs : compare UnpackedFloat.Sign.negative .positive = .lt := rfl
          cases s <;> cases t <;> simp [UnpackedFloat.compare, rank, Prod.Lex.lt_iff, signs]
      | zero t => cases s <;> simp [UnpackedFloat.compare, rank, Prod.Lex.lt_iff]
      | finite t => cases s <;> cases t <;> simp [UnpackedFloat.compare, rank, Prod.Lex.lt_iff]
  | zero s =>
      cases b with
      | notANumber => exact absurd rfl right
      | infinity t => cases t <;> simp [UnpackedFloat.compare, rank, Prod.Lex.lt_iff]
      | zero t => simp [UnpackedFloat.compare, rank]
      | finite t => cases t <;> simp [UnpackedFloat.compare, rank, Prod.Lex.lt_iff]
  | finite s m₁ e₁ =>
      cases b with
      | notANumber => exact absurd rfl right
      | infinity t => cases s <;> cases t <;> simp [UnpackedFloat.compare, rank, Prod.Lex.lt_iff]
      | zero t => cases s <;> simp [UnpackedFloat.compare, rank, Prod.Lex.lt_iff]
      | finite t m₂ e₂ =>
          cases s <;> cases t <;>
            simp [UnpackedFloat.compare, rank, Prod.Lex.lt_iff, Ordering.then_eq_lt,
              Ordering.then_eq_gt, compare_lt_iff_lt, compare_gt_iff_gt]

-----------------------------------------------------------------------------------------
-- Machine floats
-----------------------------------------------------------------------------------------

/-- The place of a machine float among the numbers. -/
def place (a : Float) : ℤ ×ₗ ℤ ×ₗ ℤ :=
  rank a.toModel.unpack

theorem lt_iff_place {a b : Float} : a < b ↔ ¬Undefined a ∧ ¬Undefined b ∧ place a < place b := by
  rw [lt_iff]
  constructor
  · intro less
    have defined := (compare_isSome _ _).mp (Option.isSome_iff_exists.mpr ⟨_, less⟩)
    exact ⟨defined.1, defined.2, (compare_eq_lt_iff defined.1 defined.2).mp less⟩
  · rintro ⟨left, right, less⟩
    exact (compare_eq_lt_iff left right).mpr less

theorem le_iff_place {a b : Float} : a ≤ b ↔ ¬Undefined a ∧ ¬Undefined b ∧ place a ≤ place b := by
  constructor
  · intro le
    obtain ⟨left, right⟩ := defined_of_le le
    refine ⟨left, right, not_lt.mp fun less => ?_⟩
    have above : b < a := lt_iff_place.mpr ⟨right, left, less⟩
    rw [lt_iff, compare_swap] at above
    rw [le_iff] at le
    cases order : a.toModel.unpack.compare b.toModel.unpack with
    | none => simp [order] at le
    | some found => cases found <;> simp [order] at le above
  · rintro ⟨left, right, within⟩
    exact le_of_not_lt right left fun above => (lt_iff_place.mp above).2.2.not_ge within

theorem le_trans {a b c : Float} (first : a ≤ b) (second : b ≤ c) : a ≤ c := by
  obtain ⟨left, -, below⟩ := le_iff_place.mp first
  obtain ⟨-, right, above⟩ := le_iff_place.mp second
  exact le_iff_place.mpr ⟨left, right, below.trans above⟩

instance : Scalar.Ordered Float where
  lt_of_lt_of_le less le := by
    obtain ⟨left, -, below⟩ := lt_iff_place.mp less
    obtain ⟨-, right, within⟩ := le_iff_place.mp le
    exact lt_iff_place.mpr ⟨left, right, below.trans_le within⟩
  lt_of_le_of_lt le less := by
    obtain ⟨left, -, within⟩ := le_iff_place.mp le
    obtain ⟨-, right, below⟩ := lt_iff_place.mp less
    exact lt_iff_place.mpr ⟨left, right, within.trans_lt below⟩

end FloatOrder

end QuadraticTrials

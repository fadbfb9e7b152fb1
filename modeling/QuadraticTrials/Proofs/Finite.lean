import Mathlib
import QuadraticTrials.Proofs.Comparable

/-!
Values within a finite bound of one another are finite. An ordered field has no other values; on
machine floats the difference of two values of which one is infinite or undefined is itself infinite
or undefined, and its magnitude is below no finite bound.
-/

namespace QuadraticTrials

/-- A finite bound on the distance of two values keeps both of them finite. -/
class Scalar.Confining (K : Type) [Scalar K] : Prop where
  isFinite_of_abs_sub_le {a b bound : K}
    : Scalar.isFinite bound → Scalar.abs (a - b) ≤ bound →
      Scalar.isFinite a ∧ Scalar.isFinite b

/-- An ordered field has finite values only. -/
instance Scalar.confining_exact {K : Type} [Field K] [LinearOrder K] : Scalar.Confining K where
  isFinite_of_abs_sub_le _ _ := ⟨rfl, rfl⟩

namespace FloatOrder

open Float.Model

-----------------------------------------------------------------------------------------
-- Unpacked floats
-----------------------------------------------------------------------------------------

/-- A first side that is not finite makes a difference that is not, by cases on both kinds. -/
theorem isFinite_sub_left (spec : Format) {a : UnpackedFloat} (infinite : a.isFinite = false)
    (b : UnpackedFloat)
    : (UnpackedFloat.sub spec a b).isFinite = false := by
  cases a with
  | notANumber => cases b <;> rfl
  | infinity s =>
      cases b with
      | infinity t => cases s <;> cases t <;> rfl
      | _ => rfl
  | zero s => cases infinite
  | finite s => cases infinite

/-- A second side that is not finite makes a difference that is not, by cases on both kinds. -/
theorem isFinite_sub_right (spec : Format) (a : UnpackedFloat) {b : UnpackedFloat}
    (infinite : b.isFinite = false)
    : (UnpackedFloat.sub spec a b).isFinite = false := by
  cases b with
  | notANumber => cases a <;> rfl
  | infinity t =>
      cases a with
      | infinity s => cases s <;> cases t <;> rfl
      | _ => rfl
  | zero t => cases infinite
  | finite t => cases infinite

/-- The one word for each value that is not finite unpacks to it again. -/
theorem unpack_pack {a : UnpackedFloat} (infinite : a.isFinite = false)
    : (Float.Model.pack a).unpack = a := by
  cases a with
  | notANumber => rfl
  | infinity s => cases s <;> rfl
  | zero s => cases infinite
  | finite s => cases infinite

/-- A magnitude that is not finite is below no finite float, by cases on the kinds. -/
theorem compare_abs_isLE {a bound : UnpackedFloat} (infinite : a.isFinite = false)
    (finite : bound.isFinite = true)
    : (a.abs.compare bound).any (·.isLE) = false := by
  cases a with
  | notANumber => cases bound <;> rfl
  | infinity s =>
      cases bound with
      | notANumber => cases finite
      | infinity t => cases finite
      | zero t => rfl
      | finite t => rfl
  | zero s => cases infinite
  | finite s => cases infinite

-----------------------------------------------------------------------------------------
-- Machine floats
-----------------------------------------------------------------------------------------

/-- A magnitude that is not finite is below no finite float. -/
theorem not_abs_le {a bound : Float} (infinite : a.toModel.unpack.isFinite = false)
    (finite : bound.isFinite = true)
    : ¬a.abs ≤ bound := by
  have magnitude : a.abs.toModel.unpack = a.toModel.unpack.abs := by
    refine unpack_pack ?_
    revert infinite
    cases a.toModel.unpack <;> exact id
  rw [le_iff, magnitude, compare_abs_isLE infinite finite]
  exact Bool.false_ne_true

/-- The magnitude of a difference that is not finite is below no finite float. -/
theorem not_abs_sub_le {a b bound : Float}
    (infinite
      : (UnpackedFloat.sub .binary64 a.toModel.unpack b.toModel.unpack).isFinite = false)
    (finite : bound.isFinite = true)
    : ¬(a - b).abs ≤ bound := by
  have difference : (a - b).toModel.unpack
      = UnpackedFloat.sub .binary64 a.toModel.unpack b.toModel.unpack := unpack_pack infinite
  exact not_abs_le (difference ▸ infinite) finite

instance : Scalar.Confining Float where
  isFinite_of_abs_sub_le {a b bound} finite within := by
    constructor
    · refine Bool.eq_true_of_not_eq_false fun infinite => ?_
      exact not_abs_sub_le (isFinite_sub_left _ infinite _) finite within
    · refine Bool.eq_true_of_not_eq_false fun infinite => ?_
      exact not_abs_sub_le (isFinite_sub_right _ _ infinite) finite within

end FloatOrder

end QuadraticTrials

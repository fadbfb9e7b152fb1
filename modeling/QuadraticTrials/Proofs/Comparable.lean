import Mathlib
import QuadraticTrials.InteriorPoint.Run
import QuadraticTrials.Proofs.Exact.Scalar

/-!
What the safeguards of a step rely on in a number type: which values are related to themselves, and
that two such values compare. Ordered fields and machine floats both provide it.
-/

namespace QuadraticTrials

/-- Values related to themselves compare with one another; the others spoil every product and
difference that they enter and are on no side of a comparison.
-/
class Scalar.Comparable (K : Type) [Scalar K] : Prop where
  related_of_le {a b : K} : a ≤ b → b ≤ b
  le_of_not_lt {a b : K} : a ≤ a → b ≤ b → ¬a < b → b ≤ a
  related_of_mul_left {a b : K} : a * b ≤ a * b → a ≤ a
  related_of_mul_right {a b : K} : a * b ≤ a * b → b ≤ b
  related_of_sub_right {a b : K} : a - b ≤ a - b → b ≤ b
  minStep_related : (Program.minStep : K) ≤ Program.minStep

/-- Every value of an ordered field is related to itself. -/
instance Scalar.comparable_exact {K : Type} [Field K] [LinearOrder K] : Scalar.Comparable K where
  related_of_le _ := le_rfl
  le_of_not_lt _ _ := le_of_not_gt
  related_of_mul_left _ := le_rfl
  related_of_mul_right _ := le_rfl
  related_of_sub_right _ := le_rfl
  minStep_related := le_rfl

namespace FloatOrder

open Float.Model

-----------------------------------------------------------------------------------------
-- Unpacked floats
-----------------------------------------------------------------------------------------

/-- Two floats compare unless one is undefined, by cases on their kinds. -/
theorem compare_isSome (a b : UnpackedFloat)
    : (a.compare b).isSome ↔ a ≠ .notANumber ∧ b ≠ .notANumber := by
  cases a with
  | notANumber => simp [UnpackedFloat.compare]
  | infinity s => cases b <;> cases s <;> simp [UnpackedFloat.compare]
  | zero s =>
      cases b with
      | infinity t => cases t <;> simp [UnpackedFloat.compare]
      | finite t => cases t <;> simp [UnpackedFloat.compare]
      | _ => simp [UnpackedFloat.compare]
  | finite s =>
      cases b with
      | infinity t => cases t <;> simp [UnpackedFloat.compare]
      | finite t => cases s <;> cases t <;> simp [UnpackedFloat.compare]
      | _ => cases s <;> simp [UnpackedFloat.compare]

/-- Comparison in the other order has the other outcome, by cases on both kinds and signs. -/
theorem compare_swap (a b : UnpackedFloat)
    : b.compare a = (a.compare b).map Ordering.swap := by
  -- Only two finite floats compare by size, all other pairs by kind and sign.
  have mantissas (e₁ e₂ : Int) (m₁ m₂ : Nat)
      : (compare e₂ e₁).then (compare m₂ m₁)
        = ((compare e₁ e₂).then (compare m₁ m₂)).swap := by
    rw [Ordering.swap_then, ← Std.OrientedCmp.eq_swap, ← Std.OrientedCmp.eq_swap]
  cases a with
  | notANumber => cases b <;> rfl
  | infinity s =>
      cases b with
      | infinity t => cases s <;> cases t <;> rfl
      | _ => cases s <;> rfl
  | zero s =>
      cases b with
      | infinity t => cases t <;> rfl
      | finite t => cases t <;> rfl
      | _ => rfl
  | finite s m₁ e₁ =>
      cases b with
      | infinity t => cases t <;> rfl
      | finite t m₂ e₂ =>
          cases s <;> cases t <;> try rfl
          · exact congrArg some (congrArg Ordering.swap (mantissas e₁ e₂ m₁ m₂))
          · exact congrArg some (mantissas e₁ e₂ m₁ m₂)
      | _ => cases s <;> rfl

/-- An undefined first factor makes a product undefined. -/
theorem notANumber_mul (spec : Format) (b : UnpackedFloat)
    : UnpackedFloat.mul spec .notANumber b = .notANumber := by
  cases b <;> rfl

/-- An undefined second factor makes a product undefined. -/
theorem mul_notANumber (spec : Format) (a : UnpackedFloat)
    : UnpackedFloat.mul spec a .notANumber = .notANumber := by
  cases a <;> rfl

/-- An undefined subtrahend makes a difference undefined. -/
theorem sub_notANumber (spec : Format) (a : UnpackedFloat)
    : UnpackedFloat.sub spec a .notANumber = .notANumber := by
  cases a <;> rfl

-----------------------------------------------------------------------------------------
-- Machine floats
-----------------------------------------------------------------------------------------

/-- A float is no number. -/
def Undefined (a : Float) : Prop :=
  a.toModel.unpack = .notANumber

theorem le_iff (a b : Float)
    : a ≤ b ↔ (a.toModel.unpack.compare b.toModel.unpack).any (·.isLE) :=
  decide_eq_true_iff

theorem lt_iff (a b : Float)
    : a < b ↔ a.toModel.unpack.compare b.toModel.unpack = some .lt :=
  decide_eq_true_iff.trans beq_iff_eq

/-- Both sides of a comparison that holds are numbers. -/
theorem defined_of_le {a b : Float} (le : a ≤ b) : ¬Undefined a ∧ ¬Undefined b :=
  (compare_isSome _ _).mp (Option.isSome_of_any ((le_iff a b).mp le))

/-- One of two numbers is below or equal to the other, since they compare one way or the other. -/
theorem le_of_not_lt {a b : Float} (left : ¬Undefined a) (right : ¬Undefined b)
    (notLess : ¬a < b)
    : b ≤ a := by
  obtain ⟨order, found⟩ := Option.isSome_iff_exists.mp ((compare_isSome _ _).mpr ⟨left, right⟩)
  rw [lt_iff, found, Option.some.injEq] at notLess
  rw [le_iff, compare_swap, found]
  simpa using Ordering.ne_lt_iff_isGE.mp notLess

/-- A number is related to itself, since equal sides compare the same way in either order. -/
theorem le_self_iff (a : Float) : a ≤ a ↔ ¬Undefined a := by
  refine ⟨fun le => (defined_of_le le).1, fun defined => ?_⟩
  refine le_of_not_lt defined defined fun less => ?_
  -- An outcome "less" would be its own mirror image.
  have swapped := compare_swap a.toModel.unpack a.toModel.unpack
  rw [(lt_iff a a).mp less] at swapped
  cases swapped

/-- A float that repacks an undefined result is undefined, by unpacking the one word for it. -/
theorem undefined_of_repacked {a : Float} {result : UnpackedFloat}
    (repacked : a.toModel = .pack result) (undefined : result = .notANumber)
    : Undefined a := by
  rw [Undefined, repacked, undefined]
  rfl

theorem undefined_mul_left {a : Float} (undefined : Undefined a) (b : Float)
    : Undefined (a * b) := by
  refine undefined_of_repacked rfl ?_
  rw [show a.toModel.unpack = .notANumber from undefined, notANumber_mul]

theorem undefined_mul_right (a : Float) {b : Float} (undefined : Undefined b)
    : Undefined (a * b) := by
  refine undefined_of_repacked rfl ?_
  rw [show b.toModel.unpack = .notANumber from undefined, mul_notANumber]

theorem undefined_sub_right (a : Float) {b : Float} (undefined : Undefined b)
    : Undefined (a - b) := by
  refine undefined_of_repacked rfl ?_
  rw [show b.toModel.unpack = .notANumber from undefined, sub_notANumber]

/-- Machine floats that are numbers compare, and products and differences of undefined floats are
undefined.
-/
instance : Scalar.Comparable Float where
  related_of_le le := (le_self_iff _).mpr (defined_of_le le).2
  le_of_not_lt left right := le_of_not_lt ((le_self_iff _).mp left) ((le_self_iff _).mp right)
  related_of_mul_left {a b} product := by
    rw [le_self_iff] at product ⊢
    exact fun undefined => product (undefined_mul_left undefined b)
  related_of_mul_right {a b} product := by
    rw [le_self_iff] at product ⊢
    exact fun undefined => product (undefined_mul_right a undefined)
  related_of_sub_right {a b} difference := by
    rw [le_self_iff] at difference ⊢
    exact fun undefined => difference (undefined_sub_right a undefined)
  minStep_related := by decide +kernel

end FloatOrder

end QuadraticTrials

import Mathlib
import QuadraticTrials.Proofs.Exact.Scalar

/-!
The distance of two values is the same from either side. An ordered field has this by algebra; on
machine floats the two differences differ at most in their sign, which no rounding looks at.
-/

namespace QuadraticTrials

/-- The magnitude of a difference does not depend on its direction. -/
class Scalar.Symmetric (K : Type) [Scalar K] : Prop where
  abs_sub_comm (a b : K) : Scalar.abs (a - b) = Scalar.abs (b - a)

instance Scalar.symmetric_exact {K : Type} [Field K] [LinearOrder K] [IsStrictOrderedRing K]
    : Scalar.Symmetric K where
  abs_sub_comm := abs_sub_comm

namespace FloatOrder

open Float.Model

-----------------------------------------------------------------------------------------
-- Unpacked floats
-----------------------------------------------------------------------------------------

/-- Rounding does not look at the sign. -/
theorem abs_round (spec : Format) (s : UnpackedFloat.Sign) (m : Nat) (e : Int)
    : (UnpackedFloat.round spec s m e).abs = (UnpackedFloat.round spec .positive m e).abs := by
  simp only [UnpackedFloat.round, UnpackedFloat.roundWithAccuracy]
  split <;> rfl

/-- A whole number and its negative normalize to the same magnitude, by cases on its sign. -/
theorem abs_normalize_neg (spec : Format) (i e : Int) (s : UnpackedFloat.Sign)
    : (UnpackedFloat.normalize spec (-i) e s).abs = (UnpackedFloat.normalize spec i e s).abs := by
  rcases lt_trichotomy i 0 with negative | rfl | positive
  · have order : compare i 0 = .lt := compare_lt_iff_lt.mpr negative
    have order' : compare (-i) 0 = .gt := compare_gt_iff_gt.mpr (neg_pos.mpr negative)
    simp only [UnpackedFloat.normalize, order, order']
    exact (abs_round spec .negative _ e).symm
  · rfl
  · have order : compare i 0 = .gt := compare_gt_iff_gt.mpr positive
    have order' : compare (-i) 0 = .lt := compare_lt_iff_lt.mpr (neg_lt_zero.mpr positive)
    simp only [UnpackedFloat.normalize, order, order', neg_neg]
    exact abs_round spec .negative _ e

/-- The two differences of unpacked floats have the same magnitude, by cases on both kinds. -/
theorem abs_sub_comm (spec : Format) (a b : UnpackedFloat)
    : (UnpackedFloat.sub spec a b).abs = (UnpackedFloat.sub spec b a).abs := by
  cases a with
  | notANumber => cases b <;> rfl
  | infinity s =>
      cases b with
      | infinity t => cases s <;> cases t <;> rfl
      | _ => rfl
  | zero s =>
      cases b with
      | zero t => cases s <;> cases t <;> rfl
      | _ => rfl
  | finite s m₁ e₁ =>
      cases b with
      | finite t m₂ e₂ =>
          simp only [UnpackedFloat.sub, min_comm e₁ e₂]
          rw [← neg_sub, abs_normalize_neg]
      | _ => rfl

/-- A finite float is stored with its sign in one bit, on which the other bits do not depend. -/
theorem exists_packComponents (m : Nat) (e : Int) (positive : 0 < m)
    : ∃ exponent mantissa, ∀ s,
        UnpackedFloat.pack .binary64 (.finite s m e positive)
          = UnpackedFloat.packComponents .binary64 s exponent mantissa := by
  simp only [UnpackedFloat.pack]
  split
  · exact ⟨_, _, fun s => rfl⟩
  split
  · exact ⟨_, _, fun s => rfl⟩
  · exact ⟨_, _, fun s => rfl⟩

/-- A stored float without its sign is what the float without its sign is stored as. -/
theorem abs_unpack_pack (a : UnpackedFloat)
    : (Float.Model.pack a).unpack.abs = (Float.Model.pack a.abs).unpack := by
  have components (s : UnpackedFloat.Sign) (exponent : BitVec 11) (mantissa : BitVec 52)
      : (UnpackedFloat.unpack .binary64
            (UnpackedFloat.packComponents .binary64 s exponent mantissa)).abs
        = UnpackedFloat.unpack .binary64
            (UnpackedFloat.packComponents .binary64 .positive exponent mantissa) := by
    simp only [UnpackedFloat.unpack, UnpackedFloat.unpackExponent_packComponents,
      UnpackedFloat.unpackMantissa_packComponents, UnpackedFloat.unpackSign_packComponents,
      UnpackedFloat.Sign.ofBitVec_toBitVec]
    split
    · split <;> rfl
    split
    · split <;> rfl
    · rfl
  cases a with
  | notANumber => rfl
  | infinity s => exact components s _ _
  | zero s => exact components s _ _
  | finite s m e positive =>
      obtain ⟨exponent, mantissa, packed⟩ := exists_packComponents m e positive
      have stored (t : UnpackedFloat.Sign) : (Float.Model.pack (.finite t m e positive)).unpack
          = UnpackedFloat.unpack .binary64
              (UnpackedFloat.packComponents .binary64 t exponent mantissa) := by
        rw [← packed]
        rfl
      rw [stored, components, UnpackedFloat.abs, stored]

-----------------------------------------------------------------------------------------
-- Machine floats
-----------------------------------------------------------------------------------------

instance : Scalar.Symmetric Float where
  abs_sub_comm a b := by
    have stored (a b : Float) : Scalar.abs (a - b)
        = ⟨.pack (Float.Model.pack (UnpackedFloat.sub .binary64 a.toModel.unpack
            b.toModel.unpack)).unpack.abs⟩ := rfl
    rw [stored, stored, abs_unpack_pack, abs_unpack_pack, abs_sub_comm]

end FloatOrder

end QuadraticTrials

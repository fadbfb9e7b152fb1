import Mathlib
import QuadraticTrials.Proofs.Json.Numbers

/-!
The literals of floats. Exactly the finite floats have one, and it always shows a point or an
exponent, so that it is never taken for a whole number.
-/

namespace QuadraticTrials

-----------------------------------------------------------------------------------------
-- Floats with a literal
-----------------------------------------------------------------------------------------

/-- The exponent field of a float as a number. -/
theorem toNat_unpackExponent (x : Float)
    : (@Float.Model.UnpackedFloat.unpackExponent .binary64 x.toBits.toBitVec).toNat
      = x.toBits.toNat / 2 ^ 52 % 2 ^ 11 := by
  rw [Float.Model.UnpackedFloat.unpackExponent, BitVec.toNat_cast, BitVec.extractLsb,
    BitVec.extractLsb'_toNat, Nat.shiftRight_eq_div_pow]
  rfl

/-- A float is finite unless all bits of its exponent are set, by cases on its fields. -/
theorem isFinite_iff_exponent (x : Float)
    : x.isFinite = true ↔ x.toBits.toNat / 2 ^ 52 % 2 ^ 11 ≠ 2047 := by
  have field := toNat_unpackExponent x
  change (Float.Model.UnpackedFloat.unpack .binary64 x.toBits.toBitVec).isFinite = true ↔ _
  rw [← field]
  unfold Float.Model.UnpackedFloat.unpack
  dsimp only
  split
  case isTrue full =>
    rw [full]
    split <;> simp [Float.Model.UnpackedFloat.isFinite]
  case isFalse partly =>
    have other : (@Float.Model.UnpackedFloat.unpackExponent .binary64 x.toBits.toBitVec).toNat
        ≠ 2047 := fun same => partly (BitVec.eq_of_toNat_eq same)
    refine ⟨fun _ => other, fun _ => ?_⟩
    split
    · split <;> rfl
    · rfl

/-- A float has a stored form exactly if it is finite. -/
theorem Binary.isSome_ofFloat? (x : Float) : (ofFloat? x).isSome = x.isFinite := by
  rw [Bool.eq_iff_iff, isFinite_iff_exponent]
  simp only [ofFloat?, Nat.pow_eq, beq_iff_eq]
  split
  case isTrue full => simp [full]
  case isFalse partly =>
    refine ⟨fun _ => partly, fun _ => ?_⟩
    split <;> rfl

namespace Literal

/-- A float has a literal exactly if it is finite. -/
theorem isSome_ofFloat? (x : Float) : (ofFloat? x).isSome = x.isFinite := by
  rw [ofFloat?, Option.isSome_map, Binary.isSome_ofFloat?]

-----------------------------------------------------------------------------------------
-- Points and exponents
-----------------------------------------------------------------------------------------

/-- A digit is kept when all digits stand after the point. -/
theorem split_zero_ne_nil {digits : List Char} {c : Char} (member : c ∈ digits)
    (digit : c.isDigit)
    : (split 0 digits).2 ≠ [] := by
  obtain ⟨d, read, -⟩ := digit?_of_isDigit digit
  have kept : d ∈ (split 0 digits).2 := by
    simp only [split, Nat.zero_sub, List.replicate_zero, List.append_nil, List.drop_zero]
    exact List.mem_filterMap.mpr ⟨c, member, read⟩
  exact List.ne_nil_of_mem kept

/-- A decimal has an exponent, or digits after its point, by cases on its leading exponent. -/
theorem isWhole_ofDecimal (negative : Bool) (d : Decimal)
    : (ofDecimal negative d).isWhole = false := by
  unfold ofDecimal
  dsimp only
  split
  case isTrue => simp [isWhole]
  case isFalse =>
    split
    case isTrue low =>
      obtain ⟨c, member⟩ := List.exists_mem_of_ne_nil d.digitChars Nat.toDigits_ne_nil
      have kept := split_zero_ne_nil
        (List.mem_append_right (List.replicate (-d.leadingExponent - 1).toNat '0') member)
        (Nat.isDigit_of_mem_toDigits (by decide) (by decide) member)
      rw [isWhole, Bool.and_eq_false_iff, List.isEmpty_eq_false_iff]
      exact .inl kept
    case isFalse high =>
      rw [isWhole, Bool.and_eq_false_iff, List.isEmpty_eq_false_iff]
      refine .inl ?_
      split
      · exact List.cons_ne_nil _ _
      · rename_i some_left
        exact fun none => some_left (List.isEmpty_iff.mpr none)

theorem isWhole_of_ofFloat? {x : Float} {l : Literal} (written : ofFloat? x = some l)
    : l.isWhole = false := by
  obtain ⟨b, -, rfl⟩ := Option.map_eq_some_iff.mp written
  cases Decimal.shortest? .toEven b with
  | none => rfl
  | some d => exact isWhole_ofDecimal b.negative d

end Literal

end QuadraticTrials

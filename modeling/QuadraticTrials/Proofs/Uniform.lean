import Mathlib
import QuadraticTrials.Generator
import QuadraticTrials.Proofs.Exact.Scalar
import QuadraticTrials.Proofs.Ordered

/-!
Uniform values lie between zero and one on every number type that divides whole numbers below
`2 ^ 53` by `2 ^ 53` to fractions: ordered fields do, and so do machine floats, on which each of
these divisions is exact.
-/

namespace QuadraticTrials

/-- A whole number below `2 ^ 53` over `2 ^ 53` is not negative, and less than one. -/
class Scalar.Fractional (K : Type) [Scalar K] : Prop where
  not_ratio_lt_zero {n : Nat} : n < 2 ^ 53 → ¬(Scalar.ratio n (2 ^ 53) : K) < 0
  ratio_lt_one {n : Nat} : n < 2 ^ 53 → (Scalar.ratio n (2 ^ 53) : K) < 1
  not_one_lt_zero : ¬(1 : K) < 0

/-- Fractions of an ordered field are where they should be. -/
instance Scalar.fractional_exact {K : Type} [Field K] [LinearOrder K] [IsStrictOrderedRing K]
    : Scalar.Fractional K where
  not_ratio_lt_zero {n} _ := by
    rw [Scalar.ratio_eq_div, not_lt]
    positivity
  ratio_lt_one {n} small := by
    rw [Scalar.ratio_eq_div, div_lt_one (by positivity)]
    exact_mod_cast small
  not_one_lt_zero := not_lt.mpr zero_le_one

namespace FloatOrder

open Float.Model

-----------------------------------------------------------------------------------------
-- Normal floats
-----------------------------------------------------------------------------------------

/-- A mantissa of full width at an exponent in range: what a normal float stores. -/
structure Normal (m : Nat) (e : Int) : Prop where
  low : 2 ^ 52 ≤ m
  high : m < 2 ^ 53
  minExponent : -1074 ≤ e
  maxExponent : e ≤ 971

variable {m : Nat} {e : Int}

theorem Normal.pos (normal : Normal m e) : 0 < m :=
  Nat.lt_of_lt_of_le (by decide) normal.low

theorem Normal.log2_mul_two_pow (normal : Normal m e) (k : Nat) : (m * 2 ^ k).log2 = 52 + k := by
  have positive := normal.pos
  refine (Nat.log2_eq_iff (by positivity)).mpr ⟨?_, ?_⟩
  · rw [pow_add]
    exact Nat.mul_le_mul_right _ normal.low
  · rw [show 52 + k + 1 = 53 + k by omega, pow_add]
    exact Nat.mul_lt_mul_of_pos_right normal.high (by positivity)

/-- Shifting out zeros loses nothing, by induction on their number. -/
theorem repeat_shiftRightOne (m k : Nat)
    : Nat.repeat UnpackedFloat.ExtendedMantissa.shiftRightOne k ⟨m * 2 ^ k, false, false⟩
      = ⟨m, false, false⟩ := by
  induction k generalizing m with
  | zero => simp [Nat.repeat]
  | succ k ih =>
      rw [Nat.repeat, show m * 2 ^ (k + 1) = m * 2 * 2 ^ k by ring, ih]
      simp [UnpackedFloat.ExtendedMantissa.shiftRightOne]

/-- A normal mantissa with zeros appended shifts to itself. -/
theorem shiftToTargetExponent_normal (normal : Normal m e) (k : Nat)
    : UnpackedFloat.shiftToTargetExponent .binary64 (m * 2 ^ k) (e - k) .exact
      = (⟨m, false, false⟩, e) := by
  have target : Format.binary64.targetExponent (totalExponent (m * 2 ^ k) (e - k)) = e := by
    have range := normal.minExponent
    simp only [Format.targetExponent, totalExponent, normal.log2_mul_two_pow, Format.mantissaBits,
      Format.minExponent]
    push_cast
    omega
  have shift : (e - (e - k)).toNat = k := by omega
  rw [UnpackedFloat.shiftToTargetExponent, target, UnpackedFloat.shiftToExponent, shift]
  exact Prod.ext (repeat_shiftRightOne m k) (sub_add_cancel e (k : Int))

/-- Rounding a normal mantissa with zeros appended is exact. -/
theorem roundWithAccuracy_normal (s : UnpackedFloat.Sign) (normal : Normal m e) (k : Nat)
    : UnpackedFloat.roundWithAccuracy .binary64 s (m * 2 ^ k) (e - k) .exact
      = .finite s m e normal.pos := by
  have rounded
      : (⟨m, false, false⟩ : UnpackedFloat.ExtendedMantissa).roundedMantissa = m := rfl
  have again := shiftToTargetExponent_normal normal 0
  rw [pow_zero, mul_one, Nat.cast_zero, sub_zero] at again
  simp only [UnpackedFloat.roundWithAccuracy, shiftToTargetExponent_normal normal k, rounded, again,
    dif_neg normal.pos.ne']

/-- The bits of a normal mantissa below its leading one, with that bit put back. -/
theorem toNat_append_normal (normal : Normal m e) : (1#1 ++ BitVec.ofNat 52 m).toNat = m := by
  have low := normal.low
  have high := normal.high
  rw [BitVec.toNat_append, ← Nat.shiftLeft_add_eq_or_of_lt (BitVec.ofNat 52 m).isLt,
    BitVec.toNat_ofNat, Nat.shiftLeft_eq]
  simp only [BitVec.toNat_ofNat]
  omega

/-- A normal float is stored exactly. -/
theorem unpack_pack_normal (s : UnpackedFloat.Sign) (normal : Normal m e)
    : (Float.Model.pack (.finite s m e normal.pos)).unpack = .finite s m e normal.pos := by
  have low := normal.minExponent
  have high := normal.maxExponent
  have width : m.log2 = 52 := by simpa using normal.log2_mul_two_pow 0
  obtain ⟨biased, stored⟩ : ∃ biased : Nat, (biased : Int) = e + 1023 + 52 :=
    ⟨(e + 1023 + 52).toNat, by omega⟩
  have field : (BitVec.ofNat 11 biased).toNat = biased := by
    rw [BitVec.toNat_ofNat]
    exact Nat.mod_eq_of_lt (by omega)
  have packed : UnpackedFloat.pack .binary64 (.finite s m e normal.pos)
      = UnpackedFloat.packComponents .binary64 s (BitVec.ofNat 11 biased) (BitVec.ofNat 52 m) := by
    have exponent : (e + (Format.binary64.exponentBias : Int) + (52 : Nat)).toNat = biased := by
      rw [show (Format.binary64.exponentBias : Int) = 1023 from rfl]
      omega
    simp only [UnpackedFloat.pack, exponent, width]
    rw [if_neg (by omega)]
    exact if_pos rfl
  have below : BitVec.ofNat 11 biased ≠ -1#11 := by
    intro same
    rw [← BitVec.toNat_inj, field] at same
    change biased = 2047 at same
    omega
  have above : BitVec.ofNat 11 biased ≠ 0#11 := by
    intro same
    rw [← BitVec.toNat_inj, field] at same
    change biased = 0 at same
    omega
  rw [Float.Model.pack, Float.Model.unpack, UInt64.toBitVec_ofBitVec, packed]
  simp only [UnpackedFloat.unpack, UnpackedFloat.unpackExponent_packComponents,
    UnpackedFloat.unpackSign_packComponents, UnpackedFloat.unpackMantissa_packComponents,
    if_neg below, if_neg above, field, UnpackedFloat.Sign.ofBitVec_toBitVec,
    toNat_append_normal normal]
  congr 1
  rw [show (Format.binary64.exponentBias : Int) = 1023 from rfl]
  omega

-----------------------------------------------------------------------------------------
-- Whole numbers
-----------------------------------------------------------------------------------------

/-- A whole number below `2 ^ 53` shifted to a mantissa of full width. -/
def fullWidth (n : Nat) : Nat :=
  n * 2 ^ (52 - n.log2)

variable {n : Nat}

/-- A whole number of at most 53 bits is a normal float. -/
theorem normal_fullWidth (positive : 0 < n) (small : n < 2 ^ 53)
    : Normal (fullWidth n) (n.log2 - 52) := by
  have width : n.log2 < 53 := (Nat.log2_lt positive.ne').mpr small
  have low := Nat.log2_self_le positive.ne'
  have high : n < 2 ^ (n.log2 + 1) := (Nat.log2_lt positive.ne').mp (Nat.lt_succ_self _)
  have split : 2 ^ 52 = 2 ^ n.log2 * 2 ^ (52 - n.log2) := by rw [← pow_add]; congr 1; omega
  refine ⟨?_, ?_, by omega, by omega⟩
  · rw [split]
    exact Nat.mul_le_mul_right _ low
  · calc
      n * 2 ^ (52 - n.log2) < 2 ^ (n.log2 + 1) * 2 ^ (52 - n.log2) :=
        Nat.mul_lt_mul_of_pos_right high (by positivity)
      _ = 2 ^ 53 := by rw [← pow_add]; congr 1; omega

/-- A whole number below `2 ^ 53` rounds to itself. -/
theorem round_natCast (positive : 0 < n) (small : n < 2 ^ 53)
    : UnpackedFloat.round .binary64 .positive n 0
      = .finite .positive (fullWidth n) (n.log2 - 52) (normal_fullWidth positive small).pos := by
  have width : n.log2 < 53 := (Nat.log2_lt positive.ne').mpr small
  have target : Format.binary64.targetExponent (totalExponent n 0) = n.log2 - 52 := by
    simp only [Format.targetExponent, totalExponent, Format.mantissaBits, Format.minExponent]
    push_cast
    omega
  have shift : (0 - ((n.log2 : Int) - 52)).toNat = 52 - n.log2 := by omega
  have exponent : (0 : Int) - (52 - n.log2 : Nat) = n.log2 - 52 := by omega
  have rounded := roundWithAccuracy_normal .positive (normal_fullWidth positive small) 0
  rw [pow_zero, mul_one, Nat.cast_zero, sub_zero] at rounded
  simp only [UnpackedFloat.round, target, UnpackedFloat.decreaseExponent, shift, exponent,
    Nat.shiftLeft_eq]
  exact rounded

/-- A machine word below `2 ^ 53` converts exactly. -/
theorem unpack_toFloat (positive : 0 < n) (small : n < 2 ^ 53)
    : n.toUInt64.toFloat.toModel.unpack
      = .finite .positive (fullWidth n) (n.log2 - 52) (normal_fullWidth positive small).pos := by
  have word : n.toUInt64.toNat = n := by
    rw [Nat.toUInt64, UInt64.toNat_ofNat']
    exact Nat.mod_eq_of_lt (by omega)
  have order : compare (n : Int) 0 = .gt := Int.compare_eq_gt.mpr (by omega)
  rw [UInt64.toFloat, Float.Model.ofUInt64, UnpackedFloat.ofUInt64, word, UnpackedFloat.ofNat,
    UnpackedFloat.ofInt, UnpackedFloat.normalize, order]
  simp only [Int.toNat_natCast, round_natCast positive small]
  exact unpack_pack_normal _ (normal_fullWidth positive small)

/-- A whole number below `2 ^ 53` is a float: it is converted as a word, and multiplied by one. -/
theorem unpack_ofNat (positive : 0 < n) (small : n < 2 ^ 53)
    : (Float.ofNat n).toModel.unpack
      = .finite .positive (fullWidth n) (n.log2 - 52) (normal_fullWidth positive small).pos := by
  have normal := normal_fullWidth positive small
  have power : (Float.exactlyRepresentablePowersOfTen[0]).toModel.unpack
      = .finite .positive (2 ^ 52) (-52) (by decide) := by
    rfl
  have product : UnpackedFloat.mul .binary64 n.toUInt64.toFloat.toModel.unpack
      (Float.exactlyRepresentablePowersOfTen[0]).toModel.unpack
      = .finite .positive (fullWidth n) (n.log2 - 52) normal.pos := by
    rw [unpack_toFloat positive small, power]
    exact roundWithAccuracy_normal .positive normal 52
  have converted : Float.ofNat n
      = n.toUInt64.toFloat * Float.exactlyRepresentablePowersOfTen[0] := by
    rw [Float.ofNat]
    change Float.ofScientific n false 0 = _
    rw [Float.ofScientific, dif_pos ⟨small, by decide⟩]
    rfl
  rw [converted]
  change (Float.Model.pack (UnpackedFloat.mul .binary64 _ _)).unpack = _
  rw [product]
  exact unpack_pack_normal _ normal

/-- The denominator of uniform values is a float. -/
theorem unpack_denominator
    : (Float.ofNat (2 ^ 53)).toModel.unpack = .finite .positive (2 ^ 52) 1 (by decide) := by
  have normal : Normal (2 ^ 52) 1 := ⟨by decide, by decide, by decide, by decide⟩
  have converted : (Float.ofNat (2 ^ 53)).toModel
      = .pack (UnpackedFloat.ofScientific .binary64 (2 ^ 53) 0) := by
    rw [Float.ofNat]
    change (Float.ofScientific (2 ^ 53) false 0).toModel = _
    rw [Float.ofScientific, dif_neg (by decide)]
    rfl
  have rounded : UnpackedFloat.ofScientific .binary64 (2 ^ 53) 0
      = .finite .positive (2 ^ 52) 1 normal.pos :=
    roundWithAccuracy_normal .positive normal 54
  rw [converted, rounded]
  exact unpack_pack_normal _ normal

-----------------------------------------------------------------------------------------
-- Fractions
-----------------------------------------------------------------------------------------

/-- The quotient by `2 ^ 53` has one more zero bit than the numerator, and no remainder. -/
theorem divCore_denominator (normal : Normal m e) (large : -1020 ≤ e)
    : UnpackedFloat.divCore .binary64 m e (2 ^ 52) 1
      = (m * 2 ^ 1, e - 53 - (1 : Nat), .exact) := by
  have width : m.log2 = 52 := by simpa using normal.log2_mul_two_pow 0
  have target : min (e - 1)
      (Format.binary64.targetExponent (totalExponent m e - totalExponent (2 ^ 52) 1)) = e - 54 := by
    simp only [Format.targetExponent, totalExponent, width, Nat.log2_two_pow, Format.mantissaBits,
      Format.minExponent]
    push_cast
    omega
  have shift : (e - 1 - (e - 54)).toNat = 53 := by omega
  have shifted : m <<< 53 = m * 2 ^ 1 * 2 ^ 52 := by rw [Nat.shiftLeft_eq]; ring
  simp only [UnpackedFloat.divCore, target, shift, shifted, Nat.mul_mod_left,
    UnpackedFloat.accuracyOfFraction, if_true]
  refine Prod.ext (Nat.mul_div_cancel _ (by decide)) (Prod.ext ?_ rfl)
  push_cast
  omega

/-- A whole number below `2 ^ 53` over `2 ^ 53` is the same mantissa at a lower exponent. -/
theorem unpack_ratio (positive : 0 < n) (small : n < 2 ^ 53)
    : (Scalar.ratio n (2 ^ 53) : Float).toModel.unpack
      = .finite .positive (fullWidth n) (n.log2 - 52 - 53)
          (normal_fullWidth positive small).pos := by
  have numerator := normal_fullWidth positive small
  have normal : Normal (fullWidth n) (n.log2 - 52 - 53) :=
    ⟨numerator.low, numerator.high, by omega, by have := numerator.maxExponent; omega⟩
  have quotient : UnpackedFloat.div .binary64 (Float.ofNat n).toModel.unpack
      (Float.ofNat (2 ^ 53)).toModel.unpack
      = .finite .positive (fullWidth n) (n.log2 - 52 - 53) normal.pos := by
    rw [unpack_ofNat positive small, unpack_denominator, UnpackedFloat.div,
      divCore_denominator numerator (by omega)]
    exact roundWithAccuracy_normal .positive normal 1
  change (Float.Model.pack (UnpackedFloat.div .binary64 (Float.ofNat n).toModel.unpack
    (Float.ofNat (2 ^ 53)).toModel.unpack)).unpack = _
  rw [quotient]
  exact unpack_pack_normal _ normal

/-- A fraction below one has a smaller exponent than one. -/
theorem ratio_lt_one (small : n < 2 ^ 53) : (Scalar.ratio n (2 ^ 53) : Float) < 1 := by
  rcases n.eq_zero_or_pos with rfl | positive
  · decide +kernel
  have width : n.log2 < 53 := (Nat.log2_lt positive.ne').mpr small
  have one : (1 : Float).toModel.unpack
      = .finite .positive (fullWidth 1) ((1 : Nat).log2 - 52)
          (normal_fullWidth (by decide) (by decide)).pos :=
    unpack_ofNat (by decide) (by decide)
  have exponents : compare ((n.log2 : Int) - 52 - 53) ((1 : Nat).log2 - 52) = .lt := by
    refine compare_lt_iff_lt.mpr ?_
    rw [show (1 : Nat).log2 = 0 by decide]
    omega
  rw [lt_iff, unpack_ratio positive small, one, UnpackedFloat.compare, exponents]
  rfl

/-- A fraction is zero or has a positive sign. -/
theorem not_ratio_lt_zero (small : n < 2 ^ 53) : ¬(Scalar.ratio n (2 ^ 53) : Float) < 0 := by
  rcases n.eq_zero_or_pos with rfl | positive
  · decide +kernel
  have zero : (0 : Float).toModel.unpack = .zero .positive := rfl
  rw [lt_iff, unpack_ratio positive small, zero]
  exact fun less => by cases less

instance : Scalar.Fractional Float where
  not_ratio_lt_zero := not_ratio_lt_zero
  ratio_lt_one := ratio_lt_one
  not_one_lt_zero := by decide +kernel

end FloatOrder

-----------------------------------------------------------------------------------------
-- Uniform values
-----------------------------------------------------------------------------------------

namespace Generator

/-- The top bits of a word are a whole number below `2 ^ 53`. -/
theorem toNat_topBits_lt (word : UInt64) : (word >>> 11).toNat < 2 ^ 53 := by
  have bounded := word.toNat_lt
  rw [UInt64.toNat_shiftRight, Nat.shiftRight_eq_div_pow]
  exact Nat.div_lt_of_lt_mul (by simpa using bounded)

variable {K : Type} [Scalar K] [Scalar.Fractional K]

theorem not_uniform_lt_zero (s : Stream) : ¬(uniform s).1 < (0 : K) :=
  Scalar.Fractional.not_ratio_lt_zero (toNat_topBits_lt s.next.1)

theorem uniform_lt_one (s : Stream) : (uniform s).1 < (1 : K) :=
  Scalar.Fractional.ratio_lt_one (toNat_topBits_lt s.next.1)

end Generator

end QuadraticTrials

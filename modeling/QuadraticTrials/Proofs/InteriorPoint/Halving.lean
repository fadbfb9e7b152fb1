import Mathlib
import QuadraticTrials.Proofs.InteriorPoint.StepLength
import QuadraticTrials.Proofs.Uniform

/-!
Halved lengths. From a length of at most one, at most forty-seven halvings lead below the shortest
step. Over an ordered field this is a power of one half; a machine float loses one from its exponent
with every halving, until it is a tiny one or zero.
-/

namespace QuadraticTrials

/-- Quotients of a negative value by zero and halves of lengths are at most one if the lengths are,
and forty-seven halvings of such a length are shorter than the shortest step.
-/
class Scalar.Halving (K : Type) [Scalar K] : Prop extends Scalar.Comparable K where
  related_left {a b : K} : a ≤ b → a ≤ a
  not_le_of_lt {a b : K} : a < b → ¬b ≤ a
  one_related : (1 : K) ≤ 1
  minStep_le_one : (Program.minStep : K) ≤ 1
  div_zero_le_one {a : K} : a < 0 → a / 0 ≤ 1
  half_le_one {a : K} : a ≤ 1 → a * Scalar.ratio 1 2 ≤ 1
  not_minStep_le_halve {a : K} : a ≤ 1 → ¬Program.minStep ≤ Program.halve 47 a

/-- In an ordered field a quotient by zero is zero, and `2 ^ 47` exceeds `10 ^ 14`. -/
instance Scalar.halving_exact {K : Type} [Field K] [LinearOrder K] [IsStrictOrderedRing K]
    : Scalar.Halving K where
  related_left _ := le_rfl
  not_le_of_lt := LT.lt.not_ge
  one_related := le_rfl
  minStep_le_one := by
    rw [Program.minStep_eq]
    norm_num
  div_zero_le_one _ := by
    rw [div_zero]
    exact zero_le_one
  half_le_one {a} le_one := by
    rw [Scalar.ratio_eq_div]
    push_cast
    linarith
  not_minStep_le_halve {a} le_one := by
    rw [not_le]
    calc
      Program.halve 47 a = a * (1 / 2) ^ 47 := Program.halve_eq 47 a
      _ ≤ (1 / 2) ^ 47 := mul_le_of_le_one_left (by positivity) le_one
      _ < Program.minStep := by norm_num [Program.minStep_eq]

namespace FloatOrder

open Float.Model

-----------------------------------------------------------------------------------------
-- Constants
-----------------------------------------------------------------------------------------

theorem unpack_half
    : (Scalar.ratio 1 2 : Float).toModel.unpack = .finite .positive (2 ^ 52) (-53) (by decide) :=
  rfl

theorem unpack_minStep
    : (Program.minStep : Float).toModel.unpack
      = .finite .positive 6338253001141147 (-99) (by decide) :=
  rfl

theorem unpack_one : (1 : Float).toModel.unpack = .finite .positive (2 ^ 52) (-52) (by decide) :=
  rfl

theorem unpack_zero : (0 : Float).toModel.unpack = .zero .positive :=
  rfl

theorem one_defined : ¬Undefined 1 := by
  rw [Undefined, unpack_one]
  exact UnpackedFloat.noConfusion

-----------------------------------------------------------------------------------------
-- Stored floats
-----------------------------------------------------------------------------------------

/-- A stored float has the least exponent or is normal, by its fields. -/
theorem normal_of_unpack {a : Float} {s : UnpackedFloat.Sign} {m : Nat} {e : Int} {positive : 0 < m}
    (stored : a.toModel.unpack = .finite s m e positive)
    : m < 2 ^ 53 ∧ (e = -1074 ∨ Normal m e) := by
  rw [Float.Model.unpack, UnpackedFloat.unpack] at stored
  dsimp only at stored
  split at stored
  · split at stored <;> cases stored
  rename_i notFull
  split at stored
  · rename_i zero
    split at stored
    · cases stored
    · cases stored
      refine ⟨(BitVec.isLt _).trans (by decide), .inl ?_⟩
      rw [zero]
      rfl
  · rename_i nonzero
    cases stored
    generalize @UnpackedFloat.unpackExponent .binary64 a.toModel.toBits.toBitVec = field at *
    generalize @UnpackedFloat.unpackMantissa .binary64 a.toModel.toBits.toBitVec = fraction at *
    have width : (1#1 ++ fraction).toNat = 2 ^ 52 + fraction.toNat := by
      rw [BitVec.toNat_append, ← Nat.shiftLeft_add_eq_or_of_lt fraction.isLt]
      rfl
    have bias : (Format.binary64.exponentBias : Int) = 1023 := rfl
    have low : fraction.toNat < 2 ^ 52 := fraction.isLt
    have high : field.toNat < 2 ^ 11 := field.isLt
    have notFull : field.toNat ≠ 2047 := fun same => notFull (BitVec.eq_of_toNat_eq same)
    have nonzero : field.toNat ≠ 0 := fun same => nonzero (BitVec.eq_of_toNat_eq same)
    rw [width, bias]
    refine ⟨by omega, .inr ⟨by omega, by omega, ?_, ?_⟩⟩ <;> push_cast <;> omega

/-- Zero or a finite float with a given sign, its exponent within a bound. -/
inductive Under (s : UnpackedFloat.Sign) (bound : Int) : UnpackedFloat → Prop
  | zero : Under s bound (.zero s)
  | finite {m : Nat} {e : Int} (positive : 0 < m) (within : e ≤ bound)
    : Under s bound (.finite s m e positive)

namespace Under

variable {s : UnpackedFloat.Sign} {bound bound' : Int} {u : UnpackedFloat}

theorem mono (under : Under s bound u) (le : bound ≤ bound') : Under s bound' u := by
  cases under with
  | zero => exact .zero
  | finite positive within => exact .finite positive (within.trans le)

theorem ne_notANumber (under : Under s bound u) : u ≠ .notANumber := by
  cases under <;> exact UnpackedFloat.noConfusion

/-- A float with a smaller exponent stands before every positive one. -/
theorem rank_lt {exponent mantissa : Int} (under : Under s bound u) (below : bound < exponent)
    : rank u < toLex (1, toLex (exponent, mantissa)) := by
  cases under with
  | zero => simp [rank, Prod.Lex.lt_iff]
  | finite positive within =>
      cases s with
      | positive => simp [rank, Prod.Lex.lt_iff, within.trans_lt below]
      | negative => simp [rank, Prod.Lex.lt_iff]

/-- What is read from fields has the exponent that they store. -/
theorem unpack_packComponents (s : UnpackedFloat.Sign) (field : BitVec 11) (fraction : BitVec 52)
    (notFull : field ≠ -1#11)
    : Under s (max (field.toNat - 1075) (-1074))
        (UnpackedFloat.unpack .binary64
          (UnpackedFloat.packComponents .binary64 s field fraction)) := by
  have bias : (Format.binary64.exponentBias : Int) = 1023 := rfl
  simp only [UnpackedFloat.unpack, UnpackedFloat.unpackExponent_packComponents,
    UnpackedFloat.unpackMantissa_packComponents, UnpackedFloat.unpackSign_packComponents,
    UnpackedFloat.Sign.ofBitVec_toBitVec, if_neg notFull]
  split
  · rename_i zero
    split
    · exact .zero
    · rw [bias, zero]
      exact .finite _ (by simp)
  · rw [bias]
    exact .finite _ (by omega)

/-- A finite float in range is stored with its exponent, or with the least one. -/
theorem unpack_pack_finite (s : UnpackedFloat.Sign) {m : Nat} {e : Int} (positive : 0 < m)
    (inRange : e ≤ 971)
    : Under s (max e (-1074)) (Float.Model.pack (.finite s m e positive)).unpack := by
  have bias : (Format.binary64.exponentBias : Int) = 1023 := rfl
  have field : (BitVec.ofNat 11 (e + 1023 + 52).toNat).toNat = (e + 1023 + 52).toNat := by
    rw [BitVec.toNat_ofNat]
    exact Nat.mod_eq_of_lt (by omega)
  rw [Float.Model.pack, Float.Model.unpack, UInt64.toBitVec_ofBitVec]
  simp only [UnpackedFloat.pack, bias]
  rw [if_neg (by omega)]
  split
  · have notFull : BitVec.ofNat 11 (e + 1023 + 52).toNat ≠ -1#11 := by
      intro same
      rw [← BitVec.toNat_inj, field] at same
      change _ = 2047 at same
      omega
    refine (unpack_packComponents s _ _ notFull).mono ?_
    rw [field]
    omega
  · exact (unpack_packComponents s 0#11 _ (by decide)).mono (by simp)

theorem unpack_pack (under : Under s bound u) (inRange : bound ≤ 971)
    : Under s (max bound (-1074)) (Float.Model.pack u).unpack := by
  cases under with
  | zero =>
      have stored : (Float.Model.pack (.zero s)).unpack = .zero s := by cases s <;> rfl
      rw [stored]
      exact .zero
  | finite positive within =>
      exact (unpack_pack_finite s positive (within.trans inRange)).mono (by omega)

end Under

-----------------------------------------------------------------------------------------
-- Rounding tiny numbers
-----------------------------------------------------------------------------------------

theorem log2_lt {m k : Nat} (some : 0 < k) (small : m < 2 ^ k) : m.log2 < k := by
  rcases m.eq_zero_or_pos with rfl | positive
  · exact some
  · exact (Nat.log2_lt positive.ne').mpr small

/-- The exponent after shifting is the target, or the exponent before if that is larger. -/
theorem snd_shiftToTargetExponent (m : Nat) (e : Int) (accuracy : UnpackedFloat.Accuracy)
    : (UnpackedFloat.shiftToTargetExponent .binary64 m e accuracy).2
      = max e (max (m.log2 + e - 52) (-1074)) := by
  simp only [UnpackedFloat.shiftToTargetExponent, UnpackedFloat.shiftToExponent,
    Format.targetExponent, totalExponent, Format.mantissaBits, Format.minExponent]
  push_cast
  omega

/-- Shifting bits out does not raise a mantissa, by induction on their number. -/
theorem mantissa_repeat_le (extended : UnpackedFloat.ExtendedMantissa) (k : Nat)
    : (Nat.repeat UnpackedFloat.ExtendedMantissa.shiftRightOne k extended).mantissa
      ≤ extended.mantissa := by
  induction k with
  | zero => exact le_rfl
  | succ k ih => exact (Nat.div_le_self _ 2).trans ih

theorem roundToNearestEven_le (m : Nat) (accuracy : UnpackedFloat.Accuracy)
    : UnpackedFloat.Accuracy.roundToNearestEven m accuracy ≤ m + 1 := by
  unfold UnpackedFloat.Accuracy.roundToNearestEven
  split <;> omega

theorem roundedMantissa_le (m : Nat) (e : Int)
    : (UnpackedFloat.shiftToTargetExponent .binary64 m e .exact).1.roundedMantissa ≤ m + 1 :=
  (roundToNearestEven_le _ _).trans (Nat.succ_le_succ (mantissa_repeat_le _ _))

/-- A short mantissa at a tiny exponent rounds to zero or to a tiny float. -/
theorem under_roundWithAccuracy (s : UnpackedFloat.Sign) {m : Nat} {e : Int} (short : m < 2 ^ 106)
    (tiny : e ≤ -1020)
    : Under s (-900) (UnpackedFloat.roundWithAccuracy .binary64 s m e .exact) := by
  unfold UnpackedFloat.roundWithAccuracy
  have rounded := roundedMantissa_le m e
  have exponent := snd_shiftToTargetExponent m e .exact
  -- The mantissa is shifted twice, the second time after it was rounded up.
  generalize UnpackedFloat.shiftToTargetExponent .binary64 m e .exact = first at *
  obtain ⟨extended, e₁⟩ := first
  dsimp only at rounded exponent ⊢
  have exponent' := snd_shiftToTargetExponent extended.roundedMantissa e₁ .exact
  generalize UnpackedFloat.shiftToTargetExponent .binary64 extended.roundedMantissa e₁ .exact
    = second at *
  obtain ⟨shifted, e₂⟩ := second
  dsimp only at exponent' ⊢
  have width : m.log2 < 107 := log2_lt (by decide) (by omega)
  have width' : extended.roundedMantissa.log2 < 107 := log2_lt (by decide) (by omega)
  split
  · exact .zero
  · exact .finite _ (by omega)

-----------------------------------------------------------------------------------------
-- Halves of machine floats
-----------------------------------------------------------------------------------------

theorem unpack_mul (a b : Float)
    : (a * b).toModel.unpack
      = (Float.Model.pack (UnpackedFloat.mul .binary64 a.toModel.unpack b.toModel.unpack)).unpack :=
  rfl

section Half

variable {a : Float} {s : UnpackedFloat.Sign} {m : Nat} {e : Int} {positive : 0 < m}

theorem unpack_mul_half (stored : a.toModel.unpack = .finite s m e positive)
    : (a * Scalar.ratio 1 2).toModel.unpack
      = (Float.Model.pack
          (UnpackedFloat.roundWithAccuracy .binary64 s (m * 2 ^ 52) (e - 53) .exact)).unpack := by
  rw [unpack_mul, stored, unpack_half, UnpackedFloat.mul]
  cases s <;> rfl

/-- A normal float is halved in its exponent, as long as that is not the least one. -/
theorem unpack_mul_half_of_normal (stored : a.toModel.unpack = .finite s m e positive)
    (normal : Normal m e) (above : -1074 < e)
    : (a * Scalar.ratio 1 2).toModel.unpack = .finite s m (e - 1) positive := by
  have high := normal.maxExponent
  have lower : Normal m (e - 1) := ⟨normal.low, normal.high, by omega, by omega⟩
  have rounded := roundWithAccuracy_normal s lower 52
  rw [show e - 1 - (52 : Nat) = e - 53 by omega] at rounded
  rw [unpack_mul_half stored, rounded]
  exact unpack_pack_normal s lower

/-- A float of the least exponent has a tiny half, however it is rounded. -/
theorem under_mul_half (stored : a.toModel.unpack = .finite s m (-1074) positive)
    (short : m < 2 ^ 53)
    : Under s (-900) (a * Scalar.ratio 1 2).toModel.unpack := by
  rw [unpack_mul_half stored]
  exact (under_roundWithAccuracy s (by omega) (by decide)).unpack_pack (by decide)

end Half

/-- A machine float is a number and at most one half to some power. -/
structure AtMost (k : Nat) (a : Float) : Prop where
  defined : ¬Undefined a
  within : place a ≤ toLex (1, toLex (-52 - (k : ℤ), 2 ^ 52))

namespace AtMost

variable {k : Nat} {a : Float}

theorem zero_iff : AtMost 0 a ↔ a ≤ 1 := by
  have one : place 1 = toLex (1, toLex (-52 - ((0 : Nat) : ℤ), 2 ^ 52)) := rfl
  rw [le_iff_place, one]
  exact ⟨fun bounded => ⟨bounded.defined, one_defined, bounded.within⟩,
    fun le => ⟨le.1, le.2.2⟩⟩

theorem of_under {s : UnpackedFloat.Sign} {bound : Int} (under : Under s bound a.toModel.unpack)
    (below : bound < -52 - k)
    : AtMost k a :=
  ⟨under.ne_notANumber, (under.rank_lt below).le⟩

/-- A float before zero is within every bound. -/
theorem of_infinity (stored : a.toModel.unpack = .infinity .negative) : AtMost k a := by
  constructor
  · rw [Undefined, stored]
    exact UnpackedFloat.noConfusion
  · rw [place, stored]
    simp [rank, Prod.Lex.le_iff]

theorem le_one (bounded : AtMost k a) : a ≤ 1 := by
  refine zero_iff.mp ⟨bounded.defined, bounded.within.trans ?_⟩
  simp [Prod.Lex.le_iff]
  omega

/-- Halving adds one to the power, by cases on the kind of the float: the exponent falls by one,
unless the float is tiny already.
-/
theorem half (few : k < 800) (bounded : AtMost k a) : AtMost (k + 1) (a * Scalar.ratio 1 2) := by
  obtain ⟨defined, within⟩ := bounded
  have product := unpack_mul a (Scalar.ratio 1 2)
  rw [unpack_half] at product
  rw [place] at within
  cases stored : a.toModel.unpack with
  | notANumber => exact absurd stored defined
  | infinity s =>
      rw [stored] at product within
      cases s with
      | positive => simp [rank, Prod.Lex.le_iff] at within
      | negative => exact .of_infinity product
  | zero s =>
      have under : Under s (-1074) (a * Scalar.ratio 1 2).toModel.unpack := by
        rw [product, stored]
        cases s <;> exact .zero
      exact .of_under under (by omega)
  | finite s m e positive =>
      obtain ⟨short, rfl | normal⟩ := normal_of_unpack stored
      · exact .of_under (under_mul_half stored short) (by push_cast; omega)
      rcases normal.minExponent.eq_or_lt with rfl | above
      · exact .of_under (under_mul_half stored short) (by push_cast; omega)
      have halved := unpack_mul_half_of_normal stored normal above
      rw [stored] at within
      constructor
      · rw [Undefined, halved]
        exact UnpackedFloat.noConfusion
      · rw [place, halved]
        cases s with
        | positive =>
            simp only [rank, Prod.Lex.le_iff, ofLex_toLex, lt_irrefl, true_and, false_or]
              at within ⊢
            push_cast
            omega
        | negative => simp [rank, Prod.Lex.le_iff]

/-- Halvings add to the power, by induction on their number. -/
theorem halve {halvings : Nat} (few : k + halvings ≤ 800) (bounded : AtMost k a)
    : AtMost (k + halvings) (Program.halve halvings a) := by
  induction halvings generalizing k a with
  | zero => exact bounded
  | succ halvings ih =>
      rw [Program.halve_succ, show k + (halvings + 1) = k + 1 + halvings by omega]
      exact ih (by omega) (bounded.half (by omega))

theorem not_minStep_le (bounded : AtMost 47 a) : ¬Program.minStep ≤ a := by
  intro long
  have least := (le_iff_place.mp long).2.2.trans bounded.within
  rw [place, unpack_minStep] at least
  simp [rank, Prod.Lex.le_iff] at least

end AtMost

/-- A negative float over zero is negative infinity, by cases on its kind. -/
theorem unpack_div_zero {a : Float} (negative : a < 0)
    : (a / 0).toModel.unpack = .infinity .negative := by
  obtain ⟨defined, -, below⟩ := lt_iff_place.mp negative
  rw [place, place, unpack_zero] at below
  have quotient
      : UnpackedFloat.div .binary64 a.toModel.unpack (.zero .positive) = .infinity .negative := by
    cases stored : a.toModel.unpack with
    | notANumber => exact absurd stored defined
    | infinity s =>
        cases s with
        | negative => rfl
        | positive => simp [stored, rank, Prod.Lex.lt_iff] at below
    | zero s => simp [stored, rank] at below
    | finite s m e positive =>
        cases s with
        | negative => rfl
        | positive => simp [stored, rank, Prod.Lex.lt_iff] at below
  have stored : (a / 0).toModel
      = .pack (UnpackedFloat.div .binary64 a.toModel.unpack (.zero .positive)) := rfl
  rw [stored, quotient]
  rfl

/-- On machine floats the bounds are read off their places among the numbers. -/
instance : Scalar.Halving Float where
  related_left le := (le_self_iff _).mpr (defined_of_le le).1
  not_le_of_lt less le := (lt_iff_place.mp less).2.2.not_ge (le_iff_place.mp le).2.2
  one_related := (le_self_iff 1).mpr one_defined
  minStep_le_one := by decide +kernel
  div_zero_le_one negative := (AtMost.of_infinity (unpack_div_zero negative)).le_one (k := 0)
  half_le_one le_one := ((AtMost.zero_iff.mpr le_one).half (by decide)).le_one
  not_minStep_le_halve le_one :=
    ((AtMost.zero_iff.mpr le_one).halve (show 0 + 47 ≤ 800 by decide)).not_minStep_le

end FloatOrder

end QuadraticTrials

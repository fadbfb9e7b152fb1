import Mathlib
import QuadraticTrials.Decimal.Shortest

/-!
The numbers that round to a stored float. They form an interval around it, closed exactly for an
even mantissa, and no number lies in the intervals of two floats.
-/

namespace QuadraticTrials

-----------------------------------------------------------------------------------------
-- Fractions
-----------------------------------------------------------------------------------------

namespace Magnitude

/-- The fraction as a number. -/
def value (v : Magnitude) : ℚ :=
  v.numerator / v.denominator

section Comparison

variable {v : Magnitude} (positive : 0 < v.denominator)

include positive

/-- Cross multiplication scales both numbers by a common factor. -/
theorem exists_compareUnits (count : Nat) (grid : Int)
    : ∃ (left right : Nat) (factor : ℚ),
        0 < factor
          ∧ compareUnits count grid v = compare left right
          ∧ (left : ℚ) = count * 10 ^ grid * factor
          ∧ (right : ℚ) = v.value * factor := by
  have denominator : (0 : ℚ) < v.denominator := by exact_mod_cast positive
  by_cases whole : grid ≥ 0
  · obtain ⟨places, rfl⟩ := Int.eq_ofNat_of_zero_le whole
    refine ⟨_, _, v.denominator, denominator, if_pos whole, ?_, ?_⟩
    · simp
    · rw [value, div_mul_cancel₀ _ denominator.ne']
  · obtain ⟨places, rfl⟩ : ∃ places : Nat, grid = -places := ⟨(-grid).toNat, by omega⟩
    refine ⟨_, _, v.denominator * 10 ^ places, by positivity, if_neg whole, ?_, ?_⟩
    · simp only [Nat.cast_mul, zpow_neg, zpow_natCast]
      field_simp
    · rw [value, ← mul_assoc, div_mul_cancel₀ _ denominator.ne']
      simp

theorem compareUnits_eq_lt_iff (count : Nat) (grid : Int)
    : compareUnits count grid v = .lt ↔ (count : ℚ) * 10 ^ grid < v.value := by
  obtain ⟨left, right, factor, pos, compared, left_eq, right_eq⟩ :=
    exists_compareUnits positive count grid
  rw [compared, Nat.compare_eq_lt, ← mul_lt_mul_iff_of_pos_right pos, ← left_eq, ← right_eq,
    Nat.cast_lt]

theorem compareUnits_eq_gt_iff (count : Nat) (grid : Int)
    : compareUnits count grid v = .gt ↔ v.value < (count : ℚ) * 10 ^ grid := by
  obtain ⟨left, right, factor, pos, compared, left_eq, right_eq⟩ :=
    exists_compareUnits positive count grid
  rw [compared, Nat.compare_eq_gt, ← mul_lt_mul_iff_of_pos_right pos, ← left_eq, ← right_eq,
    Nat.cast_lt]

end Comparison

end Magnitude

-----------------------------------------------------------------------------------------
-- Intervals
-----------------------------------------------------------------------------------------

namespace Binary

/-- The forms in which finite doubles are stored: of full width unless the exponent is the least. -/
structure Stored (b : Binary) : Prop where
  mantissa_lt : b.mantissa < 2 ^ 53
  exponent_ge : -1074 ≤ b.exponent
  full_width : 2 ^ 52 ≤ b.mantissa ∨ b.exponent = -1074

/-- The gap between the float and the numbers below it that round to it, in units of the last place:
half a unit, or a quarter below a power of two.
-/
def gapBelow (b : Binary) : ℚ :=
  if b.mantissa = 2 ^ 52 ∧ -1074 < b.exponent then 1 / 4 else 1 / 2

/-- The number rounds to the float. The ends of the interval go to an even mantissa. -/
def Covers (b : Binary) (v : ℚ) : Prop :=
  if b.mantissa % 2 = 0 then
    (b.mantissa - b.gapBelow) * 2 ^ b.exponent ≤ v ∧ v ≤ (b.mantissa + 1 / 2) * 2 ^ b.exponent
  else
    (b.mantissa - b.gapBelow) * 2 ^ b.exponent < v ∧ v < (b.mantissa + 1 / 2) * 2 ^ b.exponent

variable {b b' : Binary} {v : ℚ}

theorem gapBelow_le (b : Binary) : b.gapBelow ≤ 1 / 2 := by
  unfold gapBelow
  split <;> norm_num

theorem Covers.low_le (covers : b.Covers v) : (b.mantissa - b.gapBelow) * 2 ^ b.exponent ≤ v := by
  unfold Covers at covers
  split at covers
  · exact covers.1
  · exact covers.1.le

theorem Covers.le_high (covers : b.Covers v) : v ≤ (b.mantissa + 1 / 2) * 2 ^ b.exponent := by
  unfold Covers at covers
  split at covers
  · exact covers.2
  · exact covers.2.le

/-- A number strictly within the interval rounds to the float whatever its mantissa is. -/
theorem covers_of_lt (low : (b.mantissa - b.gapBelow) * 2 ^ b.exponent < v)
    (high : v < (b.mantissa + 1 / 2) * 2 ^ b.exponent)
    : b.Covers v := by
  unfold Covers
  split
  · exact ⟨low.le, high.le⟩
  · exact ⟨low, high⟩

/-- The upper end rounds to an even mantissa only. -/
theorem Covers.lt_high (covers : b.Covers v) (odd : b.mantissa % 2 ≠ 0)
    : v < (b.mantissa + 1 / 2) * 2 ^ b.exponent := by
  rw [Covers, if_neg odd] at covers
  exact covers.2

/-- The lower end rounds to an even mantissa only. -/
theorem Covers.low_lt (covers : b.Covers v) (odd : b.mantissa % 2 ≠ 0)
    : (b.mantissa - b.gapBelow) * 2 ^ b.exponent < v := by
  rw [Covers, if_neg odd] at covers
  exact covers.1

-----------------------------------------------------------------------------------------
-- Floats are told apart
-----------------------------------------------------------------------------------------

/-- No number rounds to two mantissas at one exponent: their intervals have at most an end in
common, and one of the two mantissas is odd then.
-/
theorem Covers.mantissa_le (covers : b.Covers v) (covers' : b'.Covers v)
    (same : b.exponent = b'.exponent)
    : b'.mantissa ≤ b.mantissa := by
  by_contra below
  rw [not_le] at below
  have next : (b.mantissa : ℚ) + 1 ≤ b'.mantissa := by exact_mod_cast below
  have ends : (b.mantissa + 1 / 2 : ℚ) ≤ b'.mantissa - b'.gapBelow := by
    linarith [gapBelow_le b']
  have unit : (0 : ℚ) < 2 ^ b'.exponent := by positivity
  have high := covers.le_high
  have low := covers'.low_le
  rw [same] at high
  have meet := mul_le_mul_of_nonneg_right ends unit.le
  by_cases odd : b.mantissa % 2 = 0
  · by_cases odd' : b'.mantissa % 2 = 0
    · -- Two even mantissas are at least two apart.
      have apart : (b.mantissa : ℚ) + 2 ≤ b'.mantissa := by exact_mod_cast (by omega)
      have ends : (b.mantissa + 1 / 2 : ℚ) < b'.mantissa - b'.gapBelow := by
        linarith [gapBelow_le b']
      have meet := mul_lt_mul_of_pos_right ends unit
      linarith
    · have low := covers'.low_lt odd'
      linarith
  · have high := covers.lt_high odd
    rw [same] at high
    linarith

/-- The interval of a float of full width begins close to the least mantissa of full width. -/
theorem Stored.sub_gapBelow_ge (stored : b.Stored) (above : -1074 < b.exponent)
    : (2 ^ 52 - 1 / 4 : ℚ) ≤ b.mantissa - b.gapBelow := by
  have full : 2 ^ 52 ≤ b.mantissa := stored.full_width.resolve_right (by omega)
  unfold gapBelow
  split
  case isTrue power =>
    rw [power.1]
    norm_num
  case isFalse between =>
    have next : 2 ^ 52 + 1 ≤ b.mantissa := by omega
    have next : (2 ^ 52 + 1 : ℚ) ≤ b.mantissa := by exact_mod_cast next
    linarith

/-- No number rounds to floats of two exponents. The mantissa at the greater one is of full width,
and the interval below ends where this one begins, with an odd mantissa.
-/
theorem Covers.exponent_le (stored : b.Stored) (stored' : b'.Stored) (covers : b.Covers v)
    (covers' : b'.Covers v)
    : b'.exponent ≤ b.exponent := by
  by_contra below
  rw [not_le] at below
  have low' := stored'.sub_gapBelow_ge (stored.exponent_ge.trans_lt below)
  have step : (2 : ℚ) * 2 ^ b.exponent ≤ 2 ^ b'.exponent := by
    rw [mul_comm, ← zpow_add_one₀ two_ne_zero]
    exact zpow_le_zpow_right₀ one_le_two below
  have unit : (0 : ℚ) < 2 ^ b.exponent := by positivity
  have low : (2 ^ 53 - 1 / 2 : ℚ) * 2 ^ b.exponent ≤ v :=
    calc
      (2 ^ 53 - 1 / 2 : ℚ) * 2 ^ b.exponent = (2 ^ 52 - 1 / 4) * (2 * 2 ^ b.exponent) := by ring
      _ ≤ (2 ^ 52 - 1 / 4) * 2 ^ b'.exponent := mul_le_mul_of_nonneg_left step (by norm_num)
      _ ≤ (b'.mantissa - b'.gapBelow) * 2 ^ b'.exponent :=
        mul_le_mul_of_nonneg_right low' (by positivity)
      _ ≤ v := covers'.low_le
  have high := le_of_mul_le_mul_right (low.trans covers.le_high) unit
  have last : b.mantissa = 2 ^ 53 - 1 := by
    have reached : (2 ^ 53 : ℚ) ≤ b.mantissa + 1 := by linarith
    have reached : 2 ^ 53 ≤ b.mantissa + 1 := by exact_mod_cast reached
    have bound := stored.mantissa_lt
    omega
  have strict := lt_of_mul_lt_mul_right (low.trans_lt (covers.lt_high (by omega))) unit.le
  rw [last] at strict
  norm_num at strict

/-- A number rounds to one stored float. -/
theorem Covers.unique (stored : b.Stored) (stored' : b'.Stored) (covers : b.Covers v)
    (covers' : b'.Covers v)
    : b.mantissa = b'.mantissa ∧ b.exponent = b'.exponent := by
  have same : b.exponent = b'.exponent :=
    le_antisymm (covers'.exponent_le stored' stored covers)
      (covers.exponent_le stored stored' covers')
  exact ⟨le_antisymm (covers'.mantissa_le covers same.symm) (covers.mantissa_le covers' same), same⟩

-----------------------------------------------------------------------------------------
-- The comparison with the ends
-----------------------------------------------------------------------------------------

theorem value_quarters (b : Binary) (count : Nat)
    : (b.quarters count).value = count / 4 * 2 ^ b.exponent := by
  unfold quarters Magnitude.value
  split
  case isTrue whole =>
    obtain ⟨places, exponent⟩ := Int.eq_ofNat_of_zero_le whole
    rw [exponent]
    simp only [Nat.pow_eq, Nat.cast_mul, Nat.cast_pow, Nat.cast_ofNat, Int.toNat_natCast,
      zpow_natCast]
    ring
  case isFalse part =>
    obtain ⟨places, exponent⟩ : ∃ places : Nat, b.exponent = -places :=
      ⟨(-b.exponent).toNat, by omega⟩
    rw [exponent]
    simp only [Nat.pow_eq, Nat.cast_mul, Nat.cast_pow, Nat.cast_ofNat, neg_neg, Int.toNat_natCast,
      zpow_neg, zpow_natCast]
    field_simp

theorem denominator_quarters (b : Binary) (count : Nat)
    : 0 < (b.quarters count).denominator := by
  unfold quarters
  split
  · exact Nat.zero_lt_succ 3
  · exact Nat.mul_pos (Nat.zero_lt_succ 3) (Nat.pow_pos Nat.zero_lt_two)

/-- The distance from zero as a number. -/
theorem value_magnitude (b : Binary) : b.magnitude.value = b.mantissa * 2 ^ b.exponent := by
  rw [magnitude, value_quarters]
  push_cast
  ring

theorem value_upperEnd (b : Binary)
    : b.upperEnd.value = (b.mantissa + 1 / 2) * 2 ^ b.exponent := by
  rw [upperEnd, value_quarters]
  push_cast
  ring

theorem value_lowerEnd (positive : 0 < b.mantissa)
    : b.lowerEnd.value = (b.mantissa - b.gapBelow) * 2 ^ b.exponent := by
  unfold lowerEnd gapBelow
  simp only [Nat.pow_eq, gt_iff_lt, Bool.and_eq_true, beq_iff_eq, decide_eq_true_eq]
  split
  · rw [value_quarters, Nat.cast_sub (by omega)]
    push_cast
    ring
  · rw [value_quarters, Nat.cast_sub (by omega)]
    push_cast
    ring

theorem denominator_lowerEnd (b : Binary) : 0 < b.lowerEnd.denominator := by
  unfold lowerEnd
  split <;> exact denominator_quarters b _

/-- The test against both ends says that a number on a grid rounds to the float. -/
theorem readsBack_iff (positive : 0 < b.mantissa) (count : Nat) (grid : Int)
    : Decimal.readsBack b count grid = true ↔ b.Covers (count * 10 ^ grid) := by
  have low := denominator_lowerEnd b
  have high : 0 < b.upperEnd.denominator := denominator_quarters b _
  unfold Decimal.readsBack Covers
  rw [← value_lowerEnd positive, ← value_upperEnd]
  dsimp only
  simp only [beq_iff_eq]
  split
  · rw [Bool.and_eq_true, bne_iff_ne, bne_iff_ne, ne_eq, ne_eq,
      Magnitude.compareUnits_eq_lt_iff low, Magnitude.compareUnits_eq_gt_iff high, not_lt, not_lt]
  · rw [Bool.and_eq_true, beq_iff_eq, beq_iff_eq,
      Magnitude.compareUnits_eq_gt_iff low, Magnitude.compareUnits_eq_lt_iff high]

end Binary

end QuadraticTrials

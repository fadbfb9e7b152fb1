import Mathlib
import QuadraticTrials.Proofs.Decimal.Interval

/-!
The shortest decimal of a stored float rounds to the float, and there is one for every float but
zero: on a grid of seventeen digits a neighbour of the exact value is near enough.
-/

namespace QuadraticTrials

-----------------------------------------------------------------------------------------
-- Leading digits
-----------------------------------------------------------------------------------------

namespace Magnitude

theorem lt_pow_digitCount (n : Nat) : n < 10 ^ digitCount n := by
  unfold digitCount
  split
  case isTrue zero =>
    rw [beq_iff_eq.mp zero]
    exact Nat.one_pos
  case isFalse =>
    exact (Nat.length_toDigits_le_iff (by decide) Nat.length_toDigits_pos).mp le_rfl

theorem pow_digitCount_le {n : Nat} (positive : 0 < n) : 10 ^ (digitCount n - 1) ≤ n := by
  have counted : digitCount n = (Nat.toDigits 10 n).length := by
    rw [digitCount, if_neg (by simpa using positive.ne')]
  by_contra above
  rw [not_le] at above
  by_cases several : 0 < digitCount n - 1
  · have fewer := (Nat.length_toDigits_le_iff (by decide) several).mpr above
    omega
  · rw [Nat.eq_zero_of_not_pos several] at above
    omega

/-- A positive fraction reaches the power of ten of its leading digit. -/
theorem zpow_leadingExponent_le {v : Magnitude} (numerator : 0 < v.numerator)
    (denominator : 0 < v.denominator)
    : (10 : ℚ) ^ v.leadingExponent ≤ v.value := by
  have below : (0 : ℚ) < v.denominator := by exact_mod_cast denominator
  unfold leadingExponent value
  split
  case isTrue large =>
    have whole : 0 < v.numerator / v.denominator := Nat.div_pos large denominator
    have digits := lt_pow_digitCount (v.numerator / v.denominator)
    have reached := pow_digitCount_le whole
    obtain ⟨k, count⟩ : ∃ k, digitCount (v.numerator / v.denominator) = k + 1 := by
      refine Nat.exists_eq_succ_of_ne_zero fun none => ?_
      rw [none] at digits
      omega
    rw [count, Nat.add_sub_cancel, Nat.le_div_iff_mul_le denominator] at reached
    rw [count, Nat.cast_succ, add_sub_cancel_right, zpow_natCast, le_div_iff₀ below]
    exact_mod_cast reached
  case isFalse small =>
    have digits := lt_pow_digitCount ((v.denominator - 1) / v.numerator)
    generalize digitCount ((v.denominator - 1) / v.numerator) = k at digits ⊢
    rw [Nat.div_lt_iff_lt_mul numerator, mul_comm] at digits
    have reached : v.denominator ≤ v.numerator * 10 ^ k := by omega
    have reached : (v.denominator : ℚ) ≤ v.numerator * 10 ^ k := by exact_mod_cast reached
    rw [zpow_neg, zpow_natCast, inv_le_iff_one_le_mul₀ (by positivity), mul_comm, mul_div_assoc',
      one_le_div below, mul_comm]
    exact reached

/-- Counting whole units rounds down. -/
theorem fst_inUnits (v : Magnitude) (grid : Int)
    : (v.inUnits grid).1 = ⌊v.value / 10 ^ grid⌋₊ := by
  unfold inUnits value
  dsimp only
  split
  case isTrue whole =>
    obtain ⟨places, rfl⟩ := Int.eq_ofNat_of_zero_le whole
    rw [← Nat.floor_div_eq_div (K := ℚ)]
    simp [div_div]
  case isFalse part =>
    obtain ⟨places, rfl⟩ : ∃ places : Nat, grid = -places := ⟨(-grid).toNat, by omega⟩
    rw [← Nat.floor_div_eq_div (K := ℚ)]
    simp [div_mul_eq_mul_div]

end Magnitude

-----------------------------------------------------------------------------------------
-- Neighbours on a grid
-----------------------------------------------------------------------------------------

namespace Binary

variable {b : Binary}

/-- Seventeen digits are finer than the gap below a float. -/
theorem Stored.mantissa_lt_gap (stored : b.Stored) : b.mantissa < 2 * 10 ^ 16 * b.gapBelow := by
  unfold gapBelow
  split
  case isTrue power =>
    rw [power.1]
    norm_num
  case isFalse =>
    have bound : (b.mantissa : ℚ) < 2 ^ 53 := by exact_mod_cast stored.mantissa_lt
    linarith

/-- On a grid of seventeen digits the nearer neighbour of the exact value rounds to the float. -/
theorem Stored.covers_neighbour (stored : b.Stored) {grid : Int}
    (fine : 10 ^ 16 * 10 ^ grid ≤ b.magnitude.value)
    : b.Covers ((b.magnitude.inUnits grid).1 * 10 ^ grid)
      ∨ b.Covers (((b.magnitude.inUnits grid).1 + 1 : ℕ) * 10 ^ grid) := by
  have unit : (0 : ℚ) < 2 ^ b.exponent := by positivity
  have step : (0 : ℚ) < 10 ^ grid := by positivity
  have near : 10 ^ grid / 2 < b.gapBelow * 2 ^ b.exponent := by
    rw [value_magnitude] at fine
    have gap := mul_lt_mul_of_pos_right stored.mantissa_lt_gap unit
    linarith
  have half := mul_le_mul_of_nonneg_right b.gapBelow_le unit.le
  have above : (b.magnitude.inUnits grid).1 * 10 ^ grid ≤ b.magnitude.value := by
    rw [Magnitude.fst_inUnits, ← le_div_iff₀ step]
    exact Nat.floor_le (div_nonneg (le_trans (by positivity) fine) step.le)
  have below : b.magnitude.value < ((b.magnitude.inUnits grid).1 + 1 : ℕ) * 10 ^ grid := by
    rw [Magnitude.fst_inUnits, ← div_lt_iff₀ step]
    exact_mod_cast Nat.lt_floor_add_one _
  rw [value_magnitude] at above below
  push_cast at below ⊢
  by_cases lower : b.mantissa * 2 ^ b.exponent - (b.magnitude.inUnits grid).1 * 10 ^ grid
      ≤ (10 ^ grid / 2 : ℚ)
  · exact .inl (covers_of_lt (by linarith) (by linarith))
  · exact .inr (covers_of_lt (by linarith) (by linarith))

end Binary

namespace Decimal

variable {tie : Tie} {b : Binary} {grid : Int} {d : Decimal}

/-- What is found on a grid reads back. -/
theorem readsBack_of_onGrid? (found : onGrid? tie b grid = some d)
    : d.exponent = grid ∧ readsBack b d.digits grid = true := by
  unfold onGrid? at found
  dsimp only at found
  split at found
  case isTrue both =>
    rw [Bool.and_eq_true] at both
    cases found
    refine ⟨rfl, ?_⟩
    dsimp only
    split
    · exact both.2
    · exact both.1
  case isFalse =>
    split at found
    case isTrue below =>
      cases found
      exact ⟨rfl, below⟩
    case isFalse =>
      split at found
      case isTrue above =>
        cases found
        exact ⟨rfl, above⟩
      case isFalse => cases found

/-- Something is found on a grid when one of both neighbours reads back. -/
theorem isSome_onGrid? (tie : Tie)
    (near : readsBack b (b.magnitude.inUnits grid).1 grid = true
      ∨ readsBack b ((b.magnitude.inUnits grid).1 + 1) grid = true)
    : (onGrid? tie b grid).isSome := by
  rcases near with below | above
  · simp only [onGrid?, below]
    split <;> rfl
  · simp only [onGrid?, above]
    split
    · rfl
    · split <;> rfl

-----------------------------------------------------------------------------------------
-- The search
-----------------------------------------------------------------------------------------

/-- The decimal as a number. -/
def value (d : Decimal) : ℚ :=
  d.digits * 10 ^ d.exponent

/-- Zeros moved into the exponent do not change the number, by induction on the fuel. -/
theorem value_trim (fuel : Nat) (d : Decimal) : (trim fuel d).value = d.value := by
  induction fuel generalizing d with
  | zero => rfl
  | succ fuel ih =>
      unfold trim
      split
      case isTrue zero =>
        have tens : d.digits = 10 * (d.digits / 10) := by
          have := beq_iff_eq.mp zero
          omega
        rw [ih, value, value, zpow_add_one₀ (by norm_num)]
        conv_rhs => rw [tens]
        push_cast
        ring
      case isFalse => rfl

/-- The shortest decimal rounds to the float. -/
theorem covers_of_shortest? (found : shortest? tie b = some d) : b.Covers d.value := by
  unfold shortest? at found
  split at found
  case isTrue => cases found
  case isFalse positive =>
    have positive : 0 < b.mantissa := Nat.pos_of_ne_zero fun zero => positive (beq_iff_eq.mpr zero)
    obtain ⟨full, searched, trimmed⟩ := Option.map_eq_some_iff.mp found
    obtain ⟨n, -, onGrid⟩ := List.exists_of_findSome?_eq_some searched
    obtain ⟨exponent, reads⟩ := readsBack_of_onGrid? onGrid
    rw [← trimmed, value_trim, value, exponent]
    exact (Binary.readsBack_iff positive full.digits _).mp reads

/-- Every stored float but zero has a shortest decimal, of seventeen digits at most. -/
theorem isSome_shortest? (tie : Tie) (stored : b.Stored) (positive : 0 < b.mantissa)
    : (shortest? tie b).isSome := by
  have numerator : 0 < b.magnitude.numerator := by
    unfold Binary.magnitude Binary.quarters
    split
    · exact Nat.mul_pos (by omega) (Nat.pow_pos Nat.zero_lt_two)
    · change 0 < 4 * b.mantissa
      omega
  have lead := Magnitude.zpow_leadingExponent_le numerator (Binary.denominator_quarters b _)
  have fine
      : (10 : ℚ) ^ 16 * 10 ^ (b.magnitude.leadingExponent - (16 : ℕ)) ≤ b.magnitude.value := by
    rw [← zpow_natCast, ← zpow_add₀ (by norm_num), add_sub_cancel]
    exact lead
  have near := stored.covers_neighbour fine
  rw [← Binary.readsBack_iff positive, ← Binary.readsBack_iff positive] at near
  rw [shortest?, if_neg (by simpa using positive.ne'), Option.isSome_map,
    List.findSome?_isSome_iff]
  exact ⟨16, List.mem_range.mpr (by decide), isSome_onGrid? tie near⟩

/-- Only zero has no shortest decimal. -/
theorem shortest?_eq_none_iff (stored : b.Stored) : shortest? tie b = none ↔ b.mantissa = 0 := by
  constructor
  · intro none
    by_contra positive
    have found := isSome_shortest? tie stored (Nat.pos_of_ne_zero positive)
    rw [none] at found
    cases found
  · intro zero
    rw [shortest?, if_pos (beq_iff_eq.mpr zero)]

end Decimal

end QuadraticTrials

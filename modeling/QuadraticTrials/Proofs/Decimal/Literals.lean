import Mathlib
import QuadraticTrials.Decimal.Literal
import QuadraticTrials.Proofs.Decimal.Shortest
import QuadraticTrials.Proofs.Json.Numbers

/-!
Literals tell floats apart. A literal writes a number that rounds to the float it is made from, and
to no other.
-/

namespace QuadraticTrials

-----------------------------------------------------------------------------------------
-- Stored forms
-----------------------------------------------------------------------------------------

namespace Binary

theorem stored_of_ofFloat? {x : Float} {b : Binary} (kept : ofFloat? x = some b) : b.Stored := by
  simp only [ofFloat?, Nat.pow_eq, beq_iff_eq] at kept
  split at kept
  case isTrue => cases kept
  case isFalse =>
    split at kept
    case isTrue =>
      cases kept
      exact ⟨by dsimp only; omega, le_rfl, .inr rfl⟩
    case isFalse =>
      cases kept
      exact ⟨by dsimp only; omega, by dsimp only; omega, .inl (Nat.le_add_right _ _)⟩

/-- A float is determined by its stored form, bit by bit. -/
theorem eq_of_ofFloat? {x y : Float} {b : Binary} (kept : ofFloat? x = some b)
    (kept' : ofFloat? y = some b)
    : x = y := by
  rw [← Float.toBits_inj, ← UInt64.toNat_inj]
  have size := x.toBits.toNat_lt
  have size' := y.toBits.toNat_lt
  simp only [ofFloat?, Nat.pow_eq, beq_iff_eq] at kept kept'
  generalize x.toBits.toNat = bits at *
  generalize y.toBits.toNat = bits' at *
  split at kept
  case isTrue => cases kept
  case isFalse =>
    split at kept'
    case isTrue => cases kept'
    case isFalse =>
      split at kept <;> split at kept'
      all_goals
        have same := kept.trans kept'.symm
        simp only [Option.some.injEq, Binary.mk.injEq, beq_eq_beq] at same
        omega

end Binary

namespace Literal

-----------------------------------------------------------------------------------------
-- The number that a literal writes
-----------------------------------------------------------------------------------------

/-- The number that a literal writes, without its sign. -/
def size (l : Literal) : ℚ :=
  (l.fraction.foldl (fun n d => 10 * n + d.val) l.whole : ℕ) / 10 ^ l.fraction.length
    * 10 ^ l.exponent.getD 0

/-- Digits are read one by one, by induction with a first part generalized. -/
theorem foldl_digit? {digits : List Char} (all : ∀ c ∈ digits, c.isDigit) (first : Nat)
    : digits.foldl (fun n c => 10 * n + ((digit? c).elim 0 Fin.val)) first
      = Nat.ofDigitChars 10 digits first := by
  induction digits generalizing first with
  | nil => rfl
  | cons c digits ih =>
      obtain ⟨d, read, value⟩ := digit?_of_isDigit (all c List.mem_cons_self)
      rw [List.foldl_cons, read, Option.elim_some, value, Nat.ofDigitChars_cons]
      exact ih (fun c member => all c (List.mem_cons_of_mem _ member)) _

theorem length_filterMap_digit? {digits : List Char} (all : ∀ c ∈ digits, c.isDigit)
    : (digits.filterMap digit?).length = digits.length := by
  refine List.filterMap_length_eq_length.mpr fun c member => ?_
  obtain ⟨d, read, -⟩ := digit?_of_isDigit (all c member)
  rw [read]
  rfl

theorem isDigit_of_mem_zeros {n : Nat} : ∀ c ∈ List.replicate n '0', c.isDigit := by
  intro c member
  rw [List.eq_of_mem_replicate member]
  rfl

/-- Splitting digits at a point divides the number they write by a power of ten. -/
theorem size_split {digits : List Char} (all : ∀ c ∈ digits, c.isDigit) (count : Nat)
    (negative : Bool) (exponent : Option Int)
    : size ⟨negative, (split count digits).1, (split count digits).2, exponent⟩
      = Nat.ofDigitChars 10 digits 0 * 10 ^ ((count : Int) - digits.length)
        * 10 ^ exponent.getD 0 := by
  have padded : ∀ c ∈ digits ++ List.replicate (count - digits.length) '0', c.isDigit :=
    List.forall_mem_append.mpr ⟨all, isDigit_of_mem_zeros⟩
  have number
      : (split count digits).2.foldl (fun n d => 10 * n + d.val) (split count digits).1
        = 10 ^ (count - digits.length) * Nat.ofDigitChars 10 digits 0 := by
    unfold split
    dsimp only
    rw [foldl_digit? fun c member => padded c (List.mem_of_mem_take member),
      Tree.foldl_filterMap_digit? fun c member => padded c (List.mem_of_mem_drop member),
      ← Nat.ofDigitChars_append, List.take_append_drop, Nat.ofDigitChars_append,
      Nat.ofDigitChars_replicate_zero]
  have places : (split count digits).2.length = digits.length - count := by
    unfold split
    dsimp only
    rw [length_filterMap_digit? fun c member => padded c (List.mem_of_mem_drop member),
      List.length_drop, List.length_append, List.length_replicate]
    omega
  have shift : (count : Int) - digits.length
      = (count - digits.length : ℕ) - (digits.length - count : ℕ) := by omega
  rw [size, number, places, shift, zpow_sub₀ (by norm_num), zpow_natCast, zpow_natCast]
  push_cast
  ring

theorem isDigit_of_mem_digitChars {d : Decimal} : ∀ c ∈ d.digitChars, c.isDigit :=
  fun c => Nat.isDigit_of_mem_toDigits (by decide) (by decide)

theorem ofDigitChars_digitChars (d : Decimal) : Nat.ofDigitChars 10 d.digitChars 0 = d.digits :=
  Nat.ofDigitChars_ten_toDigits

/-- The digits of a decimal write it when the point and the exponent put the first of them in its
place.
-/
theorem size_split_digitChars {d : Decimal} {count : Nat} {exponent : Option Int}
    (placed : (count : Int) + exponent.getD 0 = d.leadingExponent + 1) (negative : Bool)
    : size ⟨negative, (split count d.digitChars).1, (split count d.digitChars).2, exponent⟩
      = d.value := by
  have lead : d.leadingExponent = d.exponent + d.digitChars.length - 1 := rfl
  rw [size_split isDigit_of_mem_digitChars, ofDigitChars_digitChars, mul_assoc,
    ← zpow_add₀ (by norm_num), Decimal.value]
  congr 2
  omega

/-- Zeros between the point and the first digit put it in its place. -/
theorem size_split_zeros {d : Decimal} {zeros : Nat}
    (placed : (zeros : Int) = -d.leadingExponent - 1) (negative : Bool)
    : size ⟨negative, 0, (split 0 (List.replicate zeros '0' ++ d.digitChars)).2, none⟩
      = d.value := by
  have lead : d.leadingExponent = d.exponent + d.digitChars.length - 1 := rfl
  have all : ∀ c ∈ List.replicate zeros '0' ++ d.digitChars, c.isDigit :=
    List.forall_mem_append.mpr ⟨isDigit_of_mem_zeros, isDigit_of_mem_digitChars⟩
  refine (size_split all 0 negative none).trans ?_
  rw [Nat.ofDigitChars_append, Nat.ofDigitChars_replicate_zero, mul_zero, ofDigitChars_digitChars,
    Option.getD_none, zpow_zero, mul_one, Decimal.value, List.length_append,
    List.length_replicate]
  congr 2
  omega

/-- A literal writes the decimal that it is made from, wherever its point is. -/
theorem size_ofDecimal (negative : Bool) (d : Decimal)
    : (ofDecimal negative d).size = d.value := by
  unfold ofDecimal
  dsimp only
  split
  case isTrue => exact size_split_digitChars (by simp [add_comm]) negative
  case isFalse =>
    split
    case isTrue low => exact size_split_zeros (by omega) negative
    case isFalse high =>
      have placed : ((d.leadingExponent.toNat + 1 : ℕ) : Int) + (none : Option Int).getD 0
          = d.leadingExponent + 1 := by
        rw [Option.getD_none]
        omega
      rw [← size_split_digitChars placed negative]
      split
      case isTrue none =>
        -- A zero after the point does not change a whole number.
        rw [List.isEmpty_iff.mp none]
        simp [size]
      case isFalse => rfl

theorem negative_ofDecimal (negative : Bool) (d : Decimal)
    : (ofDecimal negative d).negative = negative := by
  unfold ofDecimal
  dsimp only
  split
  · rfl
  · split <;> rfl

-----------------------------------------------------------------------------------------
-- Floats told apart
-----------------------------------------------------------------------------------------

/-- A literal has the sign of its float, and writes a number that rounds to it. -/
theorem covers_of_ofFloat? {x : Float} {l : Literal} (written : ofFloat? x = some l)
    : ∃ b, Binary.ofFloat? x = some b ∧ b.negative = l.negative ∧ b.Covers l.size := by
  obtain ⟨b, kept, rfl⟩ := Option.map_eq_some_iff.mp written
  have stored := Binary.stored_of_ofFloat? kept
  refine ⟨b, kept, ?_⟩
  cases found : Decimal.shortest? .toEven b with
  | none =>
      have zero := (Decimal.shortest?_eq_none_iff stored).mp found
      have unit : (0 : ℚ) ≤ 2 ^ b.exponent := by positivity
      refine ⟨rfl, ?_⟩
      simpa [size, Binary.Covers, Binary.gapBelow, zero] using unit
  | some d =>
      refine ⟨(negative_ofDecimal b.negative d).symm, ?_⟩
      rw [size_ofDecimal]
      exact Decimal.covers_of_shortest? found

/-- Floats with one literal are the same, since its number rounds to both. -/
theorem eq_of_ofFloat? {x y : Float} {l : Literal} (written : ofFloat? x = some l)
    (written' : ofFloat? y = some l)
    : x = y := by
  obtain ⟨b, kept, sign, covers⟩ := covers_of_ofFloat? written
  obtain ⟨b', kept', sign', covers'⟩ := covers_of_ofFloat? written'
  obtain ⟨mantissa, exponent⟩ := covers.unique (Binary.stored_of_ofFloat? kept)
    (Binary.stored_of_ofFloat? kept') covers'
  obtain rfl : b = b' := by
    rw [Binary.mk.injEq]
    exact ⟨sign.trans sign'.symm, mantissa, exponent⟩
  exact Binary.eq_of_ofFloat? kept kept'

end Literal

end QuadraticTrials

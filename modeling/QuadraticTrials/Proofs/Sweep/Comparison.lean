import Mathlib
import QuadraticTrials.Proofs.Ordered
import QuadraticTrials.Proofs.Sweep.Agreement
import QuadraticTrials.Proofs.Sweep.Exchange

/-!
What the comparison of two vectors decides, coordinate by coordinate, and the laws that it obeys.
Undefined and infinite coordinates pass no finite tolerance.
-/

namespace QuadraticTrials

-----------------------------------------------------------------------------------------
-- Distances
-----------------------------------------------------------------------------------------

/-- Bounds on distances chain, do not depend on the direction, keep both values finite and hold from
every finite value to itself.
-/
class Scalar.Metric (K : Type) [Scalar K] : Prop
    extends Scalar.Symmetric K, Scalar.Confining K where
  le_trans {a b c : K} : a ≤ b → b ≤ c → a ≤ c
  abs_sub_self_le {a bound : K} : Scalar.isFinite a → 0 ≤ bound → Scalar.abs (a - a) ≤ bound

instance Scalar.metric_exact {K : Type} [Field K] [LinearOrder K] [IsStrictOrderedRing K]
    : Scalar.Metric K where
  le_trans := LE.le.trans
  abs_sub_self_le {a bound} _ nonneg := by
    change |a - a| ≤ bound
    rwa [sub_self, abs_zero]

namespace FloatOrder

open Float.Model

/-- A finite number differs from itself by zero, by cases on its kind. -/
theorem exists_sub_self (spec : Format) {a : UnpackedFloat} (finite : a.isFinite = true)
    : ∃ s, UnpackedFloat.sub spec a a = .zero s := by
  cases a with
  | notANumber => cases finite
  | infinity s => cases finite
  | zero s => cases s <;> exact ⟨_, rfl⟩
  | finite s m e positive =>
      simp only [UnpackedFloat.sub, sub_self, UnpackedFloat.normalize]
      exact ⟨_, rfl⟩

/-- The distance of a finite float from itself is the zero without a sign. -/
theorem unpack_abs_sub_self {a : Float} (finite : a.isFinite = true)
    : (Scalar.abs (a - a)).toModel.unpack = .zero .positive := by
  obtain ⟨s, zero⟩ := exists_sub_self .binary64 finite
  have difference : (a - a).toModel = .pack (.zero s) := congrArg Float.Model.pack zero
  have magnitude : (Scalar.abs (a - a)).toModel.unpack
      = (Float.Model.pack (a - a).toModel.unpack.abs).unpack := rfl
  rw [magnitude, difference]
  cases s <;> rfl

instance : Scalar.Metric Float where
  le_trans := FloatOrder.le_trans
  abs_sub_self_le {a bound} finite nonneg := by
    obtain ⟨-, defined, above⟩ := le_iff_place.mp nonneg
    have stored := unpack_abs_sub_self finite
    refine le_iff_place.mpr ⟨?_, defined, ?_⟩
    · rw [Undefined, stored]
      exact UnpackedFloat.noConfusion
    · rw [place, stored]
      exact above

end FloatOrder

-----------------------------------------------------------------------------------------
-- The first place out of tolerance
-----------------------------------------------------------------------------------------

namespace Comparison

variable {K : Type}

/-- The comparison the other way round. -/
def mirror : Comparison K → Comparison K
  | equivalent => equivalent
  | dimensionMismatch reference candidate => dimensionMismatch candidate reference
  | mismatch index difference => mismatch index difference

theorem ofComparison_mirror (comparison : Comparison K)
    : Outcome.ofComparison comparison.mirror = (Outcome.ofComparison comparison).mirror := by
  cases comparison <;> rfl

theorem ofComparison_injective
    : Function.Injective (Outcome.ofComparison : Comparison K → Outcome K) := by
  intro first second same
  cases first <;> cases second <;> cases same <;> rfl

variable [Scalar K] {tolerance : K} {x y : List K} {i : Nat} {d : K}

/-- Two vectors are within a tolerance at a place, if both reach that far. -/
def WithinAt (tolerance : K) (x y : List K) (i : Nat) : Prop :=
  ∀ a b, x[i]? = some a → y[i]? = some b → Scalar.abs (a - b) ≤ tolerance

/-- The least place at which two vectors are not within a tolerance, and their distance there. -/
structure FirstOutside (tolerance : K) (x y : List K) (i : Nat) (d : K) : Prop where
  distance : ∃ a b, x[i]? = some a ∧ y[i]? = some b ∧ d = Scalar.abs (a - b)
  outside : ¬d ≤ tolerance
  least : ∀ j < i, WithinAt tolerance x y j

theorem getElem?_distances
    : (distances x y)[i]? = some d
      ↔ ∃ a b, x[i]? = some a ∧ y[i]? = some b ∧ d = Scalar.abs (a - b) := by
  rw [distances, List.getElem?_zipWith_eq_some]
  exact exists₂_congr fun a b => and_congr_right' (and_congr_right' eq_comm)

theorem withinAt_iff
    : WithinAt tolerance x y i ↔ ∀ d, (distances x y)[i]? = some d → d ≤ tolerance := by
  constructor
  · intro within d found
    obtain ⟨a, b, first, second, rfl⟩ := getElem?_distances.mp found
    exact within a b first second
  · intro within a b first second
    exact within _ (getElem?_distances.mpr ⟨a, b, first, second, rfl⟩)

/-- The search finds the least place out of tolerance, counted from where it starts, by induction on
the differences.
-/
theorem firstOutside_eq_some {index : Nat} {differences : List K}
    : firstOutside tolerance index differences = some (i, d)
      ↔ ∃ k,
          i = index + k
            ∧ differences[k]? = some d
            ∧ ¬d ≤ tolerance
            ∧ ∀ j < k, ∀ e, differences[j]? = some e → e ≤ tolerance := by
  induction differences generalizing index with
  | nil => simp [firstOutside]
  | cons difference rest ih =>
      rw [firstOutside]
      split
      case isTrue within =>
        rw [ih]
        constructor
        · rintro ⟨k, rfl, found, outside, least⟩
          refine ⟨k + 1, by omega, found, outside, fun j below e => ?_⟩
          cases j with
          | zero =>
              rintro ⟨⟩
              exact within
          | succ j => exact least j (by omega) e
        · rintro ⟨k, rfl, found, outside, least⟩
          cases k with
          | zero =>
              cases found
              exact absurd within outside
          | succ k =>
              refine ⟨k, by omega, found, outside, fun j below e => ?_⟩
              exact least (j + 1) (by omega) e
      case isFalse outside =>
        rw [Option.some.injEq, Prod.mk.injEq]
        constructor
        · rintro ⟨rfl, rfl⟩
          exact ⟨0, rfl, rfl, outside, fun j below => absurd below (Nat.not_lt_zero j)⟩
        · rintro ⟨k, rfl, found, -, least⟩
          cases k with
          | zero =>
              cases found
              exact ⟨rfl, rfl⟩
          | succ k => exact absurd (least 0 (Nat.succ_pos k) _ rfl) outside

theorem firstOutside_distances
    : firstOutside tolerance 0 (distances x y) = some (i, d) ↔ FirstOutside tolerance x y i d := by
  rw [firstOutside_eq_some]
  constructor
  · rintro ⟨k, rfl, found, outside, least⟩
    rw [Nat.zero_add]
    exact ⟨getElem?_distances.mp found, outside, fun j below => withinAt_iff.mpr (least j below)⟩
  · rintro ⟨distance, outside, least⟩
    refine ⟨i, (Nat.zero_add i).symm, getElem?_distances.mpr distance, outside, ?_⟩
    exact fun j below => withinAt_iff.mp (least j below)

-----------------------------------------------------------------------------------------
-- Verdicts
-----------------------------------------------------------------------------------------

/-- What each result of a comparison says of the two vectors. -/
structure Decides (tolerance : K) (x y : List K) : Prop where
  dimensionMismatch
    : ∀ n m,
        check tolerance x y = .dimensionMismatch n m
          ↔ x.length ≠ y.length ∧ n = x.length ∧ m = y.length
  mismatch
    : ∀ i d,
        check tolerance x y = .mismatch i d
          ↔ x.length = y.length ∧ FirstOutside tolerance x y i d
  equivalent
    : check tolerance x y = .equivalent
      ↔ x.length = y.length ∧ ∀ i, WithinAt tolerance x y i

omit [Scalar K] in
theorem isEquivalent_iff {comparison : Comparison K}
    : comparison.isEquivalent = true ↔ comparison = .equivalent := by
  cases comparison <;> simp [isEquivalent]

/-- Vectors of one length pass exactly if they are within the tolerance at every place. -/
theorem compare_eq_true
    : compare tolerance x y = true ↔ x.length = y.length ∧ ∀ i, WithinAt tolerance x y i := by
  rw [compare, isEquivalent_check]
  refine and_congr_right fun same => ⟨fun within i a b first second => ?_, fun within pair => ?_⟩
  · exact within (a, b) (List.mem_of_getElem? (List.getElem?_zip_eq_some.mpr ⟨first, second⟩))
  · intro member
    obtain ⟨i, found⟩ := List.mem_iff_getElem?.mp member
    obtain ⟨first, second⟩ := List.getElem?_zip_eq_some.mp found
    exact within i _ _ first second

/-- The three results, by cases on the lengths and on the search. -/
theorem decides (tolerance : K) (x y : List K) : Decides tolerance x y := by
  have equivalent : check tolerance x y = .equivalent
      ↔ x.length = y.length ∧ ∀ i, WithinAt tolerance x y i :=
    isEquivalent_iff.symm.trans compare_eq_true
  by_cases same : x.length = y.length
  · refine ⟨fun n m => ?_, fun i d => ?_, equivalent⟩
    · rw [check, if_neg (not_not.mpr same)]
      cases firstOutside tolerance 0 (distances x y) <;> simp [same]
    · rw [check, if_neg (not_not.mpr same), ← firstOutside_distances, and_iff_right same]
      cases firstOutside tolerance 0 (distances x y) <;> simp [Prod.ext_iff]
  · have checked : check tolerance x y = .dimensionMismatch x.length y.length := if_pos same
    refine ⟨fun n m => ?_, fun i d => ?_, equivalent⟩
    · rw [checked, dimensionMismatch.injEq, and_iff_right same, eq_comm, eq_comm (a := m)]
    · simp [checked, same]

theorem check_comm [Scalar.Symmetric K] (tolerance : K) (x y : List K)
    : check tolerance y x = (check tolerance x y).mirror := by
  refine ofComparison_injective ?_
  rw [ofComparison_mirror, Outcome.ofComparison_check_comm]

section Metric

variable [Scalar.Metric K]

theorem compare_mono {tolerance' : K} (le : tolerance ≤ tolerance')
    (passed : compare tolerance x y = true)
    : compare tolerance' x y = true := by
  obtain ⟨same, within⟩ := compare_eq_true.mp passed
  refine compare_eq_true.mpr ⟨same, fun i a b first second => ?_⟩
  exact Scalar.Metric.le_trans (within i a b first second) le

/-- Whatever passes a finite tolerance is finite: each coordinate has one that faces it. -/
theorem isFinite_of_compare (finite : Scalar.isFinite tolerance = true)
    (passed : compare tolerance x y = true)
    : ∀ value ∈ x ++ y, Scalar.isFinite value = true := by
  obtain ⟨same, within⟩ := compare_eq_true.mp passed
  have both {i : Nat} (short : i < x.length) (short' : i < y.length) :=
    Scalar.Confining.isFinite_of_abs_sub_le finite
      (within i _ _ (List.getElem?_eq_getElem short) (List.getElem?_eq_getElem short'))
  intro value member
  rcases List.mem_append.mp member with member | member
  · obtain ⟨i, short, rfl⟩ := List.mem_iff_getElem.mp member
    exact (both short (same ▸ short)).1
  · obtain ⟨i, short, rfl⟩ := List.mem_iff_getElem.mp member
    exact (both (same ▸ short) short).2

theorem compare_self (finite : ∀ value ∈ x, Scalar.isFinite value = true) (nonneg : 0 ≤ tolerance)
    : compare tolerance x x = true := by
  refine compare_eq_true.mpr ⟨rfl, fun i a b first second => ?_⟩
  cases first.symm.trans second
  exact Scalar.Metric.abs_sub_self_le (finite a (List.mem_of_getElem? first)) nonneg

end Metric

/-- Passed comparisons chain, at the sum of their tolerances. -/
theorem compare_trans {F : Type} [Field F] [LinearOrder F] [IsStrictOrderedRing F]
    {first second : F} {x y z : List F} (near : compare first x y = true)
    (near' : compare second y z = true)
    : compare (first + second) x z = true := by
  obtain ⟨same, within⟩ := compare_eq_true.mp near
  obtain ⟨same', within'⟩ := compare_eq_true.mp near'
  refine compare_eq_true.mpr ⟨same.trans same', fun i a c foundA foundC => ?_⟩
  have short : i < y.length := same ▸ (List.getElem?_eq_some_iff.mp foundA).1
  have foundB := List.getElem?_eq_getElem short
  exact (abs_sub_le a y[i] c).trans
    (add_le_add (within i a _ foundA foundB) (within' i _ c foundB foundC))

/-- The laws of comparing any two vectors of a number type. -/
structure Lawful (K : Type) [Scalar K] : Prop where
  decides : ∀ (tolerance : K) (x y : List K), Decides tolerance x y
  mirrored
    : ∀ (tolerance : K) (x y : List K), check tolerance y x = (check tolerance x y).mirror
  monotone
    : ∀ (tolerance tolerance' : K) (x y : List K),
        tolerance ≤ tolerance' → compare tolerance x y = true → compare tolerance' x y = true
  infinite
    : ∀ (tolerance : K) (x y : List K),
        Scalar.isFinite tolerance = true → (∃ value ∈ x ++ y, Scalar.isFinite value = false) →
          compare tolerance x y = false
  reflexive
    : ∀ (tolerance : K) (x : List K),
        (∀ value ∈ x, Scalar.isFinite value = true) → 0 ≤ tolerance → compare tolerance x x = true

theorem lawful (K : Type) [Scalar K] [Scalar.Metric K] : Lawful K := by
  refine ⟨decides, check_comm, fun _ _ _ _ => compare_mono, ?_, fun _ _ => compare_self⟩
  rintro tolerance x y finite ⟨value, member, infinite⟩
  refine Bool.eq_false_iff.mpr fun passed => ?_
  rw [isFinite_of_compare finite passed value member] at infinite
  cases infinite

/-- Comparisons are lawful on machine floats as on ordered fields, where they also chain. -/
theorem compare_lawful
    : Lawful Float
      ∧ ∀ (F : Type) [Field F] [LinearOrder F] [IsStrictOrderedRing F],
          Lawful F
            ∧ ∀ (first second : F) (x y z : List F),
                compare first x y = true → compare second y z = true →
                  compare (first + second) x z = true :=
  ⟨lawful Float, fun F _ _ _ => ⟨lawful F, fun _ _ _ _ _ => compare_trans⟩⟩

/-- Among floats, two equal infinities fail a finite tolerance, and the second of two places is the
first out of tolerance; among fractions two passed comparisons chain.
-/
theorem compare_infinities
    : compare (1 : Float) [1 / 0] [1 / 0] = false
      ∧ FirstOutside (1 : Float) [3, 0 / 0] [2.5, 0] 1 (Scalar.abs (0 / 0 - 0))
      ∧ compare (1 + 2 : ℚ) [0] [3] = true := by
  obtain ⟨floats, fields⟩ := compare_lawful
  refine ⟨floats.infinite 1 _ _ rfl ⟨1 / 0, .head _, rfl⟩, ?_, ?_⟩
  · exact (((floats.decides 1 _ _).mismatch 1 _).mp rfl).2
  · exact (fields ℚ).2 1 2 [0] [1] [3] (by decide +kernel) (by decide +kernel)

end Comparison

end QuadraticTrials

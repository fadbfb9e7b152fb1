import Mathlib
import QuadraticTrials.Proofs.Exact.Dense
import QuadraticTrials.Proofs.Finite
import QuadraticTrials.Proofs.InteriorPoint.Halving

/-!
Sums and largest magnitudes of values of which some may be undefined. An undefined term spoils a
sum, so that an inner product that is a number has numbers only; a largest magnitude leaves
undefined entries out, so that a bound on it says nothing about them.
-/

namespace QuadraticTrials

/-- What a number type with undefined values, those not related to themselves, promises about sums,
magnitudes and bounds.
-/
class Scalar.Spoiling (K : Type) [Scalar K] : Prop extends Scalar.Comparable K where
  zero_related : (0 : K) ≤ 0
  related_left {a b : K} : a ≤ b → a ≤ a
  le_trans {a b c : K} : a ≤ b → b ≤ c → a ≤ c
  le_total {a b : K} : a ≤ a → b ≤ b → a ≤ b ∨ b ≤ a
  related_of_add_left {a b : K} : a + b ≤ a + b → a ≤ a
  related_of_add_right {a b : K} : a + b ≤ a + b → b ≤ b
  related_of_abs {a : K} : Scalar.abs a ≤ Scalar.abs a → a ≤ a
  nonneg_abs {a : K} : a ≤ a → 0 ≤ Scalar.abs a
  nonneg_one_add {a : K} : 0 ≤ a → 0 ≤ 1 + a
  nonneg_mul {a b : K} : Scalar.isFinite a → 0 < a → 0 ≤ b → 0 ≤ a * b
  isFinite_of_abs_le {a bound : K}
    : Scalar.isFinite bound → Scalar.abs a ≤ bound → Scalar.isFinite a

/-- In an ordered field all values are related to themselves, and finite. -/
instance Scalar.spoiling_exact {K : Type} [Field K] [LinearOrder K] [IsStrictOrderedRing K]
    : Scalar.Spoiling K where
  zero_related := le_rfl
  related_left _ := le_rfl
  le_trans := LE.le.trans
  le_total _ _ := le_total _ _
  related_of_add_left _ := le_rfl
  related_of_add_right _ := le_rfl
  related_of_abs _ := le_rfl
  nonneg_abs _ := abs_nonneg _
  nonneg_one_add nonneg := add_nonneg zero_le_one nonneg
  nonneg_mul _ positive nonneg := mul_nonneg positive.le nonneg
  isFinite_of_abs_le _ _ := rfl

namespace FloatOrder

open Float.Model

-----------------------------------------------------------------------------------------
-- Numbers with a sign
-----------------------------------------------------------------------------------------

/-- A number with a sign; both zeros have one. -/
inductive Signed (s : UnpackedFloat.Sign) : UnpackedFloat → Prop
  | zero : Signed s (.zero s)
  | finite {m : Nat} {e : Int} (positive : 0 < m) : Signed s (.finite s m e positive)
  | infinity : Signed s (.infinity s)

theorem exists_signed {a : UnpackedFloat} (defined : a ≠ .notANumber) : ∃ s, Signed s a := by
  cases a with
  | notANumber => exact absurd rfl defined
  | infinity s => exact ⟨s, .infinity⟩
  | zero s => exact ⟨s, .zero⟩
  | finite s m e positive => exact ⟨s, .finite positive⟩

namespace Signed

variable {s : UnpackedFloat.Sign} {a b : UnpackedFloat}

theorem abs (signed : Signed s a) : Signed .positive a.abs := by
  cases signed with
  | zero => exact .zero
  | finite positive => exact .finite positive
  | infinity => exact .infinity

/-- A number is stored with its sign; one that is too large is stored as an infinity. -/
theorem unpack_pack (signed : Signed s a) : Signed s (Float.Model.pack a).unpack := by
  cases signed with
  | zero =>
      have stored : (Float.Model.pack (.zero s)).unpack = .zero s := by cases s <;> rfl
      rw [stored]
      exact .zero
  | infinity =>
      rw [FloatOrder.unpack_pack rfl]
      exact .infinity
  | @finite m e positive =>
      rcases le_or_gt e 971 with inRange | tooLarge
      · generalize same : (Float.Model.pack (.finite s m e positive)).unpack = stored
        have under := Under.unpack_pack_finite s positive inRange
        rw [same] at under
        cases under with
        | zero => exact .zero
        | finite positive' => exact .finite positive'
      · have large : UnpackedFloat.pack .binary64 (.finite s m e positive)
            = UnpackedFloat.pack .binary64 (.infinity s) := by
          have bias : (Format.binary64.exponentBias : Int) = 1023 := rfl
          have tooLong
              : 2 ^ 11 ≤ (e + Format.binary64.exponentBias + (52 : Nat)).toNat + 1 := by
            rw [bias]
            omega
          exact if_pos tooLong
        rw [Float.Model.pack, Float.Model.unpack, UInt64.toBitVec_ofBitVec, large]
        cases s <;> exact .infinity

theorem roundWithAccuracy (s : UnpackedFloat.Sign) (m : Nat) (e : Int)
    (accuracy : UnpackedFloat.Accuracy)
    : Signed s (UnpackedFloat.roundWithAccuracy .binary64 s m e accuracy) := by
  unfold UnpackedFloat.roundWithAccuracy
  dsimp only
  split
  · exact .zero
  · exact .finite _

/-- The sum of two numbers that are not negative is such a number, by cases on both kinds. -/
theorem add (left : Signed .positive a) (right : Signed .positive b)
    : Signed .positive (UnpackedFloat.add .binary64 a b) := by
  cases left with
  | zero =>
      cases right with
      | zero => exact .zero
      | finite positive => exact .finite positive
      | infinity => exact .infinity
  | infinity => cases right <;> exact .infinity
  | @finite m₁ e₁ positive =>
      cases right with
      | zero => exact .finite positive
      | infinity => exact .infinity
      | @finite m₂ e₂ positive' =>
          simp only [UnpackedFloat.add, UnpackedFloat.normalize]
          split
          · rename_i order
            have negative := compare_lt_iff_lt.mp order
            simp only [UnpackedFloat.Sign.apply] at negative
            omega
          · exact .zero
          · exact roundWithAccuracy _ _ _ _

/-- A positive finite number times a number that is not negative, by cases on its kind. -/
theorem mul {m : Nat} {e : Int} (positive : 0 < m) (right : Signed .positive b)
    : Signed .positive (UnpackedFloat.mul .binary64 (.finite .positive m e positive) b) := by
  cases right with
  | zero => exact .zero
  | infinity => exact .infinity
  | finite positive' => exact roundWithAccuracy _ _ _ _

end Signed

-----------------------------------------------------------------------------------------
-- Machine floats
-----------------------------------------------------------------------------------------

instance (a : Float) : Decidable (Undefined a) :=
  decidable_of_iff (¬a ≤ a) (by rw [le_self_iff, not_not])

theorem undefined_add_left {a : Float} (undefined : Undefined a) (b : Float)
    : Undefined (a + b) := by
  refine undefined_of_repacked rfl ?_
  rw [show a.toModel.unpack = .notANumber from undefined]
  cases b.toModel.unpack <;> rfl

theorem undefined_add_right (a : Float) {b : Float} (undefined : Undefined b)
    : Undefined (a + b) := by
  refine undefined_of_repacked rfl ?_
  rw [show b.toModel.unpack = .notANumber from undefined]
  cases a.toModel.unpack <;> rfl

theorem undefined_abs {a : Float} (undefined : Undefined a) : Undefined a.abs := by
  refine undefined_of_repacked rfl ?_
  rw [show a.toModel.unpack = .notANumber from undefined]
  rfl

/-- A number is not negative if it has a positive sign or is the zero with the other one. -/
theorem nonneg_iff_signed {a : Float}
    : 0 ≤ a ↔ Signed .positive a.toModel.unpack ∨ a.toModel.unpack = .zero .negative := by
  rw [le_iff, unpack_zero]
  generalize a.toModel.unpack = stored
  constructor
  · intro nonneg
    cases stored with
    | notANumber => cases nonneg
    | infinity s => cases s with
      | negative => cases nonneg
      | positive => exact .inl .infinity
    | zero s => cases s with
      | negative => exact .inr rfl
      | positive => exact .inl .zero
    | finite s m e positive => cases s with
      | negative => cases nonneg
      | positive => exact .inl (.finite positive)
  · rintro (signed | rfl)
    · cases signed <;> rfl
    · rfl

/-- A finite number above zero is neither a zero nor an infinity. -/
theorem exists_of_positive {a : Float} (finite : a.toModel.unpack.isFinite = true)
    (positive : 0 < a)
    : ∃ m e pos, a.toModel.unpack = .finite .positive m e pos := by
  rw [lt_iff, unpack_zero] at positive
  generalize a.toModel.unpack = stored at *
  cases stored with
  | notANumber => cases finite
  | infinity s => cases finite
  | zero s => cases positive
  | finite s m e pos => cases s with
    | negative => cases positive
    | positive => exact ⟨m, e, pos, rfl⟩

instance : Scalar.Spoiling Float where
  zero_related := by decide +kernel
  related_left le := (le_self_iff _).mpr (defined_of_le le).1
  le_trans := FloatOrder.le_trans
  le_total {a b} left right := by
    rw [le_self_iff] at left right
    exact (le_total (place a) (place b)).imp (fun below => le_iff_place.mpr ⟨left, right, below⟩)
      fun above => le_iff_place.mpr ⟨right, left, above⟩
  related_of_add_left {a b} sum := by
    rw [le_self_iff] at sum ⊢
    exact fun undefined => sum (undefined_add_left undefined b)
  related_of_add_right {a b} sum := by
    rw [le_self_iff] at sum ⊢
    exact fun undefined => sum (undefined_add_right a undefined)
  related_of_abs {a} magnitude := by
    rw [le_self_iff] at magnitude ⊢
    exact fun undefined => magnitude (undefined_abs undefined)
  nonneg_abs {a} related := by
    obtain ⟨s, signed⟩ := exists_signed ((le_self_iff a).mp related)
    exact nonneg_iff_signed.mpr (.inl signed.abs.unpack_pack)
  nonneg_one_add {a} nonneg := by
    have sum : (1 + a).toModel.unpack
        = (Float.Model.pack (UnpackedFloat.add .binary64 (1 : Float).toModel.unpack
            a.toModel.unpack)).unpack := rfl
    rw [nonneg_iff_signed, sum, unpack_one]
    rcases nonneg_iff_signed.mp nonneg with signed | zero
    · exact .inl (Signed.add (.finite _) signed).unpack_pack
    · rw [zero]
      exact .inl (Signed.finite _).unpack_pack
  nonneg_mul {a b} finite positive nonneg := by
    obtain ⟨m, e, pos, stored⟩ := exists_of_positive finite positive
    rw [nonneg_iff_signed, unpack_mul, stored]
    rcases nonneg_iff_signed.mp nonneg with signed | zero
    · exact .inl (Signed.mul pos signed).unpack_pack
    · have product : UnpackedFloat.mul .binary64 (.finite .positive m e pos) (.zero .negative)
          = .zero .negative := rfl
      rw [zero, product]
      exact .inr rfl
  isFinite_of_abs_le {a bound} finite within :=
    Bool.eq_true_of_not_eq_false fun infinite => not_abs_le infinite finite within

end FloatOrder

variable {K : Type} [Scalar K] [Scalar.Spoiling K] {m n : Nat}

-----------------------------------------------------------------------------------------
-- Sums
-----------------------------------------------------------------------------------------

/-- Adding up to a number takes numbers only, by induction on the terms. -/
theorem related_of_foldl_add {start : K} {terms : List K}
    (related : terms.foldl (· + ·) start ≤ terms.foldl (· + ·) start)
    : start ≤ start ∧ ∀ a ∈ terms, a ≤ a := by
  induction terms generalizing start with
  | nil => exact ⟨related, fun a member => by cases member⟩
  | cons b rest ih =>
      obtain ⟨sum, numbers⟩ := ih related
      refine ⟨Scalar.Spoiling.related_of_add_left sum, fun a member => ?_⟩
      rcases List.mem_cons.mp member with rfl | later
      · exact Scalar.Spoiling.related_of_add_right sum
      · exact numbers a later

/-- Lanes and terms left over that are numbers come from numbers, by induction over the whole
blocks.
-/
theorem related_of_sumLanes {lanes : Vector K (4 + 4)} {terms : List K}
    (sums : ∀ i, (sumLanes lanes terms).1.get i ≤ (sumLanes lanes terms).1.get i)
    (rest : ∀ a ∈ (sumLanes lanes terms).2, a ≤ a)
    : (∀ i, lanes.get i ≤ lanes.get i) ∧ ∀ a ∈ terms, a ≤ a := by
  fun_induction sumLanes lanes terms with
  | case1 lanes a b c d e f g h terms ih =>
      obtain ⟨joined, later⟩ := ih sums rest
      have related (i : Fin (4 + 4))
          : lanes.get i + #v[a, b, c, d, e, f, g, h].get i
            ≤ lanes.get i + #v[a, b, c, d, e, f, g, h].get i := by
        simpa only [Vec.get_add, Pi.add_apply] using joined i
      have block (i : Fin (4 + 4)) := Scalar.Spoiling.related_of_add_right (related i)
      refine ⟨fun i => Scalar.Spoiling.related_of_add_left (related i), fun t member => ?_⟩
      simp only [List.mem_cons] at member
      obtain rfl | rfl | rfl | rfl | rfl | rfl | rfl | rfl | member := member
      exacts [block 0, block 1, block 2, block 3, block 4, block 5, block 6, block 7,
        later t member]
  | case2 lanes terms => exact ⟨sums, rest⟩

/-- A sum in lanes that is a number is one of numbers: both halves of the lanes enter it. -/
theorem related_of_lanedSum {terms : List K} (related : lanedSum terms ≤ lanedSum terms)
    : ∀ a ∈ terms, a ≤ a := by
  obtain ⟨halves, rest⟩ := related_of_foldl_add related
  refine (related_of_sumLanes (fun i => ?_) rest).2
  generalize (sumLanes (Vector.replicate (4 + 4) 0) terms).1 = lanes at *
  have joined (j : Fin 4)
      : lanes.get (j.castAdd 4) + lanes.get (j.natAdd 4)
        ≤ lanes.get (j.castAdd 4) + lanes.get (j.natAdd 4) := by
    refine (related_of_foldl_add halves).2 _ ?_
    rw [Vec.toList_eq_ofFn, List.mem_ofFn]
    exact ⟨j, by rw [Vec.get_add, Vec.get_left, Vec.get_right]; rfl⟩
  exact Fin.addCases (fun j => Scalar.Spoiling.related_of_add_left (joined j))
    (fun j => Scalar.Spoiling.related_of_add_right (joined j)) i

namespace Vec

/-- An inner product that is a number is one of numbers. -/
theorem related_of_dot {x y : Vector K n} (related : dot x y ≤ dot x y) (i : Fin n)
    : x.get i ≤ x.get i ∧ y.get i ≤ y.get i := by
  have product : x.get i * y.get i ≤ x.get i * y.get i := by
    refine related_of_lanedSum related _ ?_
    rw [toList_eq_ofFn, List.mem_ofFn]
    exact ⟨i, congrFun (get_zipWith _ x y) i⟩
  exact ⟨Scalar.Comparable.related_of_mul_left product,
    Scalar.Comparable.related_of_mul_right product⟩

end Vec

-----------------------------------------------------------------------------------------
-- Largest magnitudes
-----------------------------------------------------------------------------------------

namespace Scalar

variable {a b bound : K}

/-- The larger of a number and a value is above what is below the number. -/
theorem nonneg_max (nonneg : 0 ≤ a) : 0 ≤ Scalar.max a b := by
  unfold Scalar.max
  split
  case isTrue => exact nonneg
  case isFalse notBelow =>
    split
    case isTrue related =>
      refine Spoiling.le_trans nonneg ?_
      exact (Spoiling.le_total (Comparable.related_of_le nonneg) related).resolve_right notBelow
    case isFalse => exact nonneg

/-- The larger of a number and a value is within a bound if both are, an undefined value apart. -/
theorem max_le_iff_related (related : a ≤ a)
    : Scalar.max a b ≤ bound ↔ a ≤ bound ∧ (b ≤ b → b ≤ bound) := by
  unfold Scalar.max
  split
  case isTrue below =>
    exact ⟨fun within => ⟨within, fun _ => Spoiling.le_trans below within⟩, And.left⟩
  case isFalse notBelow =>
    split
    case isTrue related' =>
      have above := (Spoiling.le_total related related').resolve_right notBelow
      exact ⟨fun within => ⟨Spoiling.le_trans above within, fun _ => within⟩,
        fun within => within.2 related'⟩
    case isFalse undefined =>
      exact ⟨fun within => ⟨within, fun related' => absurd related' undefined⟩, And.left⟩

theorem abs_related_iff : Scalar.abs a ≤ Scalar.abs a ↔ a ≤ a :=
  ⟨Spoiling.related_of_abs, fun related => Comparable.related_of_le (Spoiling.nonneg_abs related)⟩

end Scalar

namespace Vec

/-- The entries that are numbers have magnitudes within a bound. -/
def Within (bound : K) (x : Vector K n) : Prop :=
  ∀ i, x.get i ≤ x.get i → Scalar.abs (x.get i) ≤ bound

/-- A bound on a largest magnitude is one on the entries that are numbers, by induction over the
fold.
-/
theorem maxAbs_le_iff_within {x : Vector K n} {bound : K}
    : maxAbs x ≤ bound ↔ 0 ≤ bound ∧ Within bound x := by
  have fold (start : K) (nonneg : 0 ≤ start) (values : List K)
      : values.foldl (fun largest v => Scalar.max largest (Scalar.abs v)) start ≤ bound
        ↔ start ≤ bound ∧ ∀ v ∈ values, v ≤ v → Scalar.abs v ≤ bound := by
    induction values generalizing start with
    | nil => simp
    | cons v rest ih =>
        rw [List.foldl_cons, ih _ (Scalar.nonneg_max nonneg),
          Scalar.max_le_iff_related (Scalar.Comparable.related_of_le nonneg),
          Scalar.abs_related_iff, List.forall_mem_cons, and_assoc]
  rw [maxAbs, fold _ Scalar.Spoiling.zero_related, toList_eq_ofFn]
  simp [Within]

theorem nonneg_maxAbs (x : Vector K n) : 0 ≤ maxAbs x := by
  have fold (start : K) (nonneg : 0 ≤ start) (values : List K)
      : 0 ≤ values.foldl (fun largest v => Scalar.max largest (Scalar.abs v)) start := by
    induction values generalizing start with
    | nil => exact nonneg
    | cons v rest ih => exact ih _ (Scalar.nonneg_max nonneg)
  exact fold 0 Scalar.Spoiling.zero_related x.toList

end Vec

end QuadraticTrials

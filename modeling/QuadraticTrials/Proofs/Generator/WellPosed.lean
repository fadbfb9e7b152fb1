import Mathlib
import QuadraticTrials.Proofs.Exact.Convexity
import QuadraticTrials.Proofs.Generator.Spectrum
import QuadraticTrials.Proofs.Uniform

/-!
Generated instances are well posed: their costs are strictly convex and well scaled, and the origin
is strictly feasible. The generator fails exactly if its scale is unusable or if it rejects all its
draws.
-/

namespace QuadraticTrials

open Matrix

/-- The state of a stream after a number of words. -/
def Stream.skip (words : Nat) (s : Stream) : Stream :=
  (fun s => s.next.2)^[words] s

theorem Stream.skip_skip (s : Stream) (more words : Nat)
    : (s.skip words).skip more = s.skip (more + words) :=
  (Function.iterate_add_apply _ more words s).symm

namespace Generator

-----------------------------------------------------------------------------------------
-- Draws
-----------------------------------------------------------------------------------------

section Draws

variable {K : Type} [Scalar K]

/-- The factor that is drawn after a number of earlier ones. -/
def factorAt (earlier : Nat) (s : Stream) : Dense K 2 2 :=
  (drawFactor ((fun s => (drawFactor (K := K) s).2)^[earlier] s)).1

/-- A cost at a scale is rejected. -/
def Rejects [SymmetricSpectrum K] (scale : K) (v : Dense K 2 2) : Prop :=
  isWellConditioned (costOf v scale) = false

variable [SymmetricSpectrum K] {scale : K}

/-- No cost is drawn exactly if all drawn factors are rejected, by induction on the draws. -/
theorem drawCost_eq_none {draws : Nat} {s : Stream}
    : (drawCost scale draws s).1 = none ↔ ∀ k < draws, Rejects scale (factorAt k s) := by
  induction draws generalizing s with
  | zero => simp [drawCost]
  | succ draws ih =>
      have first : (factorAt 0 s : Dense K 2 2) = (drawFactor s).1 := rfl
      have later (k : Nat) : (factorAt (k + 1) s : Dense K 2 2)
          = factorAt k (drawFactor (K := K) s).2 := rfl
      rw [Nat.forall_lt_succ_left, first]
      simp only [later]
      rw [← ih, drawCost]
      simp only [Rejects]
      cases accepted : isWellConditioned (costOf (drawFactor s).1 scale) <;> simp

/-- An accepted cost follows rejected ones, and each of them takes four words, by induction on the
draws.
-/
theorem drawCost_eq_some {draws : Nat} {s s' : Stream} {p : Dense K 2 2}
    (drawn : drawCost scale draws s = (some p, s'))
    : ∃ earlier < draws,
        (∀ k < earlier, Rejects scale (factorAt k s)) ∧ p = costOf (factorAt earlier s) scale
        ∧ isWellConditioned p = true ∧ s' = s.skip (4 * (earlier + 1)) := by
  induction draws generalizing s with
  | zero => cases drawn
  | succ draws ih =>
      rw [drawCost] at drawn
      dsimp only at drawn
      split at drawn
      case isTrue accepted =>
        cases drawn
        exact ⟨0, draws.succ_pos, fun k below => absurd below k.not_lt_zero, rfl, accepted, rfl⟩
      case isFalse rejected =>
        obtain ⟨earlier, within, failed, rfl, accepted, rfl⟩ := ih drawn
        refine ⟨earlier + 1, Nat.succ_lt_succ within, ?_, rfl, accepted, ?_⟩
        · rw [Nat.forall_lt_succ_left]
          exact ⟨Bool.eq_false_iff.mpr rejected, failed⟩
        · exact Stream.skip_skip s _ 4

/-- The instance with a given cost. -/
def assemble (p : Dense K 2 2) (q0 q1 : K) (equality : Option (Block K)) : Instance K :=
  ⟨p.toGrid, [q0, q1], some fixedInequalities, equality⟩

/-- All that a call does if it makes an instance: it draws factors up to the first one that is
accepted, then two entries of the linear cost, then the coin for the equality.
-/
theorem generate_eq_ok {g g' : Generator K} {inst : Instance K}
    (made : g.generate scale = (.ok inst, g'))
    : Scalar.isPositive scale = true
      ∧ ∃ earlier < maxDraws, ∃ s,
          s = g.stream.skip (4 * (earlier + 1))
          ∧ (∀ k < earlier, Rejects scale (factorAt k g.stream))
          ∧ isWellConditioned (costOf (factorAt earlier g.stream) scale) = true
          ∧ inst
            = assemble (costOf (factorAt earlier g.stream) scale) ((uniform s).1 * scale)
                ((uniform (s.skip 1)).1 * scale)
                (if (uniform (s.skip 2)).1 < g.equalityProbability then some sumToZero else none)
          ∧ g' = { g with stream := s.skip 3 } := by
  unfold generate at made
  split at made
  case isFalse => cases made
  case isTrue usable =>
    dsimp only at made
    split at made
    · cases made
    rename_i p s drawn
    obtain ⟨earlier, within, rejected, rfl, accepted, rfl⟩ := drawCost_eq_some drawn
    cases made
    exact ⟨usable, earlier, within, _, rfl, rejected, accepted, rfl, rfl⟩

/-- What the generator makes of its stream: an accepted cost, a linear cost from two uniform values,
and perhaps the equality.
-/
structure Draws (scale : K) (inst : Instance K) (factor first second : Stream)
    (block? : Option (Block K))
    : Prop where
  usable : Scalar.isPositive scale = true
  accepted : isWellConditioned (costOf (drawFactor factor).1 scale) = true
  equality : block? = none ∨ block? = some sumToZero
  assembled
    : inst = assemble (costOf (drawFactor factor).1 scale) ((uniform first).1 * scale)
        ((uniform second).1 * scale) block?

/-- An instance is generated from draws. -/
theorem draws_of_generate {g g' : Generator K} {inst : Instance K}
    (made : g.generate scale = (.ok inst, g'))
    : ∃ factor first second block?, Draws scale inst factor first second block? := by
  obtain ⟨usable, earlier, -, s, -, -, accepted, rfl, -⟩ := generate_eq_ok made
  refine ⟨_, s, s.skip 1, _, usable, accepted, ?_, rfl⟩
  split
  · exact .inr rfl
  · exact .inl rfl

/-- The generator fails exactly if the scale is unusable or all draws are rejected. -/
theorem generate_fails_iff (g : Generator K)
    : (∃ fault, (g.generate scale).1 = .error fault)
      ↔ Scalar.isPositive scale = false
        ∨ ∀ k < maxDraws, Rejects scale (factorAt k g.stream) := by
  rw [← drawCost_eq_none]
  unfold generate
  cases usable : Scalar.isPositive scale with
  | false => simp
  | true =>
      cases drawn : drawCost scale maxDraws g.stream with
      | mk result s => cases result <;> simp

end Draws

-----------------------------------------------------------------------------------------
-- Drawn values
-----------------------------------------------------------------------------------------

variable {K : Type} [Field K] [LinearOrder K]

section Uniform

variable [IsStrictOrderedRing K]

/-- Uniform values lie between zero and one. -/
theorem uniform_mem (s : Stream) : (uniform s).1 ∈ Set.Ico (0 : K) 1 :=
  ⟨not_lt.mp (not_uniform_lt_zero s), uniform_lt_one s⟩

/-- A drawn factor has uniform entries. -/
theorem drawFactor_mem (s : Stream) (i j : Fin 2)
    : (drawFactor s).1.toMatrix i j ∈ Set.Ico (0 : K) 1 := by
  fin_cases i <;> fin_cases j <;> exact uniform_mem _

/-- A value between zero and one, scaled. -/
theorem scaled_mem {a scale : K} (member : a ∈ Set.Ico 0 1) (positive : 0 < scale)
    : a * scale ∈ Set.Ico 0 scale :=
  ⟨mul_nonneg member.1 positive.le, mul_lt_of_lt_one_left positive member.2⟩

end Uniform

-----------------------------------------------------------------------------------------
-- Costs
-----------------------------------------------------------------------------------------

section Cost

/-- The cost of a factor is the scaled product of the factor and its transpose. -/
theorem toMatrix_costOf [CharZero K] (v : Dense K 2 2) (scale : K)
    : (costOf v scale).toMatrix = scale • (v.toMatrix * v.toMatrixᵀ) := by
  have symmetric : (v.toMatrix * v.toMatrixᵀ)ᵀ = v.toMatrix * v.toMatrixᵀ := by
    rw [transpose_mul, transpose_transpose]
  simp only [costOf, Dense.toMatrix_map_mul, Dense.toMatrix_plus, Dense.toMatrix_transpose,
    Dense.toMatrix_product, symmetric, Scalar.ratio_eq_div]
  module

theorem isSymm_costOf [CharZero K] (v : Dense K 2 2) (scale : K)
    : (costOf v scale).toMatrix.IsSymm := by
  rw [IsSymm, toMatrix_costOf, transpose_smul, transpose_mul, transpose_transpose]

variable [IsStrictOrderedRing K] {v : Dense K 2 2} {scale : K}

/-- A nonsingular cost is definite: its form is the squared length of the image under the transposed
factor, which vanishes only at the origin.
-/
theorem definite_costOf (positive : 0 < scale) (regular : (costOf v scale).toMatrix.det ≠ 0)
    : Definite (costOf v scale).toMatrix := by
  intro x nonzero
  have form : x ⬝ᵥ (costOf v scale).toMatrix *ᵥ x
      = scale * (v.toMatrixᵀ *ᵥ x ⬝ᵥ v.toMatrixᵀ *ᵥ x) := by
    rw [toMatrix_costOf, smul_mulVec, dotProduct_smul, smul_eq_mul, ← mulVec_mulVec,
      dotProduct_mulVec, ← mulVec_transpose]
  have image : v.toMatrixᵀ *ᵥ x ≠ 0 := by
    intro vanishes
    refine nonzero (eq_zero_of_mulVec_eq_zero regular ?_)
    rw [toMatrix_costOf, smul_mulVec, ← mulVec_mulVec, vanishes, mulVec_zero, smul_zero]
  rw [form]
  exact mul_pos positive (dotProduct_self_pos image)

/-- The entries of a cost, as sums of two scaled products. -/
theorem costOf_mem (positive : 0 < scale) (unit : ∀ i j, v.toMatrix i j ∈ Set.Ico (0 : K) 1)
    (i j : Fin 2)
    : (costOf v scale).toMatrix i j ∈ Set.Ico 0 (2 * scale) := by
  have product (k : Fin 2) : v.toMatrix i k * v.toMatrix j k ∈ Set.Ico (0 : K) 1 :=
    ⟨mul_nonneg (unit i k).1 (unit j k).1,
      mul_lt_one_of_nonneg_of_lt_one_left (unit i k).1 (unit i k).2 (unit j k).2.le⟩
  have sum : v.toMatrix i 0 * v.toMatrix j 0 + v.toMatrix i 1 * v.toMatrix j 1
      ∈ Set.Ico (0 : K) 2 :=
    ⟨add_nonneg (product 0).1 (product 1).1, by linarith [(product 0).2, (product 1).2]⟩
  have entry : (costOf v scale).toMatrix i j
      = scale * (v.toMatrix i 0 * v.toMatrix j 0 + v.toMatrix i 1 * v.toMatrix j 1) := by
    rw [toMatrix_costOf, Matrix.smul_apply, mul_apply, Fin.sum_univ_two, smul_eq_mul]
    rfl
  rw [entry]
  exact ⟨mul_nonneg positive.le sum.1, by nlinarith [sum.2]⟩

end Cost

-----------------------------------------------------------------------------------------
-- Generated instances
-----------------------------------------------------------------------------------------

section Assembled

variable {p : Dense K 2 2} {q0 q1 : K} {block? : Option (Block K)}

omit [LinearOrder K] in
theorem entry_toGrid {m n : Nat} (a : Dense K m n) (i : Fin m) (j : Fin n)
    : a.toGrid.entry i j = a.toMatrix i j :=
  dif_pos ⟨i.isLt, j.isLt⟩

theorem costMatrix_assemble : (assemble p q0 q1 block?).costMatrix = p.toMatrix := by
  ext i j
  exact entry_toGrid p i j

/-- An instance with one of the two choices for the equality passes the check. -/
theorem check_assemble (equality : block? = none ∨ block? = some sumToZero)
    : (assemble p q0 q1 block?).check = .ok () := by
  have finite (values : List K) : Instance.allFinite values = true :=
    List.all_eq_true.mpr fun _ _ => rfl
  rcases equality with rfl | rfl <;>
    simp [Instance.check, Instance.checkBlock, assemble, Instance.numVars, fixedInequalities,
      sumToZero, Dense.toGrid, finite]

variable [IsStrictOrderedRing K]

theorem inequalityVector_pos (i : Fin (assemble p q0 q1 block?).numInequalities)
    : 0 < (assemble p q0 q1 block?).inequalityVector i := by
  change Fin 3 at i
  fin_cases i <;> simp [Instance.inequalityVector, Instance.blockConstants, assemble,
    fixedInequalities]

omit [IsStrictOrderedRing K] in
theorem equalityVector_eq_zero (equality : block? = none ∨ block? = some sumToZero)
    : (assemble p q0 q1 block?).equalityVector = 0 := by
  rcases equality with rfl | rfl
  · funext i
    exact i.elim0
  · funext i
    change Fin 1 at i
    fin_cases i
    rfl

omit [IsStrictOrderedRing K] in
/-- The row of the equality is not zero. -/
theorem equalityMatrix_independent (equality : block? = none ∨ block? = some sumToZero)
    : LinearIndependent K (assemble p q0 q1 block?).equalityMatrix.row := by
  rcases equality with rfl | rfl
  · have : IsEmpty (Fin (assemble p q0 q1 (none : Option (Block K))).numEqualities) :=
      inferInstanceAs (IsEmpty (Fin 0))
    exact linearIndependent_empty_type
  · let : Unique (Fin (assemble p q0 q1 (some (sumToZero : Block K))).numEqualities) :=
      inferInstanceAs (Unique (Fin 1))
    refine linearIndependent_unique_iff.mpr fun vanishes => ?_
    have entry : (assemble p q0 q1 (some sumToZero)).equalityMatrix default (0 : Fin 2) = 1 :=
      entry_toGrid (#v[#v[1, 1]] : Dense K 1 2) 0 0
    exact one_ne_zero (entry.symm.trans (congrFun vanishes (0 : Fin 2)))

end Assembled

section Generated

variable [IsStrictOrderedRing K] [SymmetricSpectrum K] [SymmetricSpectrum.Exact K] {scale : K}
  {inst : Instance K} {factor first second : Stream} {block? : Option (Block K)}

namespace Draws

variable (draws : Draws scale inst factor first second block?)

include draws

omit [IsStrictOrderedRing K] [SymmetricSpectrum.Exact K] in
theorem scale_pos : 0 < scale :=
  Scalar.isPositive_eq_true_iff.mp draws.usable

/-- The cost that is drawn is strictly convex. -/
theorem strictlyConvex : inst.StrictlyConvexCost := by
  have symmetric := isSymm_costOf (drawFactor (K := K) factor).1 scale
  have regular := det_ne_zero_of_accepted symmetric draws.accepted
  have definite := definite_costOf draws.scale_pos regular
  rw [draws.assembled]
  constructor
  · rw [costMatrix_assemble]
    exact symmetric
  · rw [costMatrix_assemble]
    exact definite

omit [SymmetricSpectrum.Exact K] in
/-- The origin is strictly inside the inequalities, and on the equality if there is one. -/
theorem strictlyFeasible_zero : inst.StrictlyFeasible 0 := by
  rw [draws.assembled]
  constructor
  · intro i
    rw [mulVec_zero]
    exact inequalityVector_pos i
  · rw [mulVec_zero, equalityVector_eq_zero draws.equality]

end Draws

end Generated

end Generator

-----------------------------------------------------------------------------------------
-- Well-posed instances
-----------------------------------------------------------------------------------------

/-- An instance of two variables at a cost scale has one solution at most, and cannot fail to have
one for lack of feasible points or of a bound: its cost is strictly convex and well scaled, and the
origin is strictly feasible.
-/
structure Instance.WellPosed {K : Type} [Field K] [LinearOrder K] (inst : Instance K) (scale : K)
    : Prop where
  numVars_eq : inst.numVars = 2
  factored
    : ∃ V : Matrix (Fin inst.numVars) (Fin inst.numVars) K,
        (∀ i j, V i j ∈ Set.Ico 0 1) ∧ inst.costMatrix = scale • (V * Vᵀ)
  convex : inst.StrictlyConvexCost
  spectral : (spectrum K inst.costMatrix).Nonempty
  conditioned
    : ∀ l ∈ spectrum K inst.costMatrix, ∀ u ∈ spectrum K inst.costMatrix, 1 / 10 ^ 12 * u < l
  cost_mem : ∀ i j, inst.costMatrix i j ∈ Set.Ico 0 (2 * scale)
  linear_mem : ∀ i, inst.costVector i ∈ Set.Ico 0 scale
  valid : inst.validate = .ok ()
  origin : inst.StrictlyFeasible 0
  bounded : ∃ bound, ∀ x, inst.Feasible x → bound ≤ inst.value x
  unique : ∀ x x', inst.Minimizes x → inst.Minimizes x' → x = x'

namespace Generator

variable {K : Type} [Field K] [LinearOrder K] [IsStrictOrderedRing K] [SymmetricSpectrum K]
  [SymmetricSpectrum.Exact K] {scale : K} {inst : Instance K}

/-- What is made of draws is well posed. -/
theorem Draws.wellPosed {factor first second : Stream} {block? : Option (Block K)}
    (draws : Draws scale inst factor first second block?)
    : inst.WellPosed scale := by
  have positive := draws.scale_pos
  have convex := draws.strictlyConvex
  have origin := draws.strictlyFeasible_zero
  obtain ⟨-, accepted, equality, rfl⟩ := draws
  have unit := drawFactor_mem (K := K) factor
  have symmetric := isSymm_costOf (drawFactor (K := K) factor).1 scale
  refine {
    numVars_eq := rfl
    factored := ⟨(drawFactor factor).1.toMatrix, unit, ?_⟩
    convex
    spectral := ?_
    conditioned := ?_
    cost_mem := ?_
    linear_mem := ?_
    valid := ?_
    origin
    bounded := ?_
    unique := fun x x' => convex.eq_of_minimizes
  }
  · rw [costMatrix_assemble]
    exact toMatrix_costOf _ scale
  · rw [costMatrix_assemble]
    exact ((isWellConditioned_iff symmetric).mp accepted).1
  · rw [costMatrix_assemble]
    exact fun l member => (conditioned_of_accepted symmetric accepted l member).2
  · rw [costMatrix_assemble]
    exact costOf_mem positive unit
  · intro i
    change Fin 2 at i
    fin_cases i
    · exact scaled_mem (uniform_mem first) positive
    · exact scaled_mem (uniform_mem second) positive
  · rw [Instance.validate, check_assemble equality]
    rfl
  · obtain ⟨bound, below⟩ := convex.exists_le_value
    exact ⟨bound, fun x _ => below x⟩

/-- The first factor that seed seven gives. -/
theorem toMatrix_drawFactor_seven
    : (drawFactor (K := ℝ) (.ofSeed 7)).1.toMatrix
      = !![6310231968177966 / 2 ^ 53, 7562691848873359 / 2 ^ 53;
           2510767866374405 / 2 ^ 53, 8836942697582606 / 2 ^ 53] := by
  have value {s : Stream} {n : Nat} (word : (s.next.1 >>> 11).toNat = n)
      : (uniform s).1 = (n : ℝ) / 2 ^ 53 := by
    norm_num [uniform, word, Scalar.ratio_eq_div]
  let s : Stream := .ofSeed 7
  have a := value (show (s.next.1 >>> 11).toNat = 6310231968177966 by decide +kernel)
  have b := value (show (s.next.2.next.1 >>> 11).toNat = 2510767866374405 by decide +kernel)
  have c := value (show (s.next.2.next.2.next.1 >>> 11).toNat = 7562691848873359 by decide +kernel)
  have d := value
    (show (s.next.2.next.2.next.2.next.1 >>> 11).toNat = 8836942697582606 by decide +kernel)
  ext i j
  fin_cases i <;> fin_cases j
  · exact_mod_cast a
  · exact_mod_cast c
  · exact_mod_cast b
  · exact_mod_cast d

theorem accepted_seven
    : isWellConditioned (costOf (drawFactor (K := ℝ) (.ofSeed 7)).1 100) = true := by
  refine accepted_of_det (isSymm_costOf _ _) ?_ ?_ <;>
    rw [toMatrix_costOf, toMatrix_drawFactor_seven] <;>
    norm_num [trace_fin_two, det_fin_two, vecMul, dotProduct, Fin.sum_univ_two]

/-- The first draw of seed seven is accepted, so that its first call cannot fail. -/
theorem exists_generated_seven
    : ∃ inst g', (ofSeed 7 (1 / 2) : Generator ℝ).generate 100 = (.ok inst, g') := by
  cases made : (ofSeed 7 (1 / 2) : Generator ℝ).generate 100 with
  | mk result g' =>
      cases result with
      | ok inst => exact ⟨inst, g', rfl⟩
      | error fault =>
          rcases (generate_fails_iff _).mp ⟨fault, congrArg Prod.fst made⟩ with unusable | rejected
          · rw [← Bool.not_eq_true, Scalar.isPositive_eq_true_iff] at unusable
            norm_num at unusable
          · have first : isWellConditioned (costOf (drawFactor (K := ℝ) (.ofSeed 7)).1 100)
                = false := rejected 0 (by decide)
            rw [accepted_seven] at first
            cases first

/-- Whatever came before, a generated instance is well posed at its scale. And on every number type
a call fails exactly if its scale is not a positive finite number or sixteen successive draws are
rejected.
-/
theorem wellPosed_of_generate {F : Type} [Scalar F] [SymmetricSpectrum F]
    : (∀ (g g' : Generator K) (scale : K) (inst : Instance K),
        g.generate scale = (.ok inst, g') → inst.WellPosed scale)
        ∧ ∀ (g : Generator F) (scale : F),
            (∃ fault, (g.generate scale).1 = .error fault)
              ↔ Scalar.isPositive scale = false
                ∨ ∀ k < 16, Rejects scale (factorAt k g.stream) := by
  constructor
  · intro g g' scale inst made
    obtain ⟨factor, first, second, block?, draws⟩ := draws_of_generate made
    exact draws.wellPosed
  · intro g scale
    exact generate_fails_iff g

/-- Seed seven gives a well-posed real instance at scale one hundred, and a negative scale fails. -/
theorem wellPosed_seven
    : (∃ inst g',
        (ofSeed 7 (1 / 2) : Generator ℝ).generate 100 = (.ok inst, g') ∧ inst.WellPosed 100)
      ∧ ∃ fault, ((ofSeed 7 (1 / 2) : Generator ℝ).generate (-1)).1 = .error fault := by
  obtain ⟨posed, fails⟩ := wellPosed_of_generate (K := ℝ) (F := ℝ)
  obtain ⟨inst, g', made⟩ := exists_generated_seven
  refine ⟨⟨inst, g', made, posed _ _ _ _ made⟩, (fails _ _).mpr (.inl ?_)⟩
  rw [← Bool.not_eq_true, Scalar.isPositive_eq_true_iff]
  norm_num

end Generator

end QuadraticTrials

import Mathlib
import QuadraticTrials.Proofs.Generator.Alignment
import QuadraticTrials.Proofs.Sweep.Endings

/-!
Cost scales change the magnitudes of generated instances and nothing else. The test for a cost is
relative, so that the same draws are rejected at every scale and generators of one seed stay on the
same draws.
-/

namespace QuadraticTrials

open Matrix
open scoped Pointwise

-----------------------------------------------------------------------------------------
-- Instances at scale one
-----------------------------------------------------------------------------------------

section PerUnit

variable {K : Type} [Div K]

/-- A matrix measured in a unit. -/
def Grid.perUnit (p : Grid K) (unit : K) : Grid K :=
  ⟨p.rows, p.cols, p.entries.map fun row => row.map (· / unit)⟩

/-- An instance with its cost terms measured in a unit. The constraints are kept. -/
def Instance.perUnit (inst : Instance K) (unit : K) : Instance K :=
  { inst with
    cost := inst.cost.perUnit unit
    linear := inst.linear.map (· / unit) }

end PerUnit

namespace Generator

variable {K : Type} [Field K] [LinearOrder K] [IsStrictOrderedRing K]

section Cost

variable {scale scale' : K} {v : Dense K 2 2}

omit [IsStrictOrderedRing K] in
theorem perUnit_assemble (nonzero : scale ≠ 0) (v : Dense K 2 2) (q0 q1 : K)
    (block? : Option (Block K))
    : (assemble (costOf v scale) (q0 * scale) (q1 * scale) block?).perUnit scale
      = assemble (costOf v 1) q0 q1 block? := by
  have cancel (a b : K) : a * (b * scale) / scale = a * (b * 1) := by
    rw [← mul_assoc, mul_div_cancel_right₀ _ nonzero, mul_one]
  have cost : (costOf v scale).map (fun row => row.map (· / scale)) = costOf v 1 := by
    simp only [costOf, Vector.map_map, Function.comp_def, cancel]
  simp only [Instance.perUnit, assemble, Grid.perUnit, Dense.toGrid, cost, List.map_cons,
    List.map_nil, mul_div_cancel_right₀ _ nonzero]

variable [SymmetricSpectrum K] [SymmetricSpectrum.Exact K]

/-- A cost that is accepted at one scale is accepted at every other: all its eigenvalues grow by the
same factor.
-/
theorem accepted_of_accepted (positive : 0 < scale) (positive' : 0 < scale')
    (accepted : isWellConditioned (costOf v scale) = true)
    : isWellConditioned (costOf v scale') = true := by
  have rescaled : (costOf v scale').toMatrix = (scale' / scale) • (costOf v scale).toMatrix := by
    rw [toMatrix_costOf, toMatrix_costOf, smul_smul, div_mul_cancel₀ _ positive.ne']
  have factor : 0 < scale' / scale := div_pos positive' positive
  let unit := Units.mk0 _ factor.ne'
  have spectra : spectrum K (costOf v scale').toMatrix
      = unit • spectrum K (costOf v scale).toMatrix := by
    rw [rescaled]
    exact spectrum.unit_smul_eq_smul _ unit
  rw [isWellConditioned_iff (isSymm_costOf v scale)] at accepted
  rw [isWellConditioned_iff (isSymm_costOf v scale'), spectra]
  refine ⟨accepted.1.smul_set, ?_⟩
  rintro _ ⟨l, lower, rfl⟩ _ ⟨u, upper, rfl⟩
  calc
    1 / 10 ^ 12 * |scale' / scale * u| = scale' / scale * (1 / 10 ^ 12 * |u|) := by
      rw [abs_mul, abs_of_pos factor, mul_left_comm]
    _ < scale' / scale * l := mul_lt_mul_of_pos_left (accepted.2 l lower u upper) factor

/-- Whether a cost is accepted does not depend on its scale. -/
theorem isWellConditioned_costOf (positive : 0 < scale) (positive' : 0 < scale') (v : Dense K 2 2)
    : isWellConditioned (costOf v scale) = isWellConditioned (costOf v scale') :=
  Bool.eq_iff_iff.mpr
    ⟨accepted_of_accepted positive positive', accepted_of_accepted positive' positive⟩

end Cost

-----------------------------------------------------------------------------------------
-- Calls
-----------------------------------------------------------------------------------------

section Calls

variable [SymmetricSpectrum K] [SymmetricSpectrum.Exact K]

/-- At every scale the same factor is accepted, if any, and the same words are drawn, by induction
on the draws.
-/
theorem exists_drawCost (draws : Nat) (s : Stream)
    : ∃ (v? : Option (Dense K 2 2)) (s' : Stream),
        ∀ scale, 0 < scale → drawCost scale draws s = (v?.map (costOf · scale), s') := by
  induction draws generalizing s with
  | zero => exact ⟨none, s, fun scale _ => rfl⟩
  | succ draws ih =>
      obtain ⟨v?, s', later⟩ := ih (drawFactor (K := K) s).2
      cases accepted : isWellConditioned (costOf (drawFactor (K := K) s).1 1) with
      | true =>
          refine ⟨some (drawFactor s).1, (drawFactor (K := K) s).2, fun scale positive => ?_⟩
          rw [isWellConditioned_costOf one_pos positive] at accepted
          exact if_pos accepted
      | false =>
          refine ⟨v?, s', fun scale positive => ?_⟩
          rw [isWellConditioned_costOf one_pos positive, ← Bool.not_eq_true] at accepted
          exact (if_neg accepted).trans (later scale positive)

/-- What a call makes, measured in its scale, and what it leaves do not depend on the scale. -/
theorem exists_generate (g : Generator K)
    : ∃ (made : Except (Fault K) (Instance K)) (g' : Generator K),
        ∀ scale, 0 < scale →
          (g.generate scale).1.map (·.perUnit scale) = made ∧ (g.generate scale).2 = g' := by
  obtain ⟨v?, s, drawn⟩ := exists_drawCost (K := K) maxDraws g.stream
  cases v? with
  | none =>
      refine ⟨.error .exhausted, { g with stream := s }, fun scale positive => ?_⟩
      rw [generate, if_pos (Scalar.isPositive_eq_true_iff.mpr positive), drawn scale positive]
      exact ⟨rfl, rfl⟩
  | some v =>
      refine ⟨.ok (assemble (costOf v 1) (uniform s).1 (uniform (s.skip 1)).1
        (if (uniform (s.skip 2)).1 < g.equalityProbability then some sumToZero else none)),
        { g with stream := s.skip 3 }, fun scale positive => ?_⟩
      rw [generate, if_pos (Scalar.isPositive_eq_true_iff.mpr positive), drawn scale positive]
      exact ⟨congrArg Except.ok (perUnit_assemble positive.ne' v _ _ _), rfl⟩

/-- Two calls that fail alike or make the same instance up to their scales, and leave the same
generator.
-/
structure InStep (call call' : K × Except (Fault K) (Instance K) × Generator K) : Prop where
  results : call.2.1.map (·.perUnit call.1) = call'.2.1.map (·.perUnit call'.1)
  generator : call.2.2 = call'.2.2

/-- Calls from one generator at two scales are in step. -/
theorem inStep_generate (g : Generator K) {scale scale' : K} (positive : 0 < scale)
    (positive' : 0 < scale')
    : InStep (scale, g.generate scale) (scale', g.generate scale') := by
  obtain ⟨made, g', same⟩ := exists_generate g
  exact ⟨(same scale positive).1.trans (same scale' positive').1.symm,
    (same scale positive).2.trans (same scale' positive').2.symm⟩

/-- Calls from one generator stay in step over any number of scales, by induction on both lists. -/
theorem inStep_calls (g : Generator K) {scales scales' : List K}
    (same : scales.length = scales'.length) (positive : ∀ scale ∈ scales, 0 < scale)
    (positive' : ∀ scale ∈ scales', 0 < scale)
    : List.Forall₂ InStep (scales.zip (g.calls scales)) (scales'.zip (g.calls scales')) := by
  induction scales generalizing g scales' with
  | nil =>
      rw [List.length_eq_zero_iff.mp same.symm]
      exact .nil
  | cons scale scales ih =>
      cases scales' with
      | nil => cases same
      | cons scale' scales' =>
          rw [List.forall_mem_cons] at positive positive'
          have first := inStep_generate g positive.1 positive'.1
          refine .cons first ?_
          rw [← first.generator]
          exact ih _ (Nat.succ_injective same) positive.2 positive'.2

end Calls

-----------------------------------------------------------------------------------------
-- Configurations
-----------------------------------------------------------------------------------------

section Configurations

variable [SymmetricSpectrum K] [SymmetricSpectrum.Exact K]

/-- Generators at one state stay in step whatever the scales are. In particular a seeded
configuration with other cost scales draws the same for each of its trials.
-/
theorem calls_rescaled
    : (∀ (g : Generator K) (scales scales' : List K),
        scales.length = scales'.length →
          (∀ scale ∈ scales, Scalar.isPositive scale = true) →
          (∀ scale ∈ scales', Scalar.isPositive scale = true) →
            List.Forall₂ InStep (scales.zip (g.calls scales)) (scales'.zip (g.calls scales')))
      ∧ ∀ (config : Config K) (scales : List K) (seed : UInt64),
          config.check = .ok () →
            { config with costScales := scales }.check = .ok () →
              config.costScales.length = scales.length →
                let g := ofSeed seed config.equalityProbability
                let other := { config with costScales := scales }.schedule
                List.Forall₂ InStep (config.schedule.zip (g.calls config.schedule))
                  (other.zip (g.calls other)) := by
  constructor
  · intro g scales scales' same positive positive'
    simp only [Scalar.isPositive_eq_true_iff] at positive positive'
    exact inStep_calls g same positive positive'
  · intro config scales seed accepted accepted' same g other
    have positive {config : Config K} (accepted : config.check = .ok ())
        : ∀ scale ∈ config.schedule, 0 < scale := fun scale member =>
      Scalar.isPositive_eq_true_iff.mp
        (Config.isPositive_of_check accepted (Config.mem_costScales member))
    refine inStep_calls g ?_ (positive accepted) (positive accepted')
    rw [Config.length_schedule, Config.length_schedule, Config.trialCount, Config.trialCount, same]

/-- Two rounds over given cost scales. -/
noncomputable def twoRounds (scales : List ℝ) : Config ℝ :=
  ⟨2, scales, 1, some 7, none, false, false, Scalar.ratio 1 2⟩

theorem check_twoRounds {c d : ℝ} (first : 0 < c) (second : 0 < d)
    : (twoRounds [c, d]).check = .ok () := by
  have usable : ∀ scale ∈ [c, d], Scalar.isPositive scale = true := by
    simp only [Scalar.isPositive_eq_true_iff]
    simp [first, second]
  have searched : [c, d].find? (fun scale => !Scalar.isPositive scale) = none := by
    simpa using usable
  have within : (2⁻¹ : ℝ) ≤ 1 := by norm_num
  simp [twoRounds, Config.check, searched, Scalar.isFinite, Scalar.ratio_eq_div, within]

/-- Seed seven makes its instance of scale one hundred at scale three, too, and two rounds over two
scales stay in step when their scales are replaced.
-/
theorem rescaled_seven
    : (∃ inst inst' g',
        (ofSeed 7 (1 / 2) : Generator ℝ).generate 100 = (.ok inst, g')
          ∧ (ofSeed 7 (1 / 2) : Generator ℝ).generate 3 = (.ok inst', g')
          ∧ inst.perUnit 100 = inst'.perUnit 3)
      ∧ (twoRounds [100, 500]).check = .ok ()
      ∧ (twoRounds [3, 4]).check = .ok ()
      ∧ List.Forall₂ InStep
          ((twoRounds [100, 500]).schedule.zip
            ((ofSeed 7 (Scalar.ratio 1 2)).calls (twoRounds [100, 500]).schedule))
          ((twoRounds [3, 4]).schedule.zip
            ((ofSeed 7 (Scalar.ratio 1 2)).calls (twoRounds [3, 4]).schedule)) := by
  obtain ⟨scales, configurations⟩ := calls_rescaled (K := ℝ)
  have accepted := check_twoRounds (c := 100) (d := 500) (by norm_num) (by norm_num)
  have accepted' := check_twoRounds (c := 3) (d := 4) (by norm_num) (by norm_num)
  refine ⟨?_, accepted, accepted', configurations (twoRounds [100, 500]) [3, 4] 7 accepted
    accepted' rfl⟩
  obtain ⟨inst, g', made⟩ := exists_generated_seven
  have usable {c : ℝ} (positive : 0 < c) : ∀ scale ∈ [c], Scalar.isPositive scale = true := by
    simpa using Scalar.isPositive_eq_true_iff.mpr positive
  have both := scales (ofSeed 7 (1 / 2)) [100] [3] rfl (usable (by norm_num))
    (usable (by norm_num))
  simp only [calls, List.zip_cons_cons, List.zip_nil_right, List.forall₂_cons] at both
  obtain ⟨⟨results, generator⟩, -⟩ := both
  rw [made] at results generator
  rcases made' : (ofSeed 7 (1 / 2) : Generator ℝ).generate 3 with ⟨fault | inst', left⟩
  · rw [made'] at results
    cases results
  · rw [made'] at results generator
    cases generator
    exact ⟨inst, inst', g', made, rfl, Except.ok.inj results⟩

end Configurations

end Generator

end QuadraticTrials

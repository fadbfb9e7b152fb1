import Mathlib
import QuadraticTrials.FloatSpectrum
import QuadraticTrials.Proofs.Generator.WellPosed

/-!
Generators of one seed stay on the same draws whatever their probability of an equality: the coin is
always thrown, and thrown last. A scale that is refused draws nothing, so refused calls can be put
anywhere between the others without a trace.
-/

namespace QuadraticTrials

namespace Generator

variable {K : Type} [Scalar K]

-----------------------------------------------------------------------------------------
-- Calls
-----------------------------------------------------------------------------------------

section Calls

variable [SymmetricSpectrum K]

/-- Calls at successive scales: the result of each, and the generator after it. -/
def calls : Generator K → List K → List (Except (Fault K) (Instance K) × Generator K)
  | _, [] => []
  | g, scale :: scales => g.generate scale :: (g.generate scale).2.calls scales

/-- The generator after calls at successive scales. -/
def after (g : Generator K) (scales : List K) : Generator K :=
  scales.foldl (fun g scale => (g.generate scale).2) g

/-- A call at an unusable scale leaves the generator as it is. -/
theorem generate_unusable (g : Generator K) {scale : K}
    (unusable : Scalar.isPositive scale = false)
    : g.generate scale = (.error (.badScale scale), g) := by
  rw [generate, unusable]
  rfl

/-- A call at an unusable scale only adds its own failure, by induction on the calls before it. -/
theorem calls_insert (g : Generator K) (before later : List K) {scale : K}
    (unusable : Scalar.isPositive scale = false)
    : g.calls (before ++ scale :: later)
      = (g.calls (before ++ later)).insertIdx before.length
          (.error (.badScale scale), g.after before) := by
  induction before generalizing g with
  | nil =>
      simp only [List.nil_append, calls, generate_unusable g unusable]
      rfl
  | cons first before ih =>
      simp only [List.cons_append, calls, ih, List.length_cons, List.insertIdx_succ_cons]
      rfl

/-- The calls at usable scales are those that are made if all others are left out, by induction on
the scales.
-/
theorem calls_filter (g : Generator K) (scales : List K)
    : g.calls (scales.filter Scalar.isPositive)
      = ((scales.zip (g.calls scales)).filter fun call => Scalar.isPositive call.1).map
          Prod.snd := by
  induction scales generalizing g with
  | nil => rfl
  | cons scale scales ih =>
      rw [List.filter_cons, calls, List.zip_cons_cons, List.filter_cons]
      cases usable : Scalar.isPositive scale with
      | false =>
          rw [generate_unusable g usable]
          exact ih g
      | true =>
          rw [if_pos rfl, if_pos rfl, calls, List.map_cons, ih]

end Calls

-----------------------------------------------------------------------------------------
-- Coins
-----------------------------------------------------------------------------------------

section Coins

variable [Scalar.Ordered K] [Scalar.Fractional K] {p p' : K}

/-- No coin falls on the side of a probability that is not positive. -/
theorem not_uniform_lt_clamp (never : p ≤ 0) (s : Stream)
    : ¬(uniform s).1 < Scalar.clamp p 0 1 := by
  intro wins
  refine not_uniform_lt_zero (K := K) s ?_
  unfold Scalar.clamp at wins
  split at wins
  · exact wins
  split at wins
  case isTrue above =>
    exact absurd (Scalar.Ordered.lt_of_lt_of_le above never) Scalar.Fractional.not_one_lt_zero
  · exact Scalar.Ordered.lt_of_lt_of_le wins never

/-- Every coin falls on the side of a probability of one or more. -/
theorem uniform_lt_clamp (always : 1 ≤ p) (s : Stream) : (uniform s).1 < Scalar.clamp p 0 1 := by
  unfold Scalar.clamp
  split
  case isTrue negative =>
    exact absurd (Scalar.Ordered.lt_of_le_of_lt always negative) Scalar.Fractional.not_one_lt_zero
  split
  · exact uniform_lt_one s
  · exact Scalar.Ordered.lt_of_lt_of_le (uniform_lt_one s) always

/-- A coin that falls on the side of a probability does so for a larger one. -/
theorem uniform_lt_clamp_of_le (le : p ≤ p') (s : Stream)
    (wins : (uniform s).1 < Scalar.clamp p 0 1)
    : (uniform s).1 < Scalar.clamp p' 0 1 := by
  have positive : ¬p < 0 := by
    intro negative
    rw [Scalar.clamp, if_pos negative] at wins
    exact not_uniform_lt_zero s wins
  unfold Scalar.clamp
  split
  case isTrue negative => exact absurd (Scalar.Ordered.lt_of_le_of_lt le negative) positive
  split
  · exact uniform_lt_one s
  case isFalse within =>
    have below : ¬1 < p := fun above => within (Scalar.Ordered.lt_of_lt_of_le above le)
    rw [Scalar.clamp, if_neg positive, if_neg below] at wins
    exact Scalar.Ordered.lt_of_lt_of_le wins le

end Coins

-----------------------------------------------------------------------------------------
-- Alignment
-----------------------------------------------------------------------------------------

section Alignment

/-- The same failure, or instances that differ at most in the equality, which the first has only if
the second has it.
-/
inductive Matches : Except (Fault K) (Instance K) → Except (Fault K) (Instance K) → Prop
  | failed (fault : Fault K) : Matches (.error fault) (.error fault)
  | made {inst inst' : Instance K} (cost : inst.cost = inst'.cost)
      (linear : inst.linear = inst'.linear) (inequality : inst.inequality = inst'.inequality)
      (equality : inst.equality.isSome → inst'.equality.isSome)
      : Matches (.ok inst) (.ok inst')

/-- Two calls with matching results that leave their generators at the same draw. -/
structure Aligned (call call' : Except (Fault K) (Instance K) × Generator K) : Prop where
  results : Matches call.1 call'.1
  stream : call.2.stream = call'.2.stream

/-- Two generators at the same draw, of which the second wins every coin that the first wins. -/
structure Coupled (g g' : Generator K) : Prop where
  stream : g.stream = g'.stream
  coins (s : Stream)
    : (uniform s).1 < g.equalityProbability → (uniform s).1 < g'.equalityProbability

theorem coupled_ofSeed [Scalar.Ordered K] [Scalar.Fractional K] (seed : UInt64) {p p' : K}
    (le : p ≤ p')
    : Coupled (ofSeed seed p) (ofSeed seed p') where
  stream := rfl
  coins := uniform_lt_clamp_of_le le

variable [SymmetricSpectrum K] {g g' : Generator K}

theorem equalityProbability_generate (g : Generator K) (scale : K)
    : (g.generate scale).2.equalityProbability = g.equalityProbability := by
  unfold generate
  split
  · dsimp only
    split <;> rfl
  · rfl

/-- One call keeps coupled generators aligned, since only the outcome of the coin differs. -/
theorem Coupled.generate (coupled : Coupled g g') (scale : K)
    : Aligned (g.generate scale) (g'.generate scale) := by
  cases usable : Scalar.isPositive scale with
  | false =>
      rw [generate_unusable g usable, generate_unusable g' usable]
      exact ⟨.failed _, coupled.stream⟩
  | true =>
      simp only [Generator.generate, usable, if_true, ← coupled.stream]
      obtain ⟨result, s⟩ := drawCost scale maxDraws g.stream
      cases result with
      | none => exact ⟨.failed _, rfl⟩
      | some p =>
          refine ⟨.made rfl rfl rfl fun present => ?_, rfl⟩
          dsimp only at present ⊢
          split at present
          case isTrue wins =>
            rw [if_pos (coupled.coins _ wins)]
            rfl
          case isFalse => cases present

theorem Coupled.after_generate (coupled : Coupled g g') (scale : K)
    : Coupled (g.generate scale).2 (g'.generate scale).2 where
  stream := (coupled.generate scale).stream
  coins s := by
    rw [equalityProbability_generate, equalityProbability_generate]
    exact coupled.coins s

/-- Coupled generators stay aligned over any calls, by induction on them. -/
theorem Coupled.calls (coupled : Coupled g g') (scales : List K)
    : List.Forall₂ Aligned (g.calls scales) (g'.calls scales) := by
  induction scales generalizing g g' with
  | nil => exact .nil
  | cons scale scales ih => exact .cons (coupled.generate scale) (ih (coupled.after_generate scale))

end Alignment

-----------------------------------------------------------------------------------------
-- Generated instances
-----------------------------------------------------------------------------------------

section Generated

variable [SymmetricSpectrum K]

/-- The equality of an instance at a probability: if there is one, then the coordinates sum to zero;
there is none at a probability that is not positive, and one at a probability of one or more.
-/
structure Tossed (p : K) (inst : Instance K) : Prop where
  choice : inst.equality = none ∨ inst.equality = some sumToZero
  never : p ≤ 0 → inst.equality = none
  always : 1 ≤ p → inst.equality = some sumToZero

/-- What a call that makes an instance draws: factors up to the first one that is accepted, two
entries of the linear cost and a coin.
-/
structure Spends (g : Generator K) (scale : K) (inst : Instance K) (g' : Generator K)
    (factors : Nat)
    : Prop where
  positive : 1 ≤ factors
  atMost : factors ≤ 16
  rejected : ∀ k < factors - 1, Rejects scale (factorAt k g.stream)
  accepted : isWellConditioned (costOf (factorAt (factors - 1) g.stream) scale) = true
  cost : inst.cost = (costOf (factorAt (factors - 1) g.stream) scale).toGrid
  stream : g'.stream = g.stream.skip (4 * factors + 3)

variable {g g' : Generator K} {scale : K} {inst : Instance K}

/-- The words that a call draws if it makes an instance. -/
theorem exists_spends (made : g.generate scale = (.ok inst, g'))
    : ∃ factors, Spends g scale inst g' factors := by
  obtain ⟨-, earlier, within, s, rfl, rejected, accepted, rfl, rfl⟩ := generate_eq_ok made
  refine ⟨earlier + 1, earlier.succ_pos, within, rejected, accepted, rfl, ?_⟩
  rw [Nat.add_comm _ 3]
  exact Stream.skip_skip g.stream 3 _

variable [Scalar.Ordered K] [Scalar.Fractional K] {p : K}

theorem tossed_of_generate (probability : g.equalityProbability = Scalar.clamp p 0 1)
    (made : g.generate scale = (.ok inst, g'))
    : Tossed p inst := by
  obtain ⟨-, earlier, -, s, -, -, -, rfl, -⟩ := generate_eq_ok made
  rw [probability]
  constructor
  · dsimp only [assemble]
    split
    · exact .inr rfl
    · exact .inl rfl
  · exact fun never => if_neg (not_uniform_lt_clamp never _)
  · exact fun always => if_pos (uniform_lt_clamp always _)

/-- All instances of a generator have the equality as its probability says, by induction on the
calls.
-/
theorem tossed_of_calls (probability : g.equalityProbability = Scalar.clamp p 0 1)
    {scales : List K} {call : Except (Fault K) (Instance K) × Generator K}
    (member : call ∈ g.calls scales) (made : call.1 = .ok inst)
    : Tossed p inst := by
  induction scales generalizing g with
  | nil => cases member
  | cons scale scales ih =>
      rcases List.mem_cons.mp member with rfl | later
      · exact tossed_of_generate probability (Prod.ext made rfl)
      · exact ih ((equalityProbability_generate g scale).trans probability) later

/-- Two generators of one seed stay aligned whatever is asked of them, and the one with the larger
probability has the equality wherever the other has it. An unusable scale draws nothing, so that
calls at unusable scales can be put in or left out without changing another call, and every
instance takes four words for each of its factors and three more.
-/
theorem calls_aligned
    : (∀ (seed : UInt64) (scales : List K) (p p' : K), p ≤ p' →
        List.Forall₂ Aligned ((ofSeed seed p).calls scales) ((ofSeed seed p').calls scales))
      ∧ (∀ (seed : UInt64) (scales : List K) (p : K),
          ∀ call ∈ (ofSeed seed p).calls scales, ∀ inst, call.1 = .ok inst → Tossed p inst)
      ∧ (∀ (g : Generator K) (before later : List K) (scale : K),
          Scalar.isPositive scale = false →
            g.calls (before ++ scale :: later)
            = (g.calls (before ++ later)).insertIdx before.length
                (.error (.badScale scale), g.after before))
      ∧ (∀ (g : Generator K) (scales : List K),
          g.calls (scales.filter Scalar.isPositive)
          = ((scales.zip (g.calls scales)).filter fun call => Scalar.isPositive call.1).map
              Prod.snd)
      ∧ ∀ (g g' : Generator K) (scale : K) (inst : Instance K),
          g.generate scale = (.ok inst, g') → ∃ factors, Spends g scale inst g' factors := by
  refine ⟨?_, ?_, ?_, calls_filter, ?_⟩
  · intro seed scales p p' le
    exact (coupled_ofSeed seed le).calls scales
  · intro seed scales p call member inst made
    exact tossed_of_calls rfl member made
  · intro g before later scale unusable
    exact calls_insert g before later unusable
  · intro g g' scale inst made
    exact exists_spends made

/-- On machine floats seed forty-two makes aligned instances at the probabilities of one and three
quarters, with the equality at the larger one only, and a negative scale between them draws nothing.
-/
theorem calls_aligned_floats
    : (0.25 : Float) ≤ 0.75
      ∧ List.Forall₂ Aligned ((ofSeed 42 (0.25 : Float)).calls [100, -1, 500])
          ((ofSeed 42 (0.75 : Float)).calls [100, -1, 500])
      ∧ ((ofSeed 42 (0.25 : Float)).calls [100, -1, 500]).map
            (fun call => call.1.toOption.map (·.equality.isSome))
          = [some false, none, some false]
      ∧ ((ofSeed 42 (0.75 : Float)).calls [100, -1, 500]).map
            (fun call => call.1.toOption.map (·.equality.isSome))
          = [some true, none, some true]
      ∧ (ofSeed 42 (0.75 : Float)).calls [100, -1, 500]
          = ((ofSeed 42 (0.75 : Float)).calls [100, 500]).insertIdx 1
              (.error (.badScale (-1)), (ofSeed 42 (0.75 : Float)).after [100])
      ∧ ∃ inst g',
          (ofSeed 42 (0.75 : Float)).generate 100 = (.ok inst, g') ∧ Tossed 0.75 inst
          ∧ ∃ factors, Spends (ofSeed 42 (0.75 : Float)) 100 inst g' factors := by
  obtain ⟨aligned, tossed, insert, -, spends⟩ := calls_aligned (K := Float)
  have within : (0.25 : Float) ≤ 0.75 := by decide +kernel
  refine ⟨within, aligned _ _ _ _ within, by decide +kernel, by decide +kernel, ?_, ?_⟩
  · exact insert _ [100] [500] (-1) (by decide +kernel)
  · have succeeds : ((ofSeed 42 (0.75 : Float)).generate 100).1.isOk = true := by decide +kernel
    rcases made : (ofSeed 42 (0.75 : Float)).generate 100 with ⟨fault | inst, g'⟩
    · rw [made] at succeeds
      cases succeeds
    · have first : ((.ok inst, g') : Except (Fault Float) (Instance Float) × Generator Float)
          ∈ (ofSeed 42 (0.75 : Float)).calls [100] := by
        rw [calls, made]
        exact List.mem_cons_self
      exact ⟨inst, g', rfl, tossed _ _ _ _ first _ rfl, spends _ _ _ _ made⟩

end Generated

end Generator

end QuadraticTrials

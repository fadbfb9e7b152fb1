import Mathlib
import QuadraticTrials.Proofs.InteriorPoint.Descent
import QuadraticTrials.Proofs.Spoiling

/-!
What the stopping test lets through when values may be infinite or undefined. The gap notices every
undefined slack and dual of an inequality and an undefined objective; an undefined residual goes
unnoticed, because the largest magnitude of a vector leaves it out.
-/

namespace QuadraticTrials

variable {n m p : Nat}

-----------------------------------------------------------------------------------------
-- What the test decides
-----------------------------------------------------------------------------------------

namespace Program

section Spoiling

variable {K : Type} [Scalar K] [Scalar.Spoiling K] {prog : Program K n m p} {it : Iterate K n m p}
  {res : Residuals K n m p} {value tolerance : K}

/-- What the stopping test sees: the residuals that are numbers and the gap are within a tolerance
of their scales.
-/
structure Settles (prog : Program K n m p) (it : Iterate K n m p) (res : Residuals K n m p)
    (value tolerance : K)
    : Prop where
  dual : Vec.Within (tolerance * prog.dualScale it.x) res.dual
  eq : Vec.Within (tolerance * prog.primalScale) res.eq
  ineq : Vec.Within (tolerance * prog.primalScale) res.ineq
  gap : it.gap ≤ tolerance * (1 + Scalar.abs value)

/-- The size of some vectors is measured by a number that is not negative. -/
theorem nonneg_scale {k l : Nat} (x : Vector K k) (y : Vector K l)
    : 0 ≤ 1 + Scalar.max (Vec.maxAbs x) (Vec.maxAbs y) :=
  Scalar.Spoiling.nonneg_one_add (Scalar.nonneg_max (Vec.nonneg_maxAbs x))

/-- Passing the test is to settle, since no bound of the test is negative. -/
theorem converged_iff_settles (finite : Scalar.isFinite tolerance = true)
    (positive : 0 < tolerance)
    : prog.converged it res value tolerance = true ↔ prog.Settles it res value tolerance := by
  have primal := Scalar.Spoiling.nonneg_mul finite positive (nonneg_scale prog.b prog.h)
  have dual
      := Scalar.Spoiling.nonneg_mul finite positive (nonneg_scale prog.q (prog.P.mul it.x))
  have related : Vec.maxAbs res.eq ≤ Vec.maxAbs res.eq :=
    Scalar.Comparable.related_of_le (Vec.nonneg_maxAbs res.eq)
  have related' : Vec.maxAbs res.ineq ≤ Vec.maxAbs res.ineq :=
    Scalar.Comparable.related_of_le (Vec.nonneg_maxAbs res.ineq)
  simp only [converged, Bool.and_eq_true, decide_eq_true_eq]
  rw [Residuals.primalNorm, Residuals.dualNorm, Scalar.max_le_iff_related related,
    imp_iff_right related']
  simp only [Vec.maxAbs_le_iff_within]
  constructor
  · rintro ⟨⟨⟨⟨-, eq⟩, -, ineq⟩, -, stationary⟩, gap⟩
    exact ⟨stationary, eq, ineq, gap⟩
  · rintro ⟨stationary, eq, ineq, gap⟩
    exact ⟨⟨⟨⟨primal, eq⟩, primal, ineq⟩, dual, stationary⟩, gap⟩

/-- The gap of a point that passes the test notices undefined slacks and duals, and the size of the
objective an undefined objective.
-/
theorem related_of_converged (converged : prog.converged it res value tolerance = true)
    : value ≤ value ∧ ∀ i, it.s.get i ≤ it.s.get i ∧ it.z.get i ≤ it.z.get i := by
  simp only [Program.converged, Bool.and_eq_true, decide_eq_true_eq] at converged
  have gap := converged.2
  have scale := Scalar.Comparable.related_of_mul_right (Scalar.Comparable.related_of_le gap)
  exact ⟨Scalar.Spoiling.related_of_abs (Scalar.Spoiling.related_of_add_right scale),
    Vec.related_of_dot (Scalar.Spoiling.related_left gap)⟩

end Spoiling

end Program

-----------------------------------------------------------------------------------------
-- Undefined residuals
-----------------------------------------------------------------------------------------

open FloatOrder

/-- The residuals are finite and within bounds. -/
structure Residuals.Bounded (res : Residuals Float n m p) (dualBound primalBound : Float)
    : Prop where
  dual : ∀ i, (res.dual.get i).isFinite = true ∧ (res.dual.get i).abs ≤ dualBound
  eq : ∀ i, (res.eq.get i).isFinite = true ∧ (res.eq.get i).abs ≤ primalBound
  ineq : ∀ i, (res.ineq.get i).isFinite = true ∧ (res.ineq.get i).abs ≤ primalBound

/-- The residuals are numbers. -/
structure Residuals.Defined (res : Residuals Float n m p) : Prop where
  dual : ∀ i, ¬Undefined (res.dual.get i)
  eq : ∀ i, ¬Undefined (res.eq.get i)
  ineq : ∀ i, ¬Undefined (res.ineq.get i)

namespace Program

/-- A vector whose numbers are within a finite bound is finite and within it exactly if it has
numbers only.
-/
theorem bounded_iff_defined {x : Vector Float n} {bound : Float} (within : Vec.Within bound x)
    (finite : bound.isFinite = true)
    : (∀ i, (x.get i).isFinite = true ∧ (x.get i).abs ≤ bound) ↔ ∀ i, ¬Undefined (x.get i) := by
  constructor
  · exact fun bounded i undefined => (defined_of_le (bounded i).2).1 (undefined_abs undefined)
  · intro defined i
    have inside := within i ((le_self_iff _).mpr (defined i))
    exact ⟨Scalar.Spoiling.isFinite_of_abs_le finite inside, inside⟩

/-- On machine floats a point passes the test exactly if its residuals that are numbers and its gap
are within the tolerance of their scales. It then has numbers as slacks, inequality duals and
objective; and its residuals are all finite and within finite bounds exactly if they are numbers.
-/
theorem converged_iff_and_bounded {prog : Program Float n m p} {it : Iterate Float n m p}
    {res : Residuals Float n m p} {value tolerance : Float} (finite : tolerance.isFinite = true)
    (positive : 0 < tolerance)
    : (prog.converged it res value tolerance = true
        ↔ (∀ i, ¬Undefined (res.dual.get i) →
              (res.dual.get i).abs ≤ tolerance * prog.dualScale it.x)
            ∧ (∀ i, ¬Undefined (res.eq.get i) →
              (res.eq.get i).abs ≤ tolerance * prog.primalScale)
            ∧ (∀ i, ¬Undefined (res.ineq.get i) →
              (res.ineq.get i).abs ≤ tolerance * prog.primalScale)
            ∧ it.gap ≤ tolerance * (1 + value.abs))
      ∧ (prog.converged it res value tolerance = true →
          (¬Undefined value ∧ ∀ i, ¬Undefined (it.s.get i) ∧ ¬Undefined (it.z.get i))
            ∧ ((tolerance * prog.dualScale it.x).isFinite = true →
              (tolerance * prog.primalScale).isFinite = true →
              (res.Bounded (tolerance * prog.dualScale it.x) (tolerance * prog.primalScale)
                ↔ res.Defined))) := by
  have decides
      : prog.converged it res value tolerance = true ↔ prog.Settles it res value tolerance :=
    converged_iff_settles finite positive
  simp only [← le_self_iff]
  refine ⟨decides.trans ⟨?_, ?_⟩, fun converged => ⟨related_of_converged converged, ?_⟩⟩
  · rintro ⟨dual, eq, ineq, gap⟩
    exact ⟨dual, eq, ineq, gap⟩
  · rintro ⟨dual, eq, ineq, gap⟩
    exact ⟨dual, eq, ineq, gap⟩
  · intro dualFinite primalFinite
    obtain ⟨dual, eq, ineq, -⟩ := decides.mp converged
    have dual := bounded_iff_defined dual dualFinite
    have eq := bounded_iff_defined eq primalFinite
    have ineq := bounded_iff_defined ineq primalFinite
    exact ⟨fun bounded => ⟨dual.mp bounded.dual, eq.mp bounded.eq, ineq.mp bounded.ineq⟩,
      fun defined => ⟨dual.mpr defined.dual, eq.mpr defined.eq, ineq.mpr defined.ineq⟩⟩

/-- The parabola `x ^ 2 / 2 - 2 x` under `x ≤ 1` in slack form. -/
def slackParabola : Program Float 1 1 0 :=
  ⟨.replicate 1 (.replicate 1 1), .replicate 1 (-2), .replicate 1 (.replicate 1 1), .replicate 1 1,
    Vec.empty, Vec.empty⟩

/-- A point just off the minimum of the parabola. -/
def nearMinimum : Iterate Float 1 1 0 :=
  ⟨.replicate 1 1, .replicate 1 0.001, .replicate 1 1, Vec.empty⟩

/-- Just off its minimum the parabola settles with finite residuals. -/
theorem nearMinimum_bounded
    : slackParabola.converged nearMinimum (slackParabola.residuals nearMinimum) (-1.5) 0.01 = true
      ∧ (slackParabola.residuals nearMinimum).Bounded
          (0.01 * slackParabola.dualScale nearMinimum.x) (0.01 * slackParabola.primalScale) := by
  have converged
      : slackParabola.converged nearMinimum (slackParabola.residuals nearMinimum) (-1.5) 0.01
        = true := by
    decide +kernel
  have bounded :=
    ((converged_iff_and_bounded (by decide +kernel) (by decide +kernel)).2 converged).2
  exact ⟨converged, (bounded (by decide +kernel) (by decide +kernel)).mpr
    ⟨by decide +kernel, by decide +kernel, by decide +kernel⟩⟩

end Program

namespace InteriorPoint

open FloatOrder

/-- A program in three variables whose starting point is so far out that the terms of two of its
residuals overflow, to infinities of both signs.
-/
def overflowing : Instance Float :=
  ⟨⟨3, 3, #v[#v[1, 0, 0], #v[0, 1, 0], #v[0, 0, 1]]⟩, [-1e149, -1e149, 1e150],
    some ⟨⟨3, 3, #v[#v[0, 0, 0], #v[1e150, -1e150, 0], #v[-1e150, 5e149, 0]]⟩, [1e160, 0, 0]⟩,
    none⟩

/-- Residuals that are no numbers pass the stopping test. A valid program in three variables is
answered with its starting point as optimal, at which a residual is undefined.
-/
theorem converges_undefined
    : (¬∀ {n m p : Nat} (prog : Program Float n m p) (it : Iterate Float n m p)
          (res : Residuals Float n m p) (value tolerance : Float),
          tolerance.isFinite = true → 0 < tolerance →
          prog.converged it res value tolerance = true →
          res.Bounded (tolerance * prog.dualScale it.x) (tolerance * prog.primalScale))
      ∧ overflowing.validate = .ok ()
      ∧ (∃ solution,
          solve .standard ⟨false, none, some 0⟩ overflowing = .ok solution
            ∧ solution.status = .optimal)
      ∧ ∃ run,
          start? .standard ⟨false, none, some 0⟩ overflowing = .ok run
            ∧ run.ending = .converged
            ∧ Undefined (run.last.residuals.dual.get ⟨0, by decide⟩) := by
  obtain ⟨run, started, computed⟩
      : ∃ run,
          start? .standard ⟨false, none, some 0⟩ overflowing = .ok run
            ∧ (run.ending, decide (Undefined (run.last.residuals.dual.get ⟨0, by decide⟩)))
              = (.converged, true) :=
    ok_of_computed (by decide +kernel)
  obtain ⟨ended, undefined⟩ := Prod.mk.inj computed
  have undefined := of_decide_eq_true undefined
  have reports : run.Reports
      ⟨run.last.iterate.x.toList, .optimal, run.last.objective, run.last.index⟩ :=
    ⟨rfl, by rw [ended]; rfl, rfl, rfl⟩
  refine ⟨fun sound => ?_, by decide +kernel, ⟨_, solve_of_reports started reports, rfl⟩,
    run, started, ended, undefined⟩
  obtain ⟨shaped, it, -, traces⟩ := start?_eq_ok started
  have accepted := (ended ▸ traces.ends).accepted
  have bounded := sound _ _ _ _ _ (by decide +kernel) (by decide +kernel) accepted
  exact (defined_of_le (bounded.dual ⟨0, by decide⟩).2).1 (undefined_abs undefined)

end InteriorPoint

end QuadraticTrials

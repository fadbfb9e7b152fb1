import Mathlib
import QuadraticTrials.Proofs.Exact.Instance
import QuadraticTrials.Proofs.InteriorPoint.StepLength
import QuadraticTrials.Proofs.InteriorPoint.Trajectory

/-!
Every point that a run visits is interior: both starting points are, and no step reaches the
boundary when it goes a fraction below one of the way.
-/

namespace QuadraticTrials

open Matrix

variable {K : Type} [Field K] [LinearOrder K] [IsStrictOrderedRing K] {n m p : Nat}

-----------------------------------------------------------------------------------------
-- Starting points
-----------------------------------------------------------------------------------------

omit [IsStrictOrderedRing K] in
/-- The least of some field elements is their minimum. -/
theorem leastOf_eq_min? (values : List K) : leastOf values = values.min? := by
  cases values with
  | nil => rfl
  | cons first rest =>
      have least : (Scalar.min : K → K → K) = min := funext₂ Scalar.min_eq_min
      rw [leastOf, least, List.min?_cons']

/-- A shifted vector is positive: its least entry is positive or becomes one. -/
theorem Vec.shiftPositive_pos (v : Vector K m) (i : Fin m) : 0 < (Vec.shiftPositive v).get i := by
  have stored : v.get i ∈ v.toList := by
    rw [Vec.toList_eq_ofFn]
    exact List.mem_ofFn.mpr ⟨i, rfl⟩
  unfold shiftPositive
  rw [leastOf_eq_min?]
  cases found : v.toList.min? with
  | none =>
      rw [List.min?_eq_none_iff.mp found] at stored
      cases stored
  | some least =>
      have below : least ≤ v.get i := (List.min?_eq_some_iff.mp found).2 _ stored
      simp only
      split
      · rename_i positive
        exact positive.trans_le below
      · rw [Vec.get_map]
        linarith

namespace Program

variable {prog : Program K n m p} {it : Iterate K n m p}

/-- The least-squares start is interior, since its slacks and duals are shifted. -/
theorem interior_leastSquaresStart (found : prog.leastSquaresStart? = some it) : it.Interior := by
  obtain ⟨⟨x, y⟩, -, rfl⟩ := Option.map_eq_some_iff.mp found
  exact ⟨Vec.shiftPositive_pos _, Vec.shiftPositive_pos _⟩

/-- The origin is accepted only with positive right-hand sides of the inequality rows, which become
its slacks, and vanishing ones of the equality rows.
-/
theorem originStart_eq_ok (found : prog.originStart = .ok it)
    : (∀ i, 0 < prog.h.get i) ∧ prog.b.get = 0
      ∧ it = ⟨Vector.replicate n 0, prog.h, Vector.replicate m 1, Vector.replicate p 0⟩ := by
  unfold originStart at found
  split at found
  · cases found
  rename_i inequalities
  split at found
  · cases found
  rename_i equalities
  cases found
  refine ⟨fun i => ?_, ?_, rfl⟩
  · simp only [List.any_eq_true, decide_eq_true_eq, not_exists, not_and, not_le] at inequalities
    refine inequalities _ ?_
    rw [Vec.toList_eq_ofFn]
    exact List.mem_ofFn.mpr ⟨i, rfl⟩
  · have small := (Vec.maxAbs_le_iff.mp (not_lt.mp equalities)).2
    funext i
    exact abs_nonpos_iff.mp (small i)

/-- The origin is accepted when it is strictly feasible. -/
theorem exists_originStart (positive : ∀ i, 0 < prog.h.get i)
    (zero : prog.b.get = 0)
    : ∃ it, prog.originStart = .ok it := by
  have inside : ¬prog.h.toList.any (· ≤ 0) = true := by
    rw [Vec.toList_eq_ofFn]
    simp only [List.any_eq_true, List.mem_ofFn, decide_eq_true_eq, not_exists, not_and, not_le]
    rintro value ⟨i, rfl⟩
    exact positive i
  have fitting : ¬0 < Vec.maxAbs prog.b := by
    rw [not_lt, Vec.maxAbs_le_iff, zero]
    simp
  rw [originStart, if_neg inside, if_neg fitting]
  exact ⟨_, rfl⟩

/-- The origin is interior when it is accepted. -/
theorem interior_originStart (found : prog.originStart = .ok it) : it.Interior := by
  obtain ⟨positive, -, rfl⟩ := originStart_eq_ok found
  exact ⟨positive, fun i => by simp⟩

omit [IsStrictOrderedRing K] in
/-- A start is the least-squares one or the origin, as chosen. -/
theorem start_eq_ok {infeasible : Bool} (found : prog.start infeasible = .ok it)
    : (infeasible = true ∧ prog.leastSquaresStart? = some it)
      ∨ (infeasible = false ∧ prog.originStart = .ok it) := by
  unfold start at found
  split at found
  · rename_i chosen
    split at found
    · rename_i begun
      cases found
      exact .inl ⟨chosen, begun⟩
    · cases found
  · rename_i chosen
    exact .inr ⟨Bool.eq_false_iff.mpr chosen, found⟩

/-- Every start is interior. -/
theorem interior_start {infeasible : Bool} (found : prog.start infeasible = .ok it)
    : it.Interior := by
  rcases start_eq_ok found with ⟨-, begun⟩ | ⟨-, begun⟩
  · exact interior_leastSquaresStart begun
  · exact interior_originStart begun

-----------------------------------------------------------------------------------------
-- Steps and runs
-----------------------------------------------------------------------------------------

variable {fraction tolerance : K} {cap : Nat}

/-- A taken step leads from an interior point to an interior point; without inequality rows there
is nothing to keep positive.
-/
theorem interior_advance {r : Record K n m p} {dir : Direction K n m p} {length : K}
    (taken : prog.Takes fraction r dir length) (fraction_pos : 0 < fraction)
    (fraction_lt_one : fraction < 1) (interior : r.iterate.Interior)
    : (r.iterate.advance dir length).Interior := by
  cases taken with
  | full free found =>
      subst free
      exact ⟨fun i => i.elim0, fun i => i.elim0⟩
  | searched bounded tried acceptable =>
      exact interior.advance (tried.inside interior fraction_pos fraction_lt_one)

/-- All points of a run from an interior point are interior, by induction along the run. -/
theorem Traces.interior {run : Run K n m p}
    (traces : prog.Traces fraction tolerance cap (prog.record 0 0 it) run)
    (fraction_pos : 0 < fraction) (fraction_lt_one : fraction < 1) (interior : it.Interior)
    {r : Record K n m p} (visited : r ∈ run.records)
    : r.iterate.Interior := by
  refine traces.forall_mem (motive := fun r => r.iterate.Interior) interior ?_ visited
  intro r next follows interior
  obtain ⟨dir, taken, reached⟩ := takes_of_advance follows.moved
  rw [reached]
  exact interior_advance taken fraction_pos fraction_lt_one interior

end Program

/-- The complementarity gap of an interior point is positive when there are inequality rows. -/
theorem Iterate.Interior.gap_pos {it : Iterate K n m p} (interior : it.Interior) (bounded : 0 < m)
    : 0 < it.gap := by
  rw [Iterate.gap, Vec.dot_eq_dotProduct, dotProduct]
  refine Finset.sum_pos (fun i _ => ?_) ⟨⟨0, bounded⟩, Finset.mem_univ _⟩
  exact mul_pos (interior.slack_pos i) (interior.dual_pos i)

namespace InteriorPoint

variable [NumberText K] {settings : Settings K} {options : Options K} {inst : Instance K}
  {run : Run K inst.numVars inst.numInequalities inst.numEqualities}

/-- At every point that a solve visits all slacks and inequality duals are positive, so that no
quotient by a slack is a quotient by zero and the mean complementarity is positive wherever there
are inequality rows.
-/
theorem interior_of_visited (fraction_pos : 0 < settings.stepFraction)
    (fraction_lt_one : settings.stepFraction < 1)
    (started : start? settings options inst = .ok run)
    {r : Record K inst.numVars inst.numInequalities inst.numEqualities}
    (visited : r ∈ run.records)
    : (∀ i, 0 < r.iterate.s.get i) ∧ (∀ i, 0 < r.iterate.z.get i)
      ∧ (∀ i, r.iterate.s.get i ≠ 0)
      ∧ (0 < inst.numInequalities →
          0 < (r.iterate.s.get ⬝ᵥ r.iterate.z.get) / inst.numInequalities
            ∧ Program.meanGap inst.numInequalities r.gap
              = (r.iterate.s.get ⬝ᵥ r.iterate.z.get) / inst.numInequalities) := by
  obtain ⟨shaped, it, begun, traces⟩ := start?_eq_ok started
  have interior : r.iterate.Interior :=
    traces.interior fraction_pos fraction_lt_one (Program.interior_start begun) visited
  refine ⟨interior.slack_pos, interior.dual_pos, fun i => (interior.slack_pos i).ne', ?_⟩
  intro bounded
  have gap : r.gap = r.iterate.s.get ⬝ᵥ r.iterate.z.get := by
    rw [traces.recorded visited]
    exact Vec.dot_eq_dotProduct _ _
  have gap_pos := interior.gap_pos bounded
  rw [Iterate.gap, Vec.dot_eq_dotProduct] at gap_pos
  refine ⟨div_pos gap_pos (Nat.cast_pos.mpr bounded), ?_⟩
  rw [Program.meanGap, if_pos bounded, gap]

/-- The standard settings solve the parabola to a hundredth in two steps, by computation. -/
theorem parabola_started
    : ∃ run, start? .standard ⟨false, some (1 / 100), none⟩ Instance.parabola = .ok run
        ∧ run.records.length = 3 :=
  ok_of_computed (by decide +kernel)

theorem parabola_stepFraction
    : 0 < (Settings.standard : Settings ℚ).stepFraction
      ∧ (Settings.standard : Settings ℚ).stepFraction < 1 := by
  decide +kernel

/-- All three points of that run are interior, with a positive mean complementarity. -/
theorem parabola_interior
    : ∃ run, start? .standard ⟨false, some (1 / 100), none⟩ Instance.parabola = .ok run
        ∧ run.records.length = 3
        ∧ ∀ r ∈ run.records,
          (∀ i, 0 < r.iterate.s.get i) ∧ (∀ i, 0 < r.iterate.z.get i)
            ∧ 0 < Program.meanGap Instance.parabola.numInequalities r.gap := by
  obtain ⟨run, started, length⟩ := parabola_started
  refine ⟨run, started, length, fun r visited => ?_⟩
  obtain ⟨slack, dual, -, mean⟩ :=
    interior_of_visited parabola_stepFraction.1 parabola_stepFraction.2 started visited
  obtain ⟨positive, same⟩ := mean (by decide)
  exact ⟨slack, dual, same ▸ positive⟩

end InteriorPoint

end QuadraticTrials

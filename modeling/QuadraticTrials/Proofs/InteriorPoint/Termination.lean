import Mathlib
import QuadraticTrials.Proofs.InteriorPoint.Cutoff
import QuadraticTrials.Proofs.InteriorPoint.Halving
import QuadraticTrials.Proofs.InteriorPoint.Solvable
import QuadraticTrials.Proofs.Unsized.Refinement

/-!
Both loops of a solve end under all settings. Whatever the fraction is, the first length of a step
is a number of at most one, from which halving stops after forty-seven turns at the latest; the
iteration cap bounds the steps of the run.
-/

namespace QuadraticTrials

variable {K : Type} [Scalar K] {n m p : Nat}

-----------------------------------------------------------------------------------------
-- The halving loop
-----------------------------------------------------------------------------------------

namespace Program

variable {accept : K → Bool} {length : K} {halvings trials : Nat}

/-- Halving a length goes on while it is long enough and refused. -/
structure StopsAfter (accept : K → Bool) (length : K) (halvings : Nat) : Prop where
  goes
    : ∀ earlier < halvings,
        minStep ≤ halve earlier length ∧ accept (halve earlier length) = false
  stops : ¬(minStep ≤ halve halvings length ∧ accept (halve halvings length) = false)

/-- After the first turn the loop goes on from half the length. -/
theorem StopsAfter.tail (stops : StopsAfter accept length (halvings + 1))
    : StopsAfter accept (length * Scalar.ratio 1 2) halvings :=
  ⟨fun earlier less => stops.goes (earlier + 1) (Nat.succ_lt_succ less), stops.stops⟩

/-- Backtracking with enough trials is the loop without a bound, by induction on its turns. -/
theorem StopsAfter.backtrack_eq (stops : StopsAfter accept length halvings)
    (enough : halvings < trials)
    : backtrack accept trials length
      = if minStep ≤ halve halvings length then some (halve halvings length) else none := by
  induction halvings generalizing length trials with
  | zero =>
      obtain ⟨trials, rfl⟩ := Nat.exists_eq_succ_of_ne_zero enough.ne'
      rw [backtrack, halve_zero]
      split
      case isFalse => rfl
      case isTrue long =>
        have accepted : accept length = true :=
          Bool.eq_true_of_not_eq_false fun refused => stops.stops ⟨long, refused⟩
        exact if_pos accepted
  | succ halvings ih =>
      obtain ⟨trials, rfl⟩ := Nat.exists_eq_succ_of_ne_zero (Nat.ne_zero_of_lt enough)
      obtain ⟨long, refused⟩ := stops.goes 0 (Nat.succ_pos halvings)
      rw [halve_zero] at long refused
      rw [backtrack, if_pos long, if_neg (by rw [refused]; exact Bool.false_ne_true)]
      exact ih stops.tail (Nat.lt_of_succ_lt_succ enough)

variable [Scalar.Halving K]

theorem halve_le_one (le_one : length ≤ 1) (halvings : Nat) : halve halvings length ≤ 1 := by
  induction halvings generalizing length with
  | zero => exact le_one
  | succ halvings ih => exact ih (Scalar.Halving.half_le_one le_one)

/-- The loop stops at the first turn that its test refuses, of which there is one as the length
gets too short.
-/
theorem exists_stopsAfter (accept : K → Bool) (le_one : length ≤ 1)
    : ∃ halvings ≤ 47, StopsAfter accept length halvings := by
  have short : ¬(minStep ≤ halve 47 length ∧ accept (halve 47 length) = false) := fun going =>
    Scalar.Halving.not_minStep_le_halve le_one going.1
  have some : ∃ halvings,
      ¬(minStep ≤ halve halvings length ∧ accept (halve halvings length) = false) := ⟨47, short⟩
  refine ⟨Nat.find some, Nat.find_min' some short, ?_, Nat.find_spec some⟩
  exact fun earlier less => not_not.mp (Nat.find_min some less)

/-- The first length is a number of at most one, by cases on what bounds it. -/
theorem firstLength_bounded (fraction : K) (r : Record K n m p) (dir : Direction K n m p)
    : firstLength fraction r dir ≤ 1 := by
  unfold firstLength Direction.fractionLength Scalar.min
  split
  · split
    case isTrue negative => exact Scalar.Halving.div_zero_le_one negative
    case isFalse => exact Scalar.Halving.one_related
  · split
    case isTrue within => exact within
    case isFalse =>
      rw [if_pos Scalar.Halving.one_related]
      exact Scalar.Halving.one_related

/-- Every step that a move takes is long enough and at most one. -/
theorem Takes.bounds {prog : Program K n m p} {fraction : K} {r : Record K n m p}
    {dir : Direction K n m p} (taken : prog.Takes fraction r dir length)
    : minStep ≤ length ∧ length ≤ 1 := by
  cases taken with
  | full free found => exact ⟨Scalar.Halving.minStep_le_one, Scalar.Halving.one_related⟩
  | searched bounded tried acceptable =>
      refine ⟨acceptable.long, ?_⟩
      cases tried with
      | corrected found => exact firstLength_bounded fraction r dir
      | damped found halvings => exact halve_le_one (firstLength_bounded fraction r dir) halvings

/-- The search from a first length: that length is a number of at most one, and halving it stops
after forty-seven turns at the latest, at the result of the search.
-/
structure Bounded (accept : K → Bool) (length : K) : Prop where
  related : length ≤ length
  le_one : length ≤ 1
  stops
    : ∃ halvings ≤ 47,
        StopsAfter accept length halvings
          ∧ backtrack accept maxTrials length
            = if halve halvings length < minStep then none else some (halve halvings length)

theorem bounded_of_le_one (accept : K → Bool) (le_one : length ≤ 1) : Bounded accept length := by
  obtain ⟨halvings, few, stops⟩ := exists_stopsAfter accept le_one
  have related := Scalar.Halving.related_left (halve_le_one le_one halvings)
  refine ⟨Scalar.Halving.related_left le_one, le_one, halvings, few, stops, ?_⟩
  rw [stops.backtrack_eq (show halvings < maxTrials from Nat.lt_succ_of_le few)]
  by_cases short : halve halvings length < minStep
  · rw [if_pos short, if_neg (Scalar.Halving.not_le_of_lt short)]
  · rw [if_neg short, if_pos (Scalar.Comparable.le_of_not_lt related
      Scalar.Comparable.minStep_related short)]

-----------------------------------------------------------------------------------------
-- The outer loop
-----------------------------------------------------------------------------------------

omit [Scalar.Halving K] in
/-- A run makes no more steps than it is allowed, by induction on their number. -/
theorem length_runFrom_le (prog : Program K n m p) (fraction tolerance : K) (remaining : Nat)
    (r : Record K n m p)
    : (prog.runFrom fraction tolerance remaining r).earlier.length ≤ remaining := by
  induction remaining generalizing r with
  | zero =>
      unfold runFrom
      split <;> exact le_rfl
  | succ remaining ih =>
      unfold runFrom
      split
      · exact Nat.zero_le _
      simp only
      split
      · exact Nat.zero_le _
      · exact Nat.zero_le _
      · exact Nat.succ_le_succ (ih _)

/-- Every step of a run is one that a move takes. -/
theorem Traces.bounds_of_mem_steps {prog : Program K n m p} {fraction tolerance : K} {cap : Nat}
    {start : Record K n m p} {run : Run K n m p}
    (traces : prog.Traces fraction tolerance cap start run) (member : length ∈ run.steps)
    : minStep ≤ length ∧ length ≤ 1 := by
  obtain ⟨next, visited, rfl⟩ := List.mem_map.mp member
  obtain ⟨k, found⟩ := List.mem_iff_getElem?.mp visited
  rw [List.getElem?_tail] at found
  obtain ⟨r, -, follows⟩ := traces.exists_follows found
  obtain ⟨dir, taken, -⟩ := takes_of_advance follows.moved
  exact taken.bounds

end Program

omit [Scalar K] in
theorem Run.length_steps (run : Run K n m p) : run.steps.length = run.earlier.length := by
  rw [Run.steps, List.length_map, List.length_tail, Run.records, List.length_append,
    List.length_singleton, Nat.add_sub_cancel]

namespace InteriorPoint

variable [NumberText K] {settings : Settings K} {options : Options K} {inst : Instance K}

/-- A run makes as many steps as its last point is far, and no more than its cap. -/
theorem length_steps_le {run : Run K inst.numVars inst.numInequalities inst.numEqualities}
    (started : start? settings options inst = .ok run)
    : run.steps.length = run.last.index
      ∧ run.last.index ≤ (settings.withOptions options).maxIterations := by
  have counted := (last_of_start? started).1
  have within : run.earlier.length ≤ (settings.withOptions options).maxIterations := by
    obtain ⟨passed, it, -, -, rfl⟩ := start?_eq_ok_iff.mp started
    exact Program.length_runFrom_le _ _ _ _ _
  rw [Run.records, List.length_append, List.length_singleton] at counted
  rw [Run.length_steps]
  omega

/-- A solve ends: with one of three statuses within its cap, or with a failure. -/
inductive Ends (settings : Settings K) (options : Options K) (inst : Instance K) : Prop
  | answered {solution : Solution K} (solved : solve settings options inst = .ok solution)
      (listed : solution.status ∈ [.optimal, .maxIterations, .numericalError])
      (within : solution.iterations ≤ (settings.withOptions options).maxIterations)
      (exhausted
        : solution.status = .maxIterations →
            solution.iterations = (settings.withOptions options).maxIterations)
    : Ends settings options inst
  | failed {reason : String}
      (failed : solve settings options inst = .error (.solverFailure name reason))
    : Ends settings options inst

/-- What bounds the loops of a solve: its steps in number and length, and the halvings of each. -/
structure Terminates (settings : Settings K) (options : Options K) (inst : Instance K) : Prop where
  ends : Ends settings options inst
  steps
    : ∀ run,
        start? settings options inst = .ok run →
          run.steps.length ≤ (settings.withOptions options).maxIterations
            ∧ ∀ length ∈ run.steps, Scalar.decimal 1 14 ≤ length ∧ length ≤ 1
  searches
    : ∀ (shaped : inst.WellShaped)
        (r : Record K inst.numVars inst.numInequalities inst.numEqualities)
        (dir : Direction K inst.numVars inst.numInequalities inst.numEqualities),
        Program.Bounded ((inst.toProgram shaped).improves r dir)
          (Program.firstLength settings.stepFraction r dir)

/-- A solve of a valid instance ends, by cases on how its run does. -/
theorem ends_of_validate (valid : inst.validate = .ok ()) (settings : Settings K)
    (options : Options K)
    : Ends settings options inst := by
  cases started : start? settings options inst with
  | error error =>
      have failed : solve settings options inst = .error error := by rw [solve, started]
      rw [start?_of_check (Instance.check_of_validate valid)] at started
      obtain ⟨fault, rfl⟩ : ∃ fault : Fault K, error = fault.toError := by
        cases made : run? (settings.withOptions options) (inst.toProgram
            (Instance.wellShaped_of_check (Instance.check_of_validate valid))) with
        | error fault =>
            rw [made] at started
            cases started
            exact ⟨fault, rfl⟩
        | ok run =>
            rw [made] at started
            cases started
      exact .failed failed
  | ok run =>
      obtain ⟨counted, within⟩ := length_steps_le started
      obtain ⟨solution, solved, reports⟩ | ⟨singular, failed⟩ := solve_of_start? started
      case inr => exact .failed failed
      refine .answered solved ?_ (reports.iterations ▸ within) fun exhausted => ?_
      · have regular : run.ending ≠ .singular := fun singular => by
          have status := reports.status
          rw [singular] at status
          cases status
        obtain ⟨reported, reports', listed⟩ := run.exists_reports regular
        rwa [Option.some.inj (reports.status.symm.trans reports'.status)]
      · obtain ⟨_, it, -, traces⟩ := start?_eq_ok started
        have ends := traces.ends
        have ended : run.ending = .exhausted := Ending.eq_exhausted (exhausted ▸ reports.status)
        rw [ended] at ends
        cases ends with
        | exhausted continued capped => rw [reports.iterations, capped]

/-- Under all settings a solve of a valid instance terminates, in exact arithmetic as on machine
floats.
-/
theorem solve_terminates [Scalar.Halving K] (valid : inst.validate = .ok ())
    (settings : Settings K) (options : Options K)
    : Terminates settings options inst := by
  refine ⟨ends_of_validate valid settings options, fun run started => ?_, fun shaped r dir => ?_⟩
  · obtain ⟨counted, within⟩ := length_steps_le started
    obtain ⟨_, it, -, traces⟩ := start?_eq_ok started
    exact ⟨counted ▸ within, fun length member => traces.bounds_of_mem_steps member⟩
  · exact Program.bounded_of_le_one _ (Program.firstLength_bounded _ r dir)

/-- On the parabola a fraction that is no number lets a run take one full step, and the fraction
negative infinity stalls it at its start.
-/
theorem parabola_terminates
    : Terminates ⟨100, 0.01, true, 0 / 0⟩ .quiet floatParabola
      ∧ (∃ run,
          start? ⟨100, 0.01, true, 0 / 0⟩ .quiet floatParabola = .ok run
            ∧ (run.steps.length, run.ending) = (1, .converged))
      ∧ Terminates ⟨100, 0.01, true, -1 / 0⟩ .quiet floatParabola
      ∧ ∃ run,
          start? ⟨100, 0.01, true, -1 / 0⟩ .quiet floatParabola = .ok run
            ∧ (run.steps.length, run.ending) = (0, .stalled) := by
  have valid : floatParabola.validate = .ok () := by decide +kernel
  exact ⟨solve_terminates valid _ _, ok_of_computed (by decide +kernel),
    solve_terminates valid _ _, ok_of_computed (by decide +kernel)⟩

end InteriorPoint

end QuadraticTrials

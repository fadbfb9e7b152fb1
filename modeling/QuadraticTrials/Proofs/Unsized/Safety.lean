import Mathlib
import QuadraticTrials.Proofs.Conic.Problem
import QuadraticTrials.Proofs.InteriorPoint.Trajectory
import QuadraticTrials.Proofs.Solver.Calls
import QuadraticTrials.Proofs.Solver.Deadline
import QuadraticTrials.Proofs.Unsized.Refinement

/-!
The check of an instance is all that stands between shapes that do not fit and the arithmetic: it
accepts exactly the instances whose shapes fit and whose entries are finite, and on those every
operation of a run fits.
-/

namespace QuadraticTrials

variable {K : Type} [Scalar K]

-----------------------------------------------------------------------------------------
-- What the check accepts
-----------------------------------------------------------------------------------------

theorem Vec.isFinite_iff {n : Nat} {x : Vector K n}
    : Vec.isFinite x ↔ ∀ i, Scalar.isFinite (x.get i) := by
  rw [Vec.isFinite, Vec.toList_eq_ofFn, List.all_eq_true]
  simp only [List.mem_ofFn, forall_exists_index, forall_apply_eq_imp_iff]

theorem Dense.isFinite_iff {m n : Nat} {a : Dense K m n}
    : a.isFinite ↔ ∀ i j, Scalar.isFinite ((a.get i).get j) := by
  rw [Dense.isFinite, Vec.toList_eq_ofFn, List.all_eq_true]
  simp only [List.mem_ofFn, forall_exists_index, forall_apply_eq_imp_iff, Vec.isFinite_iff]

namespace Instance

/-- All entries of a block are finite. -/
structure BlockFinite (block : Block K) : Prop where
  matrix : ∀ i j, Scalar.isFinite ((block.matrix.entries.get i).get j)
  rhs : ∀ value ∈ block.rhs, Scalar.isFinite value

/-- All entries of an instance are finite. -/
structure EntriesFinite (inst : Instance K) : Prop where
  cost : ∀ i j, Scalar.isFinite ((inst.cost.entries.get i).get j)
  linear : ∀ value ∈ inst.linear, Scalar.isFinite value
  inequality : ∀ block ∈ inst.inequality, BlockFinite block
  equality : ∀ block ∈ inst.equality, BlockFinite block

theorem allFinite_iff {values : List K}
    : allFinite values ↔ ∀ value ∈ values, Scalar.isFinite value :=
  List.all_eq_true

/-- A block passes its check when it fits and is finite; an absent one always does. -/
theorem checkBlock_eq_ok_iff {side : Side} {n : Nat} {block? : Option (Block K)}
    : checkBlock side n block? = .ok ()
      ↔ (∀ block ∈ block?, BlockShaped n block) ∧ ∀ block ∈ block?, BlockFinite block := by
  constructor
  · intro passed
    refine ⟨blockShaped_of_checkBlock passed, ?_⟩
    rintro block rfl
    simp only [checkBlock] at passed
    split at passed
    · cases passed
    split at passed
    · cases passed
    rename_i finite
    simp only [Bool.or_eq_true, Bool.not_eq_true', not_or, Bool.not_eq_false] at finite
    exact ⟨Dense.isFinite_iff.mp finite.1, allFinite_iff.mp finite.2⟩
  · rintro ⟨shaped, finite⟩
    cases block? with
    | none => rfl
    | some block =>
        obtain ⟨rows, cols⟩ := shaped block rfl
        obtain ⟨matrix, rhs⟩ := finite block rfl
        simp [checkBlock, rows, cols, Dense.isFinite_iff.mpr matrix, allFinite_iff.mpr rhs]

/-- The check accepts exactly the instances that fit and are finite, by reading off its tests in one
direction and passing them in the other.
-/
theorem validate_eq_ok_iff {inst : Instance K}
    : inst.validate = .ok () ↔ inst.WellShaped ∧ inst.EntriesFinite := by
  constructor
  · intro valid
    have passed := check_of_validate valid
    refine ⟨wellShaped_of_check passed, ?_⟩
    unfold check at passed
    split at passed
    · cases passed
    split at passed
    · cases passed
    split at passed
    · cases passed
    rename_i finite
    split at passed
    · cases passed
    rename_i inequality
    simp only [Bool.or_eq_true, Bool.not_eq_true', not_or, Bool.not_eq_false] at finite
    exact {
      cost := Dense.isFinite_iff.mp finite.1
      linear := allFinite_iff.mp finite.2
      inequality := (checkBlock_eq_ok_iff.mp inequality).2
      equality := (checkBlock_eq_ok_iff.mp passed).2
    }
  · rintro ⟨shaped, finite⟩
    have inequality : checkBlock .inequality inst.numVars inst.inequality = .ok () :=
      checkBlock_eq_ok_iff.mpr ⟨shaped.inequality, finite.inequality⟩
    have equality : checkBlock .equality inst.numVars inst.equality = .ok () :=
      checkBlock_eq_ok_iff.mpr ⟨shaped.equality, finite.equality⟩
    simp [validate, check, shaped.vars_pos.ne', shaped.cost_rows, shaped.cost_cols,
      Dense.isFinite_iff.mpr finite.cost, allFinite_iff.mpr finite.linear, inequality, equality,
      Except.mapError]

theorem validate_eq_error {inst : Instance K} {error : Error} (refused : inst.validate = .error error)
    : ∃ fault : Fault, inst.check = .error fault ∧ error = .invalidInstance fault.reason := by
  unfold validate at refused
  cases checked : inst.check with
  | error fault =>
      rw [checked] at refused
      cases refused
      exact ⟨fault, rfl, rfl⟩
  | ok passed =>
      rw [checked] at refused
      cases refused

end Instance

-----------------------------------------------------------------------------------------
-- Solvers that answer in full length
-----------------------------------------------------------------------------------------

namespace Solver

variable {σ : Type}

/-- Every answer has as many coordinates as its instance has variables. -/
def FullLength (solver : Solver K σ) : Prop :=
  ∀ inst options state solution,
    (solver.call inst options state).1.reply = .returned (.ok solution) →
      solution.x.length = inst.numVars

omit [Scalar K] in
/-- A deadline makes no answers of its own: one that comes through is that of the solver. -/
theorem FullLength.timed {solver : Solver K σ} (full : solver.FullLength) (limit : Nat)
    : (solver.timed limit).FullLength := by
  intro inst options state solution replied
  have late := answerTo_timeline limit (solver.call inst options state).1
  have answered := (reply_withDeadline late).symm.trans replied
  split at answered
  case isTrue early =>
    cases reply : (solver.call inst options state).1.reply with
    | returned result =>
        rw [reply] at answered
        cases answered
        exact full inst options state solution reply
    | crashed =>
        rw [reply] at answered
        cases answered
  case isFalse late => cases answered

end Solver

namespace Trial

omit [Scalar K] in
theorem joined_eq_ok {name : String} {reply : Reply K} {solution : Solution K}
    (same : Solvers.joined name reply = .ok solution)
    : reply = .returned (.ok solution) := by
  cases reply with
  | returned result => exact congrArg Reply.returned same
  | crashed => cases same

/-- Answers of one length are not told apart by their length. -/
theorem judge_ne_dimensionMismatch {tolerance : K} {reference candidate : Except Error (Solution K)}
    (same
      : ∀ r c, reference = .ok r → candidate = .ok c → r.x.length = c.x.length)
    (first second : Nat)
    : judge tolerance reference candidate ≠ .dimensionMismatch first second := by
  cases reference with
  | error e => exact nofun
  | ok r =>
      cases candidate with
      | error e => exact nofun
      | ok c =>
          have length := same r c rfl rfl
          simp only [judge]
          split
          · exact nofun
          split
          · exact nofun
          rw [Comparison.check, if_neg (not_not.mpr length)]
          cases Comparison.firstOutside tolerance 0 (Comparison.distances r.x c.x) with
          | none => exact nofun
          | some found => exact nofun

end Trial

namespace Tester

variable {σ τ : Type} {t : Tester K σ τ}

omit [Scalar K] in
/-- Both results of a trial come from calls on its instance, in turn or side by side. -/
theorem replies_of_solveBoth {index : Nat} {inst : Instance K} {reference : σ} {candidate : τ}
    {solved : Solved K σ τ} (answered : t.solveBoth index inst reference candidate = some solved)
    : (∀ solution,
          solved.reference = .ok solution →
            (t.solvers.reference.call inst t.options reference).1.reply = .returned (.ok solution))
        ∧ ∀ solution,
            solved.candidate = .ok solution →
              (t.solvers.candidate.call inst t.options candidate).1.reply
                = .returned (.ok solution) := by
  unfold solveBoth at answered
  split at answered
  case isTrue parallel =>
    rw [Solvers.solveParallel_eq] at answered
    cases answered
    exact ⟨fun _ => Trial.joined_eq_ok, fun _ => Trial.joined_eq_ok⟩
  case isFalse inTurn =>
    simp only [Solvers.solveInTurn] at answered
    split at answered
    · cases answered
    rename_i first
    split at answered
    · cases answered
    rename_i second
    cases answered
    exact ⟨fun _ same => first.trans (congrArg _ same), fun _ same => second.trans (congrArg _ same)⟩

/-- Solvers that answer in full length never part by their dimensions, under a time limit or not. -/
theorem outcome_ne_dimensionMismatch [NumberText K] {first : Solver K σ} {second : Solver K τ}
    {config : Config K} {interleaving : Nat → List Role}
    (made : Tester.make first second config interleaving = .ok t)
    (full : first.FullLength) (full' : second.FullLength) {index : Nat} {scale : K}
    {inst : Instance K} {reference reference' : σ} {candidate candidate' : τ} {trial : Trial K}
    (evaluated
      : t.evaluate index scale inst reference candidate = some (trial, reference', candidate'))
    (length length' : Nat)
    : trial.outcome ≠ .dimensionMismatch length length' := by
  have kept : t.solvers.reference.FullLength ∧ t.solvers.candidate.FullLength := by
    unfold make at made
    split at made
    · cases made
    cases made
    cases config.solveTimeoutMs with
    | none => exact ⟨full, full'⟩
    | some limit => exact ⟨full.timed limit, full'.timed limit⟩
  obtain ⟨solved, answered, rfl, -, -⟩ := Sweep.evaluate_eq_some evaluated
  obtain ⟨returned, returned'⟩ := replies_of_solveBoth answered
  refine Trial.judge_ne_dimensionMismatch (fun r c sameR sameC => ?_) length length'
  calc r.x.length
    _ = inst.numVars := kept.1 _ _ _ r (returned r sameR)
    _ = c.x.length := (kept.2 _ _ _ c (returned' c sameC)).symm

end Tester

-----------------------------------------------------------------------------------------
-- Shapes in a run
-----------------------------------------------------------------------------------------

namespace InteriorPoint

variable [NumberText K]

/-- An answer has a coordinate for each variable, since it is read off a sized point. -/
theorem length_of_solve {settings : Settings K} {options : Options K} {inst : Instance K}
    {solution : Solution K} (solved : solve settings options inst = .ok solution)
    : solution.x.length = inst.numVars := by
  obtain ⟨run, -, reports⟩ := solve_eq_ok solved
  rw [reports.point, Vector.length_toList]

theorem solve_of_refused {inst : Instance K} {error : Error} (refused : inst.validate = .error error)
    (settings : Settings K) (options : Options K)
    : solve settings options inst = .error error := by
  obtain ⟨fault, found, rfl⟩ := Instance.validate_eq_error refused
  have unstarted : start? settings options inst = .error fault.toError := by
    unfold start?
    split
    case h_1 fault' found' => cases found.symm.trans found'; rfl
    case h_2 passed => cases found.symm.trans passed
  rw [solve, unstarted]
  rfl

/-- The solver that answers with runs of the method. -/
def solver (settings : Settings K) : Solver K Unit where
  name := name
  call inst options _ :=
    (⟨.returned (solve settings options inst), 0, progress settings options inst⟩, ())

theorem fullLength_solver (settings : Settings K) : (solver settings).FullLength := by
  intro inst options state solution replied
  exact length_of_solve (Reply.returned.inj replied)

/-- An instance is accepted exactly if its shapes fit and its entries are finite. One that is not is
refused before the first operation, and on one that is no operation of the run meets shapes that do
not fit, whatever they are. The answers have full length, and so two solvers with such answers never
part by their dimensions.
-/
theorem shapes_fit
    : (∀ inst : Instance K, inst.validate = .ok () ↔ inst.WellShaped ∧ inst.EntriesFinite)
        ∧ (∀ (settings : Settings K) options inst error,
            inst.validate = .error error →
              (∃ reason, error = .invalidInstance reason)
                ∧ solve settings options inst = .error error
                ∧ Unsized.solve settings options inst = ⟨0, some (.error error)⟩)
        ∧ (∀ (settings : Settings K) options inst,
            inst.validate = .ok () →
              (Unsized.solve settings options inst).value? = some (solve settings options inst)
                ∧ ∀ solution,
                    solve settings options inst = .ok solution →
                      solution.x.length = inst.numVars)
        ∧ ∀ (σ τ : Type) (first : Solver K σ) (second : Solver K τ) config interleaving t,
            Tester.make first second config interleaving = .ok t →
              first.FullLength →
                second.FullLength →
                  ∀ index scale inst reference candidate trial reference' candidate',
                    t.evaluate index scale inst reference candidate
                        = some (trial, reference', candidate') →
                      ∀ length length', trial.outcome ≠ .dimensionMismatch length length' := by
  refine ⟨fun inst => Instance.validate_eq_ok_iff, ?_, ?_, ?_⟩
  · intro settings options inst error refused
    refine ⟨?_, solve_of_refused refused settings options, ?_⟩
    · obtain ⟨fault, found, rfl⟩ := Instance.validate_eq_error refused
      exact ⟨_, rfl⟩
    · rw [Unsized.solve, refused]
      rfl
  · intro settings options inst valid
    exact ⟨value?_solve valid settings options, fun solution => length_of_solve⟩
  · intro σ τ first second config interleaving t made full full' index scale inst reference candidate
      trial reference' candidate' evaluated
    exact Tester.outcome_ne_dimensionMismatch made full full' evaluated

/-- A cost matrix of one row and two columns for one variable. -/
def skewed : Instance Float :=
  ⟨⟨1, 2, #v[#v[1, 0]]⟩, [1], none, none⟩

/-- Trials of the method from its two kinds of starting points. -/
def twoStarts : Tester Float Unit Unit where
  solvers := ⟨solver .standard, solver { Settings.standard with infeasibleStart := false }⟩
  config := .standard
  interleaving _ := []

/-- Two coupled variables pass through the whole run, a cost matrix that is not square is refused, and
runs from two kinds of starting points never part by their dimensions.
-/
theorem shapes_fit_coupled
    : (Unsized.solve .standard .quiet (Conic.coupled : Instance Float)).value?
          = some (solve .standard .quiet Conic.coupled)
        ∧ Unsized.solve .standard .quiet skewed
          = ⟨0, some (.error (.invalidInstance "P must be 1x1, got 1x2"))⟩
        ∧ ∀ trial reference candidate,
            twoStarts.evaluate 0 1 Conic.coupled () () = some (trial, reference, candidate) →
              trial.outcome ≠ .dimensionMismatch 2 1 := by
  obtain ⟨-, refuses, fits, full⟩ := shapes_fit (K := Float)
  have refused : skewed.validate = .error (.invalidInstance "P must be 1x1, got 1x2") := by
    decide +kernel
  have accepted : (Config.standard : Config Float).validate = .ok () := by
    decide +kernel
  have made : Tester.make twoStarts.solvers.reference twoStarts.solvers.candidate .standard
      (fun _ => []) = .ok twoStarts := by
    rw [Tester.make, accepted]
    rfl
  refine ⟨(fits .standard .quiet Conic.coupled (by decide +kernel)).1,
    (refuses .standard .quiet skewed _ refused).2.2, ?_⟩
  intro trial reference candidate evaluated
  exact full _ _ _ _ _ _ _ made (fullLength_solver _) (fullLength_solver _) _ _ _ _ _ _ _ _
    evaluated 2 1

end InteriorPoint

end QuadraticTrials

import Mathlib
import QuadraticTrials.Proofs.Unsized.Method

/-!
On a program that has its sizes in its type, the method on data of any shape takes the steps of the
sized method: no operation breaks down, and both come to the same answer.
-/

namespace QuadraticTrials

variable {K : Type} {n m p : Nat}

-----------------------------------------------------------------------------------------
-- Sizes taken off
-----------------------------------------------------------------------------------------

/-- The program without its sizes. -/
@[simps]
def Program.unsized (prog : Program K n m p) : Unsized.Program K where
  P := prog.P.toGrid
  q := prog.q.toList
  G := prog.G.toGrid
  h := prog.h.toList
  A := prog.A.toGrid
  b := prog.b.toList

/-- The point without its sizes. -/
@[simps]
def Iterate.unsized (it : Iterate K n m p) : Unsized.Iterate K :=
  ⟨it.x.toList, it.s.toList, it.z.toList, it.y.toList⟩

/-- The direction without its sizes. -/
@[simps]
def Direction.unsized (dir : Direction K n m p) : Unsized.Direction K :=
  ⟨dir.dx.toList, dir.ds.toList, dir.dz.toList, dir.dy.toList⟩

/-- The residuals without their sizes. -/
@[simps]
def Residuals.unsized (res : Residuals K n m p) : Unsized.Residuals K :=
  ⟨res.dual.toList, res.eq.toList, res.ineq.toList⟩

/-- The visited point without its sizes. -/
@[simps]
def Record.unsized (r : Record K n m p) : Unsized.Record K :=
  ⟨r.index, r.iterate.unsized, r.residuals.unsized, r.objective, r.gap, r.step⟩

/-- What follows, without its sizes. -/
def Move.unsized : Move K n m p → Unsized.Move K
  | advance next length => .advance next.unsized length
  | stalled => .stalled
  | singular => .singular

variable [Scalar K]

-----------------------------------------------------------------------------------------
-- Points
-----------------------------------------------------------------------------------------

@[simp] theorem value?_objective (P : Dense K n n) (q x : Vector K n)
    : (Unsized.objective P.toGrid q.toList x.toList).value? = some (objective P q x) := by
  simp [Unsized.objective, objective]

@[simp] theorem Iterate.value?_advance (it : Iterate K n m p) (dir : Direction K n m p)
    (length : K)
    : (it.unsized.advance dir.unsized length).value? = some (it.advance dir length).unsized := by
  simp [Unsized.Iterate.advance, unsized, advance]

@[simp] theorem Iterate.value?_gap (it : Iterate K n m p) : it.unsized.gap.value? = some it.gap :=
  Unsized.value?_dot it.s it.z

@[simp] theorem Residuals.unsized_merit (res : Residuals K n m p) (gap : K)
    : res.unsized.merit gap = res.merit gap :=
  rfl

@[simp] theorem Direction.unsized_boundary (dir : Direction K n m p) (it : Iterate K n m p)
    : dir.unsized.boundary it.unsized = dir.boundary it :=
  rfl

namespace Program

variable (prog : Program K n m p)

@[simp] theorem value?_residuals (it : Iterate K n m p)
    : (prog.unsized.residuals it.unsized).value? = some (prog.residuals it).unsized := by
  simp [Unsized.Program.residuals, Residuals.unsized, residuals]

@[simp] theorem value?_decreasesMerit (it : Iterate K n m p) (merit : K) (dir : Direction K n m p)
    (length : K)
    : (prog.unsized.decreasesMerit it.unsized merit dir.unsized length).value?
      = some (prog.decreasesMerit it merit dir length) := by
  simp [Unsized.Program.decreasesMerit, decreasesMerit]
  rfl

@[simp] theorem value?_converged (it : Iterate K n m p) (res : Residuals K n m p)
    (objective tolerance : K)
    : (prog.unsized.converged it.unsized res.unsized objective tolerance).value?
      = some (prog.converged it res objective tolerance) := by
  simp [Unsized.Program.converged, converged]
  rfl

-----------------------------------------------------------------------------------------
-- Newton directions
-----------------------------------------------------------------------------------------

/-- Scaling rows computes each entry from two entries that exist. -/
theorem value?_weighted (d : Vector K m)
    : (Unsized.Grid.tabulate m n fun i j => do
        return (← Unsized.entry d.toList i) * (← Unsized.Grid.entry prog.G.toGrid i j)).value?
      = some (prog.G.scaleRows d).toGrid := by
  have entries (i : Fin m) (j : Fin n)
      : ((do return (← Unsized.entry d.toList i) * (← Unsized.Grid.entry prog.G.toGrid i j))
          : Checked K).value?
        = some (d.get i * (prog.G.get i).get j) := by
    simp
  refine (Unsized.Grid.value?_tabulate entries).trans ?_
  refine congrArg (fun a : Dense K m n => some a.toGrid) ?_
  refine Vec.ext_get (funext fun i => Vec.ext_get (funext fun j => ?_))
  simp [Dense.scaleRows]

theorem value?_hessian (d : Vector K m)
    : (prog.unsized.hessian d.toList).value? = some (prog.hessian d).toGrid := by
  rw [Unsized.Program.hessian, unsized_G, unsized_q, Vector.length_toList, Checked.value?_bind]
  rw [show prog.G.toGrid.rows = m from rfl, value?_weighted]
  simp [hessian]

/-- Copying the blocks into zeros makes the joined matrix, by position before or after each seam. -/
theorem put_blocks (d : Vector K m)
    : (((Dense.zeros : Dense K (n + p) (n + p)).put 0 0 (prog.hessian d)).put 0 n
        prog.A.transpose).put n 0 prog.A
      = prog.reducedMatrix d := by
  refine Vec.ext_get (funext fun i => Vec.ext_get (funext fun j => ?_))
  rw [Dense.get_put, Dense.get_put, Dense.get_put]
  refine Fin.addCases (fun i => ?_) (fun i => ?_) i <;>
    refine Fin.addCases (fun j => ?_) (fun j => ?_) j
  · simp [reducedMatrix, i.isLt.not_ge, j.isLt.not_ge]
  · simp [reducedMatrix]
  · simp [reducedMatrix]
  · simp [reducedMatrix, Dense.zeros]

/-- The blocks fit their places, and those of the equalities are not missed when there are none. -/
theorem value?_reducedMatrix (d : Vector K m)
    : (prog.unsized.reducedMatrix d.toList).value? = some (prog.reducedMatrix d).toGrid := by
  rw [Unsized.Program.reducedMatrix, Checked.value?_bind, value?_hessian, Option.bind_some]
  rw [unsized_q, unsized_b, unsized_A, Vector.length_toList, Vector.length_toList,
    Unsized.Grid.zeros_eq_toGrid, Unsized.Grid.transpose_toGrid, Checked.value?_bind,
    Unsized.Grid.value?_replace _ _ (by omega) (by omega), Option.bind_some, ← put_blocks]
  by_cases rows : 0 < p
  · rw [if_pos rows, Checked.value?_bind, Unsized.Grid.value?_replace _ _ (by omega) (by omega),
      Option.bind_some, Unsized.Grid.value?_replace _ _ (by omega) (by omega)]
  · obtain rfl : p = 0 := Nat.eq_zero_of_not_pos rows
    rw [if_neg rows, Dense.put_empty _ _ _ _ (.inr rfl), Dense.put_empty _ _ _ _ (.inl rfl)]
    rfl

/-- The two parts fill the right-hand side. -/
theorem value?_reducedVector (x : Vector K n) (y : Vector K p)
    : (prog.unsized.reducedVector x.toList y.toList).value? = some (x ++ y).toList := by
  rw [Unsized.Program.reducedVector, unsized_q, unsized_b, Vector.length_toList,
    Vector.length_toList, Unsized.replace, Checked.value?_bind, Checked.value?_perform (by simp),
    Option.bind_some]
  by_cases rows : 0 < p
  · rw [if_pos rows, Unsized.replace, Checked.value?_perform (by simp)]
    simp
  · obtain rfl : p = 0 := Nat.eq_zero_of_not_pos rows
    obtain rfl : y = #v[] := Vector.eq_empty
    rw [if_neg rows]
    simp

/-- The system is square and both parts can be cut out of its solution. -/
@[simp] theorem value?_solveReduced? (d : Vector K m) (x : Vector K n) (y : Vector K p)
    : (prog.unsized.solveReduced? d.toList x.toList y.toList).value?
      = some ((prog.solveReduced? d x y).map fun (x, y) => (x.toList, y.toList)) := by
  simp only [Unsized.Program.solveReduced?, Checked.value?_bind, value?_reducedMatrix,
    value?_reducedVector, Option.bind_some, Unsized.Grid.value?_solve?, solveReduced?]
  cases (prog.reducedMatrix d).solve? (x ++ y) with
  | none => rfl
  | some both =>
      by_cases finite : Vec.isFinite both
      · have all : both.toList.all Scalar.isFinite := finite
        simp only [Option.map_some, if_pos finite, if_pos all, Checked.value?_bind, unsized_q,
          unsized_b, Vector.length_toList, Unsized.value?_slice_left, Unsized.value?_slice_right,
          Option.bind_some, Checked.value?_pure]
      · have not_all : ¬both.toList.all Scalar.isFinite := finite
        simp only [Option.map_some, if_neg finite, if_neg not_all, Checked.value?_pure,
          Option.map_none]

@[simp] theorem value?_direction? (it : Iterate K n m p) (res : Residuals K n m p)
    (target : Vector K m)
    : (prog.unsized.direction? it.unsized res.unsized target.toList).value?
      = some ((prog.direction? it res target).map Direction.unsized) := by
  simp only [Unsized.Program.direction?, direction?, Checked.value?_bind, Iterate.unsized_s,
    Iterate.unsized_z, Residuals.unsized_ineq, Residuals.unsized_dual, Residuals.unsized_eq,
    unsized_G, Unsized.value?_quotient, Unsized.value?_times, Unsized.value?_minus,
    Unsized.negative_toList, Unsized.Grid.transpose_toGrid, Unsized.Grid.value?_mul,
    Option.bind_some, value?_solveReduced?]
  cases prog.solveReduced? _ _ _ with
  | none => rfl
  | some both => simp [Direction.unsized]

-----------------------------------------------------------------------------------------
-- Starting points
-----------------------------------------------------------------------------------------

@[simp] theorem shiftPositive_toList (v : Vector K m)
    : Unsized.Program.shiftPositive v.toList = (Vec.shiftPositive v).toList := by
  rw [Unsized.Program.shiftPositive, Vec.shiftPositive]
  cases leastOf v.toList with
  | none => rfl
  | some least =>
      by_cases positive : 0 < least
      · simp only [if_pos positive]
      · simp only [if_neg positive, Vector.toList_map]

theorem value?_leastSquaresStart?
    : prog.unsized.leastSquaresStart?.value?
      = some (prog.leastSquaresStart?.map Iterate.unsized) := by
  have ones : List.replicate prog.unsized.h.length (1 : K) = (Vector.replicate m 1).toList := by
    simp
  rw [Unsized.Program.leastSquaresStart?, ones]
  simp only [leastSquaresStart?, Checked.value?_bind, unsized_q, unsized_G, unsized_h, unsized_b,
    Unsized.negative_toList, Unsized.Grid.transpose_toGrid, Unsized.Grid.value?_mul,
    Unsized.value?_plus, Option.bind_some, value?_solveReduced?]
  cases prog.solveReduced? _ _ _ with
  | none => rfl
  | some both => simp [Iterate.unsized]

theorem unsized_originStart : prog.unsized.originStart = prog.originStart.map Iterate.unsized := by
  simp only [Unsized.Program.originStart, originStart, unsized_h, unsized_b,
    Unsized.maxAbs_toList]
  split
  · rfl
  · split
    · rfl
    · simp [Iterate.unsized, Except.map]

@[simp] theorem value?_start (infeasible : Bool)
    : (prog.unsized.start infeasible).value?
      = some ((prog.start infeasible).map Iterate.unsized) := by
  cases infeasible with
  | false =>
      rw [Unsized.Program.start, start, unsized_originStart]
      rfl
  | true =>
      rw [Unsized.Program.start, start, if_pos rfl, if_pos rfl, Checked.value?_bind,
        value?_leastSquaresStart?]
      cases prog.leastSquaresStart? with
      | none => rfl
      | some it => rfl

-----------------------------------------------------------------------------------------
-- Steps
-----------------------------------------------------------------------------------------

@[simp] theorem value?_centering (it : Iterate K n m p) (affine : Direction K n m p) (mu : K)
    : (prog.unsized.centering it.unsized affine.unsized mu).value?
      = some (centering it affine mu) := by
  simp [Unsized.Program.centering, centering, Iterate.advance, Iterate.gap]

/-- Halving goes on alike while the tests agree, by induction on the trials. -/
theorem value?_backtrack {accept : K → Bool} {test : K → Checked Bool}
    (agree : ∀ length, (test length).value? = some (accept length)) (trials : Nat) (length : K)
    : (Unsized.Program.backtrack test trials length).value?
      = some (backtrack accept trials length) := by
  induction trials generalizing length with
  | zero => rfl
  | succ trials ih =>
      rw [Unsized.Program.backtrack, backtrack]
      split
      · rw [Checked.value?_bind, agree, Option.bind_some]
        split
        · rfl
        · exact ih _
      · rfl

@[simp] theorem value?_affineDirection? (r : Record K n m p)
    : (prog.unsized.affineDirection? r.unsized).value?
      = some ((prog.affineDirection? r).map Direction.unsized) := by
  simp [Unsized.Program.affineDirection?, affineDirection?]

omit [Scalar K] in
theorem target_toList (value : K)
    : List.replicate prog.unsized.h.length value = (Vector.replicate m value).toList := by
  simp

@[simp] theorem value?_correctedDirection? (r : Record K n m p) (affine : Direction K n m p)
    : (prog.unsized.correctedDirection? r.unsized affine.unsized
        (centering r.iterate affine (meanGap m r.gap)) (meanGap m r.gap)).value?
      = some ((prog.correctedDirection? r affine).map Direction.unsized) := by
  rw [Unsized.Program.correctedDirection?, target_toList]
  simp [correctedDirection?, -Vector.toList_replicate]

@[simp] theorem value?_dampedDirection? (r : Record K n m p) (affine : Direction K n m p)
    : (prog.unsized.dampedDirection? r.unsized
        (centering r.iterate affine (meanGap m r.gap)) (meanGap m r.gap)).value?
      = some ((prog.dampedDirection? r affine).map Direction.unsized) := by
  rw [Unsized.Program.dampedDirection?, target_toList]
  simp [dampedDirection?, -Vector.toList_replicate]

@[simp] theorem value?_improves (r : Record K n m p) (dir : Direction K n m p) (length : K)
    : (prog.unsized.improves r.unsized dir.unsized length).value?
      = some (prog.improves r dir length) := by
  simp [Unsized.Program.improves, improves]

@[simp] theorem unsized_firstLength (fraction : K) (r : Record K n m p) (dir : Direction K n m p)
    : Unsized.Program.firstLength fraction r.unsized dir.unsized = firstLength fraction r dir :=
  rfl

theorem value?_dampedMove (fraction : K) (r : Record K n m p) (affine : Direction K n m p)
    : (prog.unsized.dampedMove fraction r.unsized
        (centering r.iterate affine (meanGap m r.gap)) (meanGap m r.gap)).value?
      = some (prog.dampedMove fraction r affine).unsized := by
  rw [Unsized.Program.dampedMove, dampedMove, Checked.value?_bind, value?_dampedDirection?]
  cases prog.dampedDirection? r affine with
  | none => rfl
  | some dir =>
      simp only [Option.map_some, Option.bind_some, Checked.value?_bind, unsized_firstLength,
        value?_backtrack (prog.value?_improves r dir)]
      cases backtrack (prog.improves r dir) maxTrials (firstLength fraction r dir) with
      | none => rfl
      | some length => simp [Move.unsized]

theorem value?_correctedMove (fraction : K) (r : Record K n m p) (affine : Direction K n m p)
    : (prog.unsized.correctedMove fraction r.unsized affine.unsized).value?
      = some (prog.correctedMove fraction r affine).unsized := by
  simp only [Unsized.Program.correctedMove, correctedMove, Checked.value?_bind, unsized_h,
    Vector.length_toList, Record.unsized_gap, Record.unsized_iterate, value?_centering,
    Option.bind_some, value?_correctedDirection?]
  cases prog.correctedDirection? r affine with
  | none => rfl
  | some dir =>
      simp only [Option.map_some, Checked.value?_bind, unsized_firstLength, value?_improves,
        Option.bind_some]
      split
      · by_cases short : firstLength fraction r dir < minStep
        · simp [short, Move.unsized]
        · simp [short, Move.unsized]
      · exact prog.value?_dampedMove fraction r affine

theorem value?_move (fraction : K) (r : Record K n m p)
    : (prog.unsized.move fraction r.unsized).value? = some (prog.move fraction r).unsized := by
  simp only [Unsized.Program.move, move, Checked.value?_bind, value?_affineDirection?,
    Option.bind_some, unsized_h, Vector.length_toList]
  cases prog.affineDirection? r with
  | none => rfl
  | some affine =>
      simp only [Option.map_some]
      split
      · simp [Move.unsized]
      · exact prog.value?_correctedMove fraction r affine

@[simp] theorem value?_record (index : Nat) (step : K) (it : Iterate K n m p)
    : (prog.unsized.record index step it.unsized).value?
      = some (prog.record index step it).unsized := by
  simp [Unsized.Program.record, record, Record.unsized]

-----------------------------------------------------------------------------------------
-- Runs
-----------------------------------------------------------------------------------------

/-- A run is followed step by step to the same answer, by induction on the steps still allowed. -/
theorem value?_answerFrom [NumberText K] (fraction tolerance : K) (remaining : Nat)
    (r : Record K n m p)
    : (prog.unsized.answerFrom fraction tolerance remaining r.unsized).value?
      = some (InteriorPoint.answer (prog.runFrom fraction tolerance remaining r)) := by
  have tested : (prog.unsized.converged r.unsized.iterate r.unsized.residuals r.unsized.objective
      tolerance).value? = some (prog.accepts tolerance r) :=
    prog.value?_converged r.iterate r.residuals r.objective tolerance
  induction remaining generalizing r with
  | zero =>
      rw [Unsized.Program.answerFrom, runFrom, Checked.value?_bind, tested, Option.bind_some]
      split
      · rfl
      · rfl
  | succ remaining ih =>
      rw [Unsized.Program.answerFrom, runFrom, Checked.value?_bind, tested, Option.bind_some]
      split
      · rfl
      · rw [Checked.value?_bind, value?_move, Option.bind_some]
        cases prog.move fraction r with
        | stalled => rfl
        | singular => rfl
        | advance next length =>
            rw [Move.unsized, Checked.value?_bind, Record.unsized_index, value?_record,
              Option.bind_some]
            exact ih _ (prog.value?_converged _ _ _ _)

/-- The checks before a run are the same, and so is the answer. -/
theorem value?_answer [NumberText K] (settings : InteriorPoint.Settings K)
    : (prog.unsized.answer settings).value?
      = some ((InteriorPoint.run? settings prog).bind InteriorPoint.answer) := by
  rw [Unsized.Program.answer, InteriorPoint.run?]
  split
  · rw [Checked.value?_bind, value?_start, Option.bind_some]
    cases prog.start settings.infeasibleStart with
    | error fault => rfl
    | ok it =>
        rw [Except.map, Checked.value?_bind, value?_record, Option.bind_some]
        exact prog.value?_answerFrom _ _ _ _
  · rfl

end Program

-----------------------------------------------------------------------------------------
-- Instances
-----------------------------------------------------------------------------------------

namespace Instance

omit [Scalar K] in
/-- An optional block is its sized form without the size, by cases on its presence. -/
theorem blockParts_eq {block? : Option (Block K)} (shaped : ∀ block ∈ block?, BlockShaped n block)
    : Unsized.blockParts n block?
      = ((blockMatrix block? shaped).toGrid, (blockRhs block?).toList) := by
  cases block? with
  | none => rfl
  | some block => exact Prod.ext (Grid.toGrid_toDense _ _ _).symm rfl

omit [Scalar K] in
/-- The program of an instance is its sized form without the sizes. -/
theorem unsized_toProgram {inst : Instance K} (shaped : inst.WellShaped)
    : (inst.toProgram shaped).unsized = Unsized.Program.ofInstance inst := by
  have cost : (inst.cost.toDense shaped.cost_rows shaped.cost_cols).toGrid = inst.cost :=
    Grid.toGrid_toDense _ _ _
  rw [Unsized.Program.ofInstance, blockParts_eq shaped.inequality, blockParts_eq shaped.equality,
    Program.unsized]
  simp only [toProgram, cost]
  rfl

end Instance

namespace InteriorPoint

variable [NumberText K] {inst : Instance K}

theorem start?_of_check (passed : inst.check = .ok ()) (settings : Settings K)
    (options : Options K)
    : start? settings options inst
      = (run? (settings.withOptions options)
          (inst.toProgram (Instance.wellShaped_of_check passed))).mapError Fault.toError := by
  unfold start?
  split
  case h_1 fault refused =>
    rw [passed] at refused
    cases refused
  case h_2 => rfl

/-- On a valid instance no operation breaks down, and the answer is that of the sized method. -/
theorem value?_solve (valid : inst.validate = .ok ()) (settings : Settings K)
    (options : Options K)
    : (Unsized.solve settings options inst).value? = some (solve settings options inst) := by
  have passed := Instance.check_of_validate valid
  rw [Unsized.solve, valid, solve, start?_of_check passed]
  simp only [Checked.value?_bind, ← Instance.unsized_toProgram
    (Instance.wellShaped_of_check passed), Program.value?_answer, Option.bind_some]
  cases run? (settings.withOptions options)
      (inst.toProgram (Instance.wellShaped_of_check passed)) with
  | error fault => rfl
  | ok run => rfl

end InteriorPoint

end QuadraticTrials

import Mathlib
import QuadraticTrials.Proofs.Conic.Problem
import QuadraticTrials.Proofs.Unsized.Safety

/-!
Blocks without rows. To put one in place of an absent block changes neither the program that the
interior point method runs on nor the matrices and vectors of the conic form. It does show in the
list of cones, in which every block that is there has its cone, even one without rows.
-/

namespace QuadraticTrials

variable {K : Type}

-----------------------------------------------------------------------------------------
-- Filled instances
-----------------------------------------------------------------------------------------

namespace Instance

/-- The block without rows in `n` variables. -/
def emptyBlock (n : Nat) : Block K :=
  ⟨⟨0, n, Vec.empty⟩, []⟩

/-- An optional block; an absent one may be filled in by one without rows. -/
def fillBlock (n : Nat) (chosen : Bool) : Option (Block K) → Option (Block K)
  | some block => some block
  | none => if chosen then some (emptyBlock n) else none

/-- The instance with blocks without rows in place of the absent ones on chosen sides. -/
def withEmptyBlocks (inst : Instance K) (chosen : Side → Bool) : Instance K :=
  { inst with
    inequality := fillBlock inst.numVars (chosen .inequality) inst.inequality
    equality := fillBlock inst.numVars (chosen .equality) inst.equality }

/-- What holds of the blocks that were there and of one without rows holds after filling in. -/
theorem forall_mem_fillBlock {n : Nat} {chosen : Bool} {block? : Option (Block K)}
    {holds : Block K → Prop} (before : ∀ block ∈ block?, holds block)
    (empty : holds (emptyBlock n))
    : ∀ block ∈ fillBlock n chosen block?, holds block := by
  intro block member
  cases block? with
  | some given => exact before block member
  | none =>
      cases chosen with
      | true => exact Option.some.inj member ▸ empty
      | false => cases member

theorem blockParts_fillBlock (n : Nat) (chosen : Bool) (block? : Option (Block K))
    : Unsized.blockParts n (fillBlock n chosen block?) = Unsized.blockParts n block? := by
  cases block? with
  | some given => rfl
  | none => cases chosen <;> rfl

/-- The program is that of the instance, as a block without rows has the parts of an absent one. -/
theorem ofInstance_withEmptyBlocks (inst : Instance K) (chosen : Side → Bool)
    : Unsized.Program.ofInstance (inst.withEmptyBlocks chosen)
      = Unsized.Program.ofInstance inst := by
  have inequality := blockParts_fillBlock inst.numVars (chosen .inequality) inst.inequality
  have equality := blockParts_fillBlock inst.numVars (chosen .equality) inst.equality
  simp only [Unsized.Program.ofInstance, withEmptyBlocks] at *
  rw [← inequality, ← equality]
  rfl

section Validity

variable [Scalar K]

/-- A filled instance is as valid as it was, since a block without rows has nothing that could be at
fault.
-/
theorem validate_withEmptyBlocks {inst : Instance K} (valid : inst.validate = .ok ())
    (chosen : Side → Bool)
    : (inst.withEmptyBlocks chosen).validate = .ok () := by
  obtain ⟨shaped, finite⟩ := validate_eq_ok_iff.mp valid
  have fits : BlockShaped inst.numVars (emptyBlock inst.numVars : Block K) := ⟨rfl, rfl⟩
  have entries : BlockFinite (emptyBlock inst.numVars : Block K) := ⟨fun i => i.elim0, nofun⟩
  refine validate_eq_ok_iff.mpr ⟨?_, ?_⟩
  · exact {
      vars_pos := shaped.vars_pos
      cost_rows := shaped.cost_rows
      cost_cols := shaped.cost_cols
      inequality := forall_mem_fillBlock shaped.inequality fits
      equality := forall_mem_fillBlock shaped.equality fits
    }
  · exact {
      cost := finite.cost
      linear := finite.linear
      inequality := forall_mem_fillBlock finite.inequality entries
      equality := forall_mem_fillBlock finite.equality entries
    }

/-- The interior point method does not tell them apart, since it runs on the same program. -/
theorem solve_withEmptyBlocks [NumberText K] {inst : Instance K} (valid : inst.validate = .ok ())
    (chosen : Side → Bool) (settings : InteriorPoint.Settings K) (options : Options K)
    : InteriorPoint.solve settings options (inst.withEmptyBlocks chosen)
      = InteriorPoint.solve settings options inst := by
  have filled := validate_withEmptyBlocks valid chosen
  apply Option.some.inj
  rw [← InteriorPoint.value?_solve filled, ← InteriorPoint.value?_solve valid, Unsized.solve,
    Unsized.solve, filled, valid, ofInstance_withEmptyBlocks]

end Validity

end Instance

-----------------------------------------------------------------------------------------
-- Conic data
-----------------------------------------------------------------------------------------

/-- A program is determined by what is left of it without its sizes. -/
theorem Program.heq_of_unsized {n m p n' m' p' : Nat} {prog : Program K n m p}
    {prog' : Program K n' m' p'} (same : prog'.unsized = prog.unsized)
    : n' = n ∧ m' = m ∧ p' = p ∧ HEq prog' prog := by
  obtain ⟨P, q, G, h, A, b⟩ := prog
  obtain ⟨P', q', G', h', A', b'⟩ := prog'
  obtain ⟨cost, linear, matrix, bounds, rows, constants⟩ := Unsized.Program.mk.inj same
  cases cost
  cases matrix
  cases rows
  cases Vector.toList_inj.mp linear
  cases Vector.toList_inj.mp bounds
  cases Vector.toList_inj.mp constants
  exact ⟨rfl, rfl, rfl, HEq.rfl⟩

namespace Conic

variable [Scalar K]

/-- The conic form of a program under some cones. -/
def ofProgram {n m p : Nat} (prog : Program K n m p) (cones : List Cone) : Conic K where
  P := .ofUpper prog.P
  q := prog.q.toList
  A := .ofDense (stacked prog)
  b := (prog.b ++ prog.h).toList
  cones

theorem ofProgram_congr {n m p n' m' p' : Nat} {prog : Program K n m p}
    {prog' : Program K n' m' p'} (same : prog'.unsized = prog.unsized) (cones : List Cone)
    : ofProgram prog' cones = ofProgram prog cones := by
  obtain ⟨rfl, rfl, rfl, same⟩ := Program.heq_of_unsized same
  rw [eq_of_heq same]

/-- Matrices and vectors are those of the instance; the cones are the filled instance's own. -/
theorem ofInstance_withEmptyBlocks {inst : Instance K} (shaped : inst.WellShaped)
    {chosen : Side → Bool} (shaped' : (inst.withEmptyBlocks chosen).WellShaped)
    : ofInstance (inst.withEmptyBlocks chosen) shaped'
      = { ofInstance inst shaped with cones := conesOf (inst.withEmptyBlocks chosen) } := by
  have same : ((inst.withEmptyBlocks chosen).toProgram shaped').unsized
      = (inst.toProgram shaped).unsized := by
    rw [Instance.unsized_toProgram, Instance.unsized_toProgram,
      Instance.ofInstance_withEmptyBlocks]
  exact ofProgram_congr same _

/-- The answer on a problem of any sizes with a linear cost. -/
def answerOn [SquareRoot K] {n r : Nat} (q : List K) (prob : Embedding.Problem K n r)
    : Solution K :=
  let prob := prob.balanced
  match prob.weighted.start? with
  | none => ⟨q.map fun _ => 0, .numericalError, 0, 0⟩
  | some start =>
      let ending := prob.follow 0 none maxIterations start
      let x := (prob.weights.restore ending.point).x.map (· / ending.point.tau)
      ⟨x.toList, ending.status, objective prob.given.P prob.given.q x, ending.steps⟩

/-- The answer on a conic program is that on its problem, by cases on the starting point. -/
theorem answer_eq_answerOn [SquareRoot K] (c : Conic K)
    : answer c = answerOn c.q (Embedding.Problem.ofConic c) := by
  unfold answer answerOn
  dsimp only
  cases (Embedding.Problem.ofConic c).balanced.weighted.start? <;> rfl

/-- Cones enter an answer through the rows whose slack they hold at zero. -/
theorem answer_congr [SquareRoot K] (c : Conic K) {cones : List Cone}
    (same : zeroRows cones = zeroRows c.cones)
    : answer { c with cones } = answer c := by
  have rows : Embedding.rowsOf { c with cones } = Embedding.rowsOf c := by
    simp only [Embedding.rowsOf, same]
  rw [answer_eq_answerOn, answer_eq_answerOn]
  exact congrArg (fun rows => answerOn c.q (Embedding.Problem.ofRows c rows)) rows

-----------------------------------------------------------------------------------------
-- Cones
-----------------------------------------------------------------------------------------

section Cones

omit [Scalar K]

/-- The cones take up as many rows as there are, by cases on the presence of both blocks. -/
theorem sum_size_conesOf (inst : Instance K)
    : ((conesOf inst).map Cone.size).sum = inst.numEqualities + inst.numInequalities := by
  rw [conesOf, Instance.numEqualities, Instance.numInequalities]
  cases inst.equality <;> cases inst.inequality <;> simp [Instance.blockRows, Cone.size]

/-- A cone without rows is that of a block that is there and has none. -/
theorem exists_size_eq_zero_iff {inst : Instance K}
    : (∃ cone ∈ conesOf inst, cone.size = 0)
      ↔ ∃ side, ∃ block ∈ inst.block? side, block.rhs = [] := by
  constructor
  · rintro ⟨cone, member, empty⟩
    rcases List.mem_append.mp member with member | member
    · obtain ⟨block, present, rfl⟩ := Option.map_eq_some_iff.mp (Option.mem_toList.mp member)
      exact ⟨.equality, block, present, List.length_eq_zero_iff.mp empty⟩
    · obtain ⟨block, present, rfl⟩ := Option.map_eq_some_iff.mp (Option.mem_toList.mp member)
      exact ⟨.inequality, block, present, List.length_eq_zero_iff.mp empty⟩
  · rintro ⟨side, block, present, empty⟩
    cases side with
    | equality =>
        refine ⟨.zero block.rhs.length, List.mem_append_left _ ?_, by simp [Cone.size, empty]⟩
        exact Option.mem_toList.mpr (Option.map_eq_some_iff.mpr ⟨block, present, rfl⟩)
    | inequality =>
        refine ⟨.nonnegative block.rhs.length, List.mem_append_right _ ?_,
          by simp [Cone.size, empty]⟩
        exact Option.mem_toList.mpr (Option.map_eq_some_iff.mpr ⟨block, present, rfl⟩)

/-- The cone of a filled side has rows only if that of the side had them, by cases on both. -/
theorem filter_cone_fillBlock (cone : Nat → Cone) (sized : ∀ size, (cone size).size = size)
    (n : Nat) (chosen : Bool) (block? : Option (Block K))
    : ((Instance.fillBlock n chosen block?).map fun block => cone block.rhs.length).toList.filter
          (0 < ·.size)
      = (block?.map fun block => cone block.rhs.length).toList.filter (0 < ·.size) := by
  cases block? with
  | some given => rfl
  | none =>
      cases chosen with
      | true => simp [Instance.fillBlock, Instance.emptyBlock, sized]
      | false => rfl

/-- Apart from cones without rows, the cones stay what they were. -/
theorem filter_conesOf_withEmptyBlocks (inst : Instance K) (chosen : Side → Bool)
    : (conesOf (inst.withEmptyBlocks chosen)).filter (0 < ·.size)
      = (conesOf inst).filter (0 < ·.size) := by
  rw [conesOf, conesOf, List.filter_append, List.filter_append]
  exact congrArg₂ (· ++ ·) (filter_cone_fillBlock Cone.zero (fun _ => rfl) _ _ _)
    (filter_cone_fillBlock Cone.nonnegative (fun _ => rfl) _ _ _)

theorem zeroRows_withEmptyBlocks (inst : Instance K) (chosen : Side → Bool)
    : zeroRows (conesOf (inst.withEmptyBlocks chosen)) = zeroRows (conesOf inst) := by
  have rows (n : Nat) (chosen : Bool) (block? : Option (Block K))
      : Instance.blockRows (Instance.fillBlock n chosen block?) = Instance.blockRows block? := by
    cases block? with
    | some given => rfl
    | none => cases chosen <;> rfl
  rw [zeroRows_conesOf, zeroRows_conesOf, Instance.numEqualities, Instance.numEqualities,
    Instance.numInequalities, Instance.numInequalities, Instance.withEmptyBlocks, rows, rows]

end Cones

theorem solve_of_check [SquareRoot K] {inst : Instance K} (passed : inst.check = .ok ())
    : solve inst = .ok (answer (ofInstance inst (Instance.wellShaped_of_check passed))) := by
  unfold solve
  split
  case h_1 fault refused => cases passed.symm.trans refused
  case h_2 => rfl

-----------------------------------------------------------------------------------------
-- What a block without rows changes
-----------------------------------------------------------------------------------------

/-- A block without rows in place of an absent one leaves a valid instance valid, the program of the
interior point method and its answers as they are, and the cost and the rows of the conic form too.
Only the list of cones tells, which has a cone without rows exactly for a block that has none. The
cones still take up all rows. All this is about the data that are handed over; the last fact on a
filled instance, that `solve` answers the same, is about the method for conic forms that stands in
this library for the solver that receives them.
-/
theorem empty_blocks_show_in_cones [SquareRoot K] [NumberText K]
    : (∀ (inst : Instance K) chosen,
          inst.validate = .ok () →
            let filled := inst.withEmptyBlocks chosen
            filled.validate = .ok ()
              ∧ Unsized.Program.ofInstance filled = Unsized.Program.ofInstance inst
              ∧ (∀ settings options,
                  InteriorPoint.solve settings options filled
                    = InteriorPoint.solve settings options inst)
              ∧ (∃ shaped shaped',
                  ofInstance filled shaped'
                    = { ofInstance inst shaped with cones := conesOf filled })
              ∧ (conesOf filled).filter (0 < ·.size) = (conesOf inst).filter (0 < ·.size)
              ∧ solve filled = solve inst)
        ∧ ∀ (inst : Instance K) shaped,
            ((ofInstance inst shaped).cones.map Cone.size).sum = (ofInstance inst shaped).A.rows
              ∧ (ofInstance inst shaped).A.rows = (ofInstance inst shaped).b.length
              ∧ ((∃ cone ∈ (ofInstance inst shaped).cones, cone.size = 0)
                ↔ ∃ side, ∃ block ∈ inst.block? side, block.rhs = []) := by
  constructor
  · intro inst chosen valid
    have valid' := Instance.validate_withEmptyBlocks valid chosen
    have passed := Instance.check_of_validate valid
    have passed' := Instance.check_of_validate valid'
    have data := ofInstance_withEmptyBlocks (Instance.wellShaped_of_check passed)
      (Instance.wellShaped_of_check passed')
    refine ⟨valid', Instance.ofInstance_withEmptyBlocks inst chosen,
      Instance.solve_withEmptyBlocks valid chosen, ⟨_, _, data⟩,
      filter_conesOf_withEmptyBlocks inst chosen, ?_⟩
    rw [solve_of_check passed', solve_of_check passed, data]
    exact congrArg Except.ok (answer_congr _ (zeroRows_withEmptyBlocks inst chosen))
  · intro inst shaped
    refine ⟨sum_size_conesOf inst, ?_, exists_size_eq_zero_iff⟩
    exact Vector.length_toList.symm

/-- The minimization of `½ |x|² + x₁ + 2 x₂` without constraints. -/
def unconstrained : Instance Float :=
  ⟨⟨2, 2, #v[#v[1.0, 0.0], #v[0.0, 1.0]]⟩, [1, 2], none, none⟩

/-- An equality block without rows has a cone without rows, and only that tells it from no block. -/
theorem unconstrained_with_empty_block
    : conesOf (unconstrained.withEmptyBlocks (· == .equality)) = [.zero 0]
        ∧ conesOf unconstrained = []
        ∧ (unconstrained.withEmptyBlocks (· == .equality)).validate = .ok ()
        ∧ solve (unconstrained.withEmptyBlocks (· == .equality)) = solve unconstrained := by
  obtain ⟨valid', -, -, -, -, same⟩ :=
    empty_blocks_show_in_cones.1 unconstrained (· == .equality) (by decide +kernel)
  exact ⟨rfl, rfl, valid', same⟩

/-- It is not so that the cones stay the same, nor that all of them have rows. -/
theorem cones_not_kept
    : ¬∀ (inst : Instance Float) chosen,
        inst.validate = .ok () →
          conesOf (inst.withEmptyBlocks chosen) = conesOf inst
            ∧ ∀ cone ∈ conesOf (inst.withEmptyBlocks chosen), 0 < cone.size := by
  intro kept
  have same := (kept unconstrained (· == .equality) (by decide +kernel)).1
  cases same

end Conic

end QuadraticTrials

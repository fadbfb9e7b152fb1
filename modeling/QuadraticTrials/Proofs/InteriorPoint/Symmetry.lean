import Mathlib
import QuadraticTrials.Proofs.InteriorPoint.Relabelling
import QuadraticTrials.Proofs.Unsized.Safety

/-!
Answers on relabelled instances. The order of the variables and of the constraint rows is no part of
a program: the solver fails alike on every order, or answers with the same point in that order.
-/

namespace QuadraticTrials

open Matrix

/-- Programs with the same entries are equal. -/
theorem Program.ext_get {K : Type} {n m p : Nat} {first second : Program K n m p}
    (P : first.P.toMatrix = second.P.toMatrix) (q : first.q.get = second.q.get)
    (G : first.G.toMatrix = second.G.toMatrix) (h : first.h.get = second.h.get)
    (A : first.A.toMatrix = second.A.toMatrix) (b : first.b.get = second.b.get)
    : first = second := by
  cases first
  cases second
  simp only [Program.mk.injEq]
  exact ⟨Dense.ext_toMatrix P, Vec.ext_get q, Dense.ext_toMatrix G, Vec.ext_get h,
    Dense.ext_toMatrix A, Vec.ext_get b⟩

namespace Grid

variable {K : Type} {rows cols : Nat}

/-- The matrix with given entries. -/
def ofFn (f : Fin rows → Fin cols → K) : Grid K :=
  Dense.toGrid (Vector.ofFn fun i => Vector.ofFn (f i))

theorem entry_ofFn [Zero K] (f : Fin rows → Fin cols → K) (i : Fin rows) (j : Fin cols)
    : (ofFn f).entry i j = f i j := by
  rw [ofFn, Dense.entry_toGrid, Vec.get_ofFn, Vec.get_ofFn]

end Grid

namespace Instance

variable {K : Type} [Field K]

-----------------------------------------------------------------------------------------
-- Relabelled instances
-----------------------------------------------------------------------------------------

/-- The block with its rows and its columns in another order. -/
def relabelBlock {n : Nat} (vars : Equiv.Perm (Fin n))
    : (block? : Option (Block K)) → Equiv.Perm (Fin (blockRows block?)) → Option (Block K)
  | none, _ => none
  | some block, rows =>
      some {
        matrix := .ofFn fun i j => block.matrix.entry (rows i) (vars j)
        rhs := List.ofFn fun i => block.rhs.get (rows i)
      }

/-- The instance with its variables and its rows of both kinds in another order. -/
def relabel (inst : Instance K) (vars : Equiv.Perm (Fin inst.numVars))
    (inequalities : Equiv.Perm (Fin inst.numInequalities))
    (equalities : Equiv.Perm (Fin inst.numEqualities))
    : Instance K where
  cost := .ofFn fun i j => inst.cost.entry (vars i) (vars j)
  linear := List.ofFn fun i => inst.linear.get (vars i)
  inequality := relabelBlock vars inst.inequality inequalities
  equality := relabelBlock vars inst.equality equalities

section Block

variable {n n' : Nat} {vars : Equiv.Perm (Fin n)} {block? : Option (Block K)}
  {rows : Equiv.Perm (Fin (blockRows block?))}

theorem blockRows_relabelBlock : blockRows (relabelBlock vars block? rows) = blockRows block? := by
  cases block? with
  | none => rfl
  | some block => exact List.length_ofFn

theorem blockShaped_relabelBlock : ∀ block ∈ relabelBlock vars block? rows, BlockShaped n block := by
  cases block? with
  | none => exact fun block member => nomatch member
  | some block =>
      rintro _ ⟨⟩
      exact ⟨List.length_ofFn.symm, rfl⟩

/-- The rows of a relabelled block, by cases on its presence. -/
theorem blockCoefficients_relabelBlock (same : n' = n)
    : blockCoefficients n' (relabelBlock vars block? rows)
      = (blockCoefficients n block?).submatrix ((finCongr blockRows_relabelBlock).trans rows)
          ((finCongr same).trans vars) := by
  subst same
  cases block? with
  | none => exact Matrix.ext fun i => i.elim0
  | some block =>
      ext i j
      exact Grid.entry_ofFn (fun i j => block.matrix.entry (rows i) (vars j))
        (finCongr blockRows_relabelBlock i) j

theorem blockConstants_relabelBlock
    : blockConstants (relabelBlock vars block? rows)
      = blockConstants block? ∘ (finCongr blockRows_relabelBlock).trans rows := by
  cases block? with
  | none => exact funext fun i => i.elim0
  | some block =>
      funext i
      have inside : i.val < (List.ofFn fun i => block.rhs.get (rows i)).length := i.isLt
      have listed : (List.ofFn fun i => block.rhs.get (rows i)).getD i 0
          = block.rhs.get (rows (finCongr blockRows_relabelBlock i)) := by
        rw [List.getD_eq_getElem _ _ inside, List.getElem_ofFn]
        rfl
      refine listed.trans ?_
      exact (List.getD_eq_getElem _ _ (Fin.isLt _)).symm

end Block

variable {inst : Instance K} {vars : Equiv.Perm (Fin inst.numVars)}
  {inequalities : Equiv.Perm (Fin inst.numInequalities)}
  {equalities : Equiv.Perm (Fin inst.numEqualities)}

theorem numVars_relabel
    : (inst.relabel vars inequalities equalities).numVars = inst.numVars :=
  List.length_ofFn

/-- The labels of a relabelled instance. -/
def relabelling (inst : Instance K) (vars : Equiv.Perm (Fin inst.numVars))
    (inequalities : Equiv.Perm (Fin inst.numInequalities))
    (equalities : Equiv.Perm (Fin inst.numEqualities))
    : Relabelling (inst.relabel vars inequalities equalities).numVars
        (inst.relabel vars inequalities equalities).numInequalities
        (inst.relabel vars inequalities equalities).numEqualities inst.numVars
        inst.numInequalities inst.numEqualities where
  vars := (finCongr numVars_relabel).trans vars
  inequalities := (finCongr blockRows_relabelBlock).trans inequalities
  equalities := (finCongr blockRows_relabelBlock).trans equalities

theorem wellShaped_relabel [LinearOrder K] (shaped : inst.WellShaped)
    : (inst.relabel vars inequalities equalities).WellShaped where
  vars_pos := by
    rw [numVars_relabel]
    exact shaped.vars_pos
  cost_rows := numVars_relabel.symm
  cost_cols := numVars_relabel.symm
  inequality := by
    rw [numVars_relabel]
    exact blockShaped_relabelBlock
  equality := by
    rw [numVars_relabel]
    exact blockShaped_relabelBlock

theorem costMatrix_relabel
    : (inst.relabel vars inequalities equalities).costMatrix
      = inst.costMatrix.submatrix ((finCongr numVars_relabel).trans vars)
          ((finCongr numVars_relabel).trans vars) := by
  ext i j
  exact Grid.entry_ofFn (fun i j => inst.cost.entry (vars i) (vars j)) (finCongr numVars_relabel i)
    (finCongr numVars_relabel j)

theorem costVector_relabel
    : (inst.relabel vars inequalities equalities).costVector
      = inst.costVector ∘ (finCongr numVars_relabel).trans vars := by
  funext i
  exact List.get_ofFn _ i

/-- The sized form of a relabelled instance is the relabelled sized form, part by part. -/
theorem toProgram_relabel [LinearOrder K] (shaped : inst.WellShaped)
    (shaped' : (inst.relabel vars inequalities equalities).WellShaped)
    : (inst.relabel vars inequalities equalities).toProgram shaped'
      = (inst.relabelling vars inequalities equalities).program (inst.toProgram shaped) := by
  refine Program.ext_get ?_ ?_ ?_ ?_ ?_ ?_
  · rw [toProgram_P, costMatrix_relabel, Relabelling.program_P, Dense.toMatrix_relabel, toProgram_P]
    rfl
  · rw [toProgram_q, costVector_relabel, Relabelling.program_q, Vec.get_relabel, toProgram_q]
    rfl
  · rw [toProgram_G, Relabelling.program_G, Dense.toMatrix_relabel, toProgram_G]
    exact blockCoefficients_relabelBlock numVars_relabel
  · rw [toProgram_h, Relabelling.program_h, Vec.get_relabel, toProgram_h]
    exact blockConstants_relabelBlock
  · rw [toProgram_A, Relabelling.program_A, Dense.toMatrix_relabel, toProgram_A]
    exact blockCoefficients_relabelBlock numVars_relabel
  · rw [toProgram_b, Relabelling.program_b, Vec.get_relabel, toProgram_b]
    exact blockConstants_relabelBlock

end Instance

-----------------------------------------------------------------------------------------
-- Answers
-----------------------------------------------------------------------------------------

namespace InteriorPoint

variable {K ε ε' : Type} {n' m' p' n m p : Nat}

/-- Two results are the same failure, or solutions that differ in the order of the point only. -/
inductive Relabels (vars : Fin n' ≃ Fin n) : Except ε (Solution K) → Except ε (Solution K) → Prop
  | failed (error : ε) : Relabels vars (.error error) (.error error)
  | answered (x : Vector K n) (status : Status) (objective : K) (iterations : Nat)
    : Relabels vars (.ok ⟨x.toList, status, objective, iterations⟩)
        (.ok ⟨(Vec.relabel vars x).toList, status, objective, iterations⟩)

theorem Relabels.mapError {vars : Fin n' ≃ Fin n} {result result' : Except ε (Solution K)}
    (relabels : Relabels vars result result') (f : ε → ε')
    : Relabels vars (result.mapError f) (result'.mapError f) := by
  cases relabels with
  | failed error => exact .failed (f error)
  | answered x status objective iterations => exact .answered x status objective iterations

/-- A number of places that is written in another way is no other order. -/
theorem Relabels.of_finCongr {vars : Equiv.Perm (Fin n)} {result result' : Except ε (Solution K)}
    (same : n' = n) (relabels : Relabels ((finCongr same).trans vars) result result')
    : Relabels vars result result' := by
  subst same
  exact relabels

/-- The answer of a run under new labels is read off the same last point, by cases on the ending. -/
theorem relabels_answer (e : Relabelling n' m' p' n m p) (run : Run K n m p)
    : Relabels e.vars (answer run) (answer (e.run run)) := by
  obtain ⟨earlier, last, ending⟩ := run
  cases ending with
  | converged => exact .answered last.iterate.x _ _ _
  | exhausted => exact .answered last.iterate.x _ _ _
  | stalled => exact .answered last.iterate.x _ _ _
  | singular => exact .failed _

section Solve

variable [Field K] [LinearOrder K] [IsStrictOrderedRing K] [NumberText K] {inst : Instance K}

/-- A relabelled instance is valid and is solved to the same failure, or to the same solution in the
new order of the variables.
-/
theorem solve_relabel (valid : inst.validate = .ok ()) (settings : Settings K)
    (options : Options K) (vars : Equiv.Perm (Fin inst.numVars))
    (inequalities : Equiv.Perm (Fin inst.numInequalities))
    (equalities : Equiv.Perm (Fin inst.numEqualities))
    : (inst.relabel vars inequalities equalities).validate = .ok ()
      ∧ Relabels vars (solve settings options inst)
          (solve settings options (inst.relabel vars inequalities equalities)) := by
  have shaped := (Instance.validate_eq_ok_iff.mp valid).1
  have valid' : (inst.relabel vars inequalities equalities).validate = .ok () :=
    Instance.validate_eq_ok_iff.mpr ⟨Instance.wellShaped_relabel shaped,
      ⟨fun _ _ => rfl, fun _ _ => rfl, fun _ _ => ⟨fun _ _ => rfl, fun _ _ => rfl⟩,
        fun _ _ => ⟨fun _ _ => rfl, fun _ _ => rfl⟩⟩⟩
  have passed := Instance.check_of_validate valid
  have passed' := Instance.check_of_validate valid'
  have relabels : Relabels (inst.relabelling vars inequalities equalities).vars
      (solve settings options inst)
      (solve settings options (inst.relabel vars inequalities equalities)) := by
    rw [solve, solve, start?_of_check passed, start?_of_check passed',
      Instance.toProgram_relabel (Instance.wellShaped_of_check passed), Relabelling.run?]
    cases run? (settings.withOptions options)
        (inst.toProgram (Instance.wellShaped_of_check passed)) with
    | error fault => exact .failed fault.toError
    | ok run =>
        exact (relabels_answer (inst.relabelling vars inequalities equalities) run).mapError _
  exact ⟨valid', relabels.of_finCongr Instance.numVars_relabel⟩

end Solve

/-- The minimization of `x₁² + x₂² / 2 - 2 x₁` under `x₁ + x₂ = 1`, with bounds that hold there. -/
def wedge : Instance ℚ :=
  ⟨.ofFn !![2, 0; 0, 1], [-2, 0], some ⟨.ofFn !![1, 0; 1, 2], [1, 3]⟩, some ⟨.ofFn !![1, 1], [1]⟩⟩

/-- The wedge with the order of its variables and of its rows reversed. -/
def reversedWedge : Instance ℚ :=
  wedge.relabel Fin.revPerm Fin.revPerm Fin.revPerm

/-- Both wedges are solved in one step, to points in opposite orders. -/
theorem wedge_reversed
    : (reversedWedge.validate = .ok ()
        ∧ Relabels (Fin.revPerm (n := 2)) (solve .standard ⟨false, some (1 / 4), none⟩ wedge)
            (solve .standard ⟨false, some (1 / 4), none⟩ reversedWedge))
      ∧ (∃ solution, solve .standard ⟨false, some (1 / 4), none⟩ wedge = .ok solution
          ∧ (solution.status, solution.iterations, solution.x.map fun x => decide (x < 1 / 2))
            = (.optimal, 1, [false, true]))
      ∧ ∃ solution, solve .standard ⟨false, some (1 / 4), none⟩ reversedWedge = .ok solution
          ∧ (solution.status, solution.iterations, solution.x.map fun x => decide (x < 1 / 2))
            = (.optimal, 1, [true, false]) :=
  ⟨solve_relabel (by decide +kernel) .standard ⟨false, some (1 / 4), none⟩ _ _ _,
    ok_of_computed (by decide +kernel), ok_of_computed (by decide +kernel)⟩

end InteriorPoint

end QuadraticTrials

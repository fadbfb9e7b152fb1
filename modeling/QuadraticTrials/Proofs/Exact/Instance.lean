import Mathlib
import QuadraticTrials.Decimal.NumberText
import QuadraticTrials.Program
import QuadraticTrials.Proofs.Exact.Dense

/-!
Instances read as quadratic programs over an ordered field, with functions and matrices in place of
stored lists and rows. The sized form of an instance stands for the same program.
-/

namespace QuadraticTrials

open Matrix

/-- The entry at a place, zero outside the shape. -/
def Grid.entry {K : Type} [Zero K] (grid : Grid K) (i j : Nat) : K :=
  if inside : i < grid.rows ∧ j < grid.cols then
    (grid.entries.get ⟨i, inside.1⟩).get ⟨j, inside.2⟩
  else 0

/-- A grid at its own shape keeps its entries, by substituting the shape. -/
theorem Grid.get_toDense {K : Type} [Zero K] (grid : Grid K) {m n : Nat} (rows_eq : grid.rows = m)
    (cols_eq : grid.cols = n) (i : Fin m) (j : Fin n)
    : ((grid.toDense rows_eq cols_eq).get i).get j = grid.entry i j := by
  subst rows_eq cols_eq
  simp [toDense, entry, Vec.get_eq_getElem]

/-- A valid instance passes the check. -/
theorem Instance.check_of_validate {K : Type} [Scalar K] {inst : Instance K}
    (valid : inst.validate = .ok ())
    : inst.check = .ok () := by
  unfold validate at valid
  cases checked : inst.check with
  | error fault => simp [checked, Except.mapError] at valid
  | ok passed => rfl

variable {K : Type} [Field K]

namespace Instance

-----------------------------------------------------------------------------------------
-- The program that an instance describes
-----------------------------------------------------------------------------------------

/-- The matrix of the quadratic cost. -/
def costMatrix (inst : Instance K) : Matrix (Fin inst.numVars) (Fin inst.numVars) K :=
  .of fun i j => inst.cost.entry i j

/-- The linear cost. -/
def costVector (inst : Instance K) : Fin inst.numVars → K :=
  fun i => inst.linear.get i

/-- The rows of an optional block in `n` variables. -/
def blockCoefficients (n : Nat) (block? : Option (Block K))
    : Matrix (Fin (blockRows block?)) (Fin n) K :=
  .of fun i j => block?.elim 0 fun block => block.matrix.entry i j

/-- The right-hand sides of an optional block. -/
def blockConstants (block? : Option (Block K)) : Fin (blockRows block?) → K :=
  fun i => block?.elim 0 fun block => block.rhs.getD i 0

/-- The rows of the inequality block. -/
def inequalityMatrix (inst : Instance K) : Matrix (Fin inst.numInequalities) (Fin inst.numVars) K :=
  blockCoefficients inst.numVars inst.inequality

/-- The right-hand sides of the inequality block. -/
def inequalityVector (inst : Instance K) : Fin inst.numInequalities → K :=
  blockConstants inst.inequality

/-- The rows of the equality block. -/
def equalityMatrix (inst : Instance K) : Matrix (Fin inst.numEqualities) (Fin inst.numVars) K :=
  blockCoefficients inst.numVars inst.equality

/-- The right-hand sides of the equality block. -/
def equalityVector (inst : Instance K) : Fin inst.numEqualities → K :=
  blockConstants inst.equality

/-- The cost of a point. -/
def value (inst : Instance K) (x : Fin inst.numVars → K) : K :=
  1 / 2 * (x ⬝ᵥ inst.costMatrix *ᵥ x) + inst.costVector ⬝ᵥ x

section Order

variable [LinearOrder K]

/-- The quadratic cost is symmetric and nowhere negative. -/
structure ConvexCost (inst : Instance K) : Prop where
  symmetric : inst.costMatrix.IsSymm
  semidefinite : ∀ v, 0 ≤ v ⬝ᵥ inst.costMatrix *ᵥ v

/-- A point satisfies all constraints. -/
structure Feasible (inst : Instance K) (x : Fin inst.numVars → K) : Prop where
  inequality : ∀ i, (inst.inequalityMatrix *ᵥ x) i ≤ inst.inequalityVector i
  equality : inst.equalityMatrix *ᵥ x = inst.equalityVector

/-- A point satisfies all constraints, the inequalities strictly. -/
structure StrictlyFeasible (inst : Instance K) (x : Fin inst.numVars → K) : Prop where
  inequality : ∀ i, (inst.inequalityMatrix *ᵥ x) i < inst.inequalityVector i
  equality : inst.equalityMatrix *ᵥ x = inst.equalityVector

end Order

-----------------------------------------------------------------------------------------
-- The sized form
-----------------------------------------------------------------------------------------

theorem toMatrix_toDense {grid : Grid K} {m n : Nat} (rows_eq : grid.rows = m)
    (cols_eq : grid.cols = n)
    : (grid.toDense rows_eq cols_eq).toMatrix = .of fun i j => grid.entry i j :=
  Matrix.ext (grid.get_toDense rows_eq cols_eq)

theorem get_ofList {values : List K} {n : Nat} (length_eq : values.length = n) (i : Fin n)
    : (Vec.ofList values length_eq).get i = values.getD i 0 := by
  subst length_eq
  simp [Vec.ofList, Vec.get_eq_getElem]

theorem ofList_toList {n : Nat} (x : Vector K n)
    : Vec.ofList x.toList x.length_toList = x := by
  refine Vec.ext_get (funext fun i => ?_)
  rw [get_ofList]
  simp [Vec.get_eq_getElem]

section Sized

variable {inst : Instance K} (shaped : inst.WellShaped)

@[simp] theorem toProgram_P : (inst.toProgram shaped).P.toMatrix = inst.costMatrix :=
  toMatrix_toDense shaped.cost_rows shaped.cost_cols

@[simp] theorem toProgram_q : (inst.toProgram shaped).q.get = inst.costVector := by
  funext i
  exact (get_ofList rfl i).trans (List.getD_eq_getElem _ _ i.isLt)

/-- The rows of an optional block, by cases on its presence. -/
theorem toMatrix_blockMatrix {n : Nat} {block? : Option (Block K)}
    (fits : ∀ block ∈ block?, BlockShaped n block)
    : (blockMatrix block? fits).toMatrix = blockCoefficients n block? := by
  cases block? with
  | none => exact Matrix.ext fun i => i.elim0
  | some block => exact toMatrix_toDense _ _

/-- The right-hand sides of an optional block, by cases on its presence. -/
theorem get_blockRhs (block? : Option (Block K))
    : (blockRhs block?).get = blockConstants block? := by
  cases block? with
  | none => exact funext fun i => i.elim0
  | some block => exact funext fun i => get_ofList rfl i

@[simp] theorem toProgram_G : (inst.toProgram shaped).G.toMatrix = inst.inequalityMatrix :=
  toMatrix_blockMatrix _

@[simp] theorem toProgram_h : (inst.toProgram shaped).h.get = inst.inequalityVector :=
  get_blockRhs _

@[simp] theorem toProgram_A : (inst.toProgram shaped).A.toMatrix = inst.equalityMatrix :=
  toMatrix_blockMatrix _

@[simp] theorem toProgram_b : (inst.toProgram shaped).b.get = inst.equalityVector :=
  get_blockRhs _

variable [LinearOrder K]

/-- The objective of stored cost terms is the usual one. -/
theorem objective_eq {n : Nat} (P : Dense K n n) (q x : Vector K n)
    : objective P q x = 1 / 2 * (x.get ⬝ᵥ P.toMatrix *ᵥ x.get) + q.get ⬝ᵥ x.get := by
  simp [objective, Scalar.ratio]

theorem objective_toProgram (x : Vector K inst.numVars)
    : objective (inst.toProgram shaped).P (inst.toProgram shaped).q x = inst.value x.get := by
  rw [objective_eq, toProgram_P, toProgram_q, value]

include shaped in
/-- An instance whose shapes fit has its cost as objective at every point of its size, since the
sizes that are compared there agree.
-/
theorem objective?_eq_value (x : Vector K inst.numVars)
    : inst.objective? x.toList = some (inst.value x.get) := by
  have fits : inst.cost.rows = x.toList.length ∧ inst.cost.cols = x.toList.length
      ∧ inst.numVars = x.toList.length := by
    simp [shaped.cost_rows, shaped.cost_cols]
  have resized {values : List K} {size : Nat} (rows : inst.cost.rows = values.length)
      (cols : inst.cost.cols = values.length) (vars : inst.numVars = values.length)
      (length_eq : values.length = size)
      : objective (inst.cost.toDense rows cols) (Vec.ofList inst.linear vars)
          (Vec.ofList values rfl)
        = objective (inst.cost.toDense (rows.trans length_eq) (cols.trans length_eq))
            (Vec.ofList inst.linear (vars.trans length_eq)) (Vec.ofList values length_eq) := by
    subst length_eq
    rfl
  rw [objective?, dif_pos fits, resized _ _ _ x.length_toList, ofList_toList]
  exact congrArg some (objective_toProgram shaped x)

end Sized

end Instance

-----------------------------------------------------------------------------------------
-- Rational instances
-----------------------------------------------------------------------------------------

/-- Rationals are written as quotients and are not stored. -/
instance : NumberText ℚ where
  plain value := toString value
  fixed _ value := toString value
  scientific _ value := toString value
  toLiteral? _ := none
  ofLiteral? _ := none

/-- The minimization of `½ x² - 2 x` under `x ≤ 1`. -/
def Instance.parabola : Instance ℚ :=
  ⟨⟨1, 1, #v[#v[1]]⟩, [-2], some ⟨⟨1, 1, #v[#v[1]]⟩, [1]⟩, none⟩

end QuadraticTrials

import Mathlib
import QuadraticTrials.Conic.Solver
import QuadraticTrials.Proofs.Conic.Sparse
import QuadraticTrials.Proofs.Exact.Instance

/-!
The conic form of an instance states the instance: it stores its cost and its constraint rows, and
read exactly it has the same objective and the same feasible points.
-/

namespace QuadraticTrials

open Matrix

-----------------------------------------------------------------------------------------
-- Cones
-----------------------------------------------------------------------------------------

namespace Cone

def size : Cone → Nat
  | zero size => size
  | nonnegative size => size

section Product

variable {K : Type} [Zero K] [LE K]

/-- The slacks that a cone has in each of its rows. -/
def Allows : Cone → K → Prop
  | zero _, slack => slack = 0
  | nonnegative _, slack => 0 ≤ slack

/-- Slacks lie in the product of some cones, each cone taking its rows in turn. -/
def Product : List Cone → List K → Prop
  | [], slacks => slacks = []
  | cone :: rest, slacks =>
      cone.size ≤ slacks.length ∧ (∀ slack ∈ slacks.take cone.size, cone.Allows slack)
        ∧ Product rest (slacks.drop cone.size)

/-- The first of several cones takes the first slacks. -/
theorem product_cons {cone : Cone} {rest : List Cone} {first later : List K}
    (fits : first.length = cone.size)
    : Product (cone :: rest) (first ++ later)
      ↔ (∀ slack ∈ first, cone.Allows slack) ∧ Product rest later := by
  rw [Product, ← fits, List.take_left', List.drop_left', List.length_append]
  · exact and_iff_right (Nat.le_add_right _ _)
  all_goals rfl

/-- The cone of an optional block takes the slacks of its rows, by cases on its presence. -/
theorem product_block {block? : Option (Block K)} (cone : Nat → Cone)
    (sized : ∀ size, (cone size).size = size) {rest : List Cone} {first later : List K}
    (fits : first.length = Instance.blockRows block?)
    : Product ((block?.map fun block => cone block.rhs.length).toList ++ rest) (first ++ later)
      ↔ (∀ slack ∈ first, (cone (Instance.blockRows block?)).Allows slack)
        ∧ Product rest later := by
  cases block? with
  | none =>
      cases List.length_eq_zero_iff.mp fits
      simp
  | some block => exact product_cons (fits.trans (sized _).symm)

end Product

end Cone

-----------------------------------------------------------------------------------------
-- What is stored
-----------------------------------------------------------------------------------------

namespace Conic

section Stored

variable {K : Type} [Scalar K]

/-- A conic program stores an instance: the part of its cost on and above the diagonal, its linear
cost, and its equality rows above its inequality rows. Its matrices are well formed, and the rows
with slack held at zero come first.
-/
structure Stores (c : Conic K) (inst : Instance K) : Prop where
  costFormed : c.P.WellFormed
  costSize : c.P.rows = inst.numVars ∧ c.P.cols = inst.numVars
  rowsFormed : c.A.WellFormed
  rowsSize : c.A.rows = inst.numEqualities + inst.numInequalities ∧ c.A.cols = inst.numVars
  linear : c.q = inst.linear
  constants : c.b = inst.equality.elim [] Block.rhs ++ inst.inequality.elim [] Block.rhs
  cones
    : zeroRows c.cones
      = List.replicate inst.numEqualities true ++ List.replicate inst.numInequalities false
  cost
    : ∀ i < inst.numVars,
        ∀ j < inst.numVars,
          c.P.entry i j = if i ≤ j then Sparse.stored (inst.cost.entry i j) else 0
  equality
    : ∀ block ∈ inst.equality,
        ∀ i < block.rhs.length,
          ∀ j < inst.numVars, c.A.entry i j = Sparse.stored (block.matrix.entry i j)
  inequality
    : ∀ block ∈ inst.inequality,
        ∀ i < block.rhs.length,
          ∀ j < inst.numVars,
            c.A.entry (inst.numEqualities + i) j = Sparse.stored (block.matrix.entry i j)

variable {inst : Instance K} (shaped : inst.WellShaped)

omit [Scalar K] in
theorem toList_blockRhs (block? : Option (Block K))
    : (Instance.blockRhs block?).toList = block?.elim [] Block.rhs := by
  cases block? <;> rfl

theorem get_blockMatrix {n : Nat} {block? : Option (Block K)}
    (fits : ∀ block ∈ block?, Instance.BlockShaped n block) {block : Block K}
    (present : block ∈ block?) (i : Fin (Instance.blockRows block?)) (j : Fin n)
    : ((Instance.blockMatrix block? fits).get i).get j = block.matrix.entry i j := by
  cases present
  exact block.matrix.get_toDense _ _ i j

omit [Scalar K] in
theorem blockRows_eq {block? : Option (Block K)} {block : Block K} (present : block ∈ block?)
    : Instance.blockRows block? = block.rhs.length := by
  cases present
  rfl

/-- An entry of the stacked rows, among the equalities or among the inequalities. -/
theorem entry_stacked (prog : Program K inst.numVars inst.numInequalities inst.numEqualities)
    : (∀ (i : Fin inst.numEqualities) (j : Fin inst.numVars),
        (Sparse.ofDense (stacked prog)).entry i j = Sparse.stored ((prog.A.get i).get j))
      ∧ ∀ (i : Fin inst.numInequalities) (j : Fin inst.numVars),
          (Sparse.ofDense (stacked prog)).entry (inst.numEqualities + i) j
            = Sparse.stored ((prog.G.get i).get j) := by
  constructor <;> intro i j
  · have entry := Sparse.entry_ofDense (stacked prog) (i.castAdd inst.numInequalities) j
    rwa [stacked, Vec.get_append, Fin.append_left] at entry
  · have entry := Sparse.entry_ofDense (stacked prog) (i.natAdd inst.numEqualities) j
    rwa [stacked, Vec.get_append, Fin.append_right] at entry

omit [Scalar K] in
/-- The rows of the cones of both blocks, by cases on their presence. -/
theorem zeroRows_conesOf (inst : Instance K)
    : zeroRows (conesOf inst)
      = List.replicate inst.numEqualities true ++ List.replicate inst.numInequalities false := by
  rw [zeroRows, conesOf, List.flatMap_append, Instance.numEqualities, Instance.numInequalities]
  cases inst.equality <;> cases inst.inequality <;>
    simp [Instance.blockRows]

theorem stores_ofInstance : (ofInstance inst shaped).Stores inst := by
  constructor
  case costFormed => exact Sparse.wellFormed_ofDepths _ _
  case costSize => exact ⟨rfl, by simp [ofInstance, Sparse.ofUpper, Sparse.ofColumns]⟩
  case rowsFormed => exact Sparse.wellFormed_ofDepths _ _
  case rowsSize => exact ⟨rfl, by simp [ofInstance, Sparse.ofDense, Sparse.ofColumns]⟩
  case linear => rfl
  case constants =>
    change (Instance.blockRhs inst.equality ++ Instance.blockRhs inst.inequality).toList = _
    rw [Vector.toList_append, toList_blockRhs, toList_blockRhs]
  case cones => exact zeroRows_conesOf inst
  case cost =>
    intro i row j col
    have entry := Sparse.entry_ofUpper (inst.toProgram shaped).P ⟨i, row⟩ ⟨j, col⟩
    rwa [Instance.toProgram, Grid.get_toDense] at entry
  case equality =>
    intro block present i row j col
    rw [← blockRows_eq present] at row
    exact ((entry_stacked (inst.toProgram shaped)).1 ⟨i, row⟩ ⟨j, col⟩).trans
      (congrArg Sparse.stored (get_blockMatrix shaped.equality present ⟨i, row⟩ ⟨j, col⟩))
  case inequality =>
    intro block present i row j col
    rw [← blockRows_eq present] at row
    exact ((entry_stacked (inst.toProgram shaped)).2 ⟨i, row⟩ ⟨j, col⟩).trans
      (congrArg Sparse.stored (get_blockMatrix shaped.inequality present ⟨i, row⟩ ⟨j, col⟩))

end Stored

-----------------------------------------------------------------------------------------
-- What is stated
-----------------------------------------------------------------------------------------

section Exact

variable {K : Type} [Field K] [LinearOrder K]

/-- Read exactly, every value is read back as it was. -/
@[simp] theorem stored_eq (value : K) : Sparse.stored value = value := by
  rw [Sparse.stored]
  split
  case isTrue zero => exact (Scalar.isZero_eq_true_iff.mp zero).symm
  case isFalse => rfl

/-- A conic program states an instance: its matrices are read back as the upper triangle of the cost
and as the rows of the constraints, and it has the same objective and the same feasible points.
-/
structure States (c : Conic K) (inst : Instance K) : Prop where
  cost
    : (c.P.decode inst.numVars inst.numVars).toMatrix
      = .of fun i j => if i ≤ j then inst.costMatrix i j else 0
  equality
    : ∀ i j,
        (c.A.decode (inst.numEqualities + inst.numInequalities) inst.numVars).toMatrix
            (i.castAdd inst.numInequalities) j
          = inst.equalityMatrix i j
  inequality
    : ∀ i j,
        (c.A.decode (inst.numEqualities + inst.numInequalities) inst.numVars).toMatrix
            (i.natAdd inst.numEqualities) j
          = inst.inequalityMatrix i j
  objective
    : ∀ x : Vector K inst.numVars,
        inst.objective? x.toList
          = some (objective (Embedding.symmetric c.P inst.numVars)
              (Embedding.vectorOf c.q inst.numVars) x)
  feasible
    : ∀ x : Vector K inst.numVars,
        (∃ s : Vector K (inst.numEqualities + inst.numInequalities),
          Cone.Product c.cones s.toList
            ∧ (c.A.decode (inst.numEqualities + inst.numInequalities) inst.numVars).mul x + s
              = Embedding.vectorOf c.b (inst.numEqualities + inst.numInequalities))
          ↔ inst.Feasible x.get

@[simp] theorem get_vectorOf (values : List K) (n : Nat)
    : (Embedding.vectorOf values n).get = fun i : Fin n => values.getD i 0 :=
  Vec.get_ofFn _

@[simp] theorem toMatrix_decode (a : Sparse K) (m n : Nat)
    : (a.decode m n).toMatrix = .of fun i j => a.entry i j := by
  ext i j
  simp [Sparse.decode]

@[simp] theorem toMatrix_symmetric (P : Sparse K) (n : Nat)
    : (Embedding.symmetric P n).toMatrix
      = .of fun i j => if i ≤ j then P.entry i j else P.entry j i := by
  ext i j
  simp [Embedding.symmetric]

variable {inst : Instance K} (shaped : inst.WellShaped)

theorem entry_cost (i j : Fin inst.numVars)
    : (ofInstance inst shaped).P.entry i j = if i ≤ j then inst.costMatrix i j else 0 := by
  have entry := Sparse.entry_ofUpper (inst.toProgram shaped).P i j
  rwa [stored_eq, ← Dense.toMatrix_apply, Instance.toProgram_P] at entry

theorem toMatrix_rows
    : (∀ i j,
        ((ofInstance inst shaped).A.decode (inst.numEqualities + inst.numInequalities)
            inst.numVars).toMatrix (i.castAdd inst.numInequalities) j
          = inst.equalityMatrix i j)
      ∧ ∀ i j,
          ((ofInstance inst shaped).A.decode (inst.numEqualities + inst.numInequalities)
              inst.numVars).toMatrix (i.natAdd inst.numEqualities) j
            = inst.inequalityMatrix i j := by
  obtain ⟨first, later⟩ := entry_stacked (inst.toProgram shaped)
  rw [toMatrix_decode]
  constructor <;> intro i j
  · have entry := first i j
    rwa [stored_eq, ← Dense.toMatrix_apply, Instance.toProgram_A] at entry
  · have entry := later i j
    rwa [stored_eq, ← Dense.toMatrix_apply, Instance.toProgram_G] at entry

/-- At a point the stored rows come to what the equalities and the inequalities come to there. -/
theorem mul_rows (x : Vector K inst.numVars)
    : (∀ i,
        (((ofInstance inst shaped).A.decode (inst.numEqualities + inst.numInequalities)
            inst.numVars).mul x).get (i.castAdd inst.numInequalities)
          = (inst.equalityMatrix *ᵥ x.get) i)
      ∧ ∀ i,
          (((ofInstance inst shaped).A.decode (inst.numEqualities + inst.numInequalities)
              inst.numVars).mul x).get (i.natAdd inst.numEqualities)
            = (inst.inequalityMatrix *ᵥ x.get) i := by
  obtain ⟨first, later⟩ := toMatrix_rows shaped
  constructor <;> intro i <;> rw [Dense.get_mul]
  · exact congrArg (· ⬝ᵥ x.get) (funext (first i))
  · exact congrArg (· ⬝ᵥ x.get) (funext (later i))

theorem get_constants
    : (Embedding.vectorOf (ofInstance inst shaped).b
        (inst.numEqualities + inst.numInequalities)).get
      = Fin.append inst.equalityVector inst.inequalityVector := by
  rw [get_vectorOf, ← Instance.toProgram_b shaped, ← Instance.toProgram_h shaped,
    ← Vec.get_append]
  funext i
  exact List.getD_eq_getElem _ _ (by simp [ofInstance])

/-- The slacks in the cones of an instance: nothing is left of the equalities, and nothing negative
of the inequalities.
-/
theorem product_conesOf (inst : Instance K)
    (s : Vector K (inst.numEqualities + inst.numInequalities))
    : Cone.Product (conesOf inst) s.toList
      ↔ (∀ i : Fin inst.numEqualities, s.get (i.castAdd _) = 0)
        ∧ ∀ i : Fin inst.numInequalities, 0 ≤ s.get (i.natAdd _) := by
  have split
      : s.toList
        = List.ofFn (fun i : Fin inst.numEqualities => s.get (i.castAdd _))
          ++ (List.ofFn (fun i : Fin inst.numInequalities => s.get (i.natAdd _)) ++ []) := by
    rw [Vec.toList_eq_ofFn, List.ofFn_add, List.append_nil]
    rfl
  have cones
      : conesOf inst
        = (inst.equality.map fun block => Cone.zero block.rhs.length).toList
          ++ ((inst.inequality.map fun block => Cone.nonnegative block.rhs.length).toList
            ++ []) := by
    rw [conesOf, List.append_nil]
  rw [split, cones]
  refine (Cone.product_block .zero (fun _ => rfl) List.length_ofFn).trans (and_congr ?_ ?_)
  · exact List.forall_mem_ofFn_iff
  · refine (Cone.product_block .nonnegative (fun _ => rfl) List.length_ofFn).trans ?_
    exact (and_iff_left rfl).trans List.forall_mem_ofFn_iff

variable [IsStrictOrderedRing K]

/-- A point satisfies the constraints exactly if what is left of each row lies in its cone. -/
theorem exists_slack_iff (x : Vector K inst.numVars)
    : (∃ s : Vector K (inst.numEqualities + inst.numInequalities),
        Cone.Product (ofInstance inst shaped).cones s.toList
          ∧ ((ofInstance inst shaped).A.decode (inst.numEqualities + inst.numInequalities)
              inst.numVars).mul x + s
            = Embedding.vectorOf (ofInstance inst shaped).b
                (inst.numEqualities + inst.numInequalities))
      ↔ inst.Feasible x.get := by
  obtain ⟨equality, inequality⟩ := mul_rows shaped x
  have constants := get_constants shaped
  -- From here on only these three facts about the stored rows and right-hand sides are used.
  generalize ((ofInstance inst shaped).A.decode (inst.numEqualities + inst.numInequalities)
    inst.numVars).mul x = rows at equality inequality ⊢
  generalize Embedding.vectorOf (ofInstance inst shaped).b
    (inst.numEqualities + inst.numInequalities) = b at constants ⊢
  constructor
  · rintro ⟨s, inCones, met⟩
    obtain ⟨zero, nonnegative⟩ := (product_conesOf inst s).mp inCones
    have left (i) : rows.get i + s.get i = b.get i := by
      rw [← met, Vec.get_add, Pi.add_apply]
    constructor
    · intro i
      have row := left (i.natAdd _)
      rw [inequality, constants, Fin.append_right] at row
      rw [← row]
      exact le_add_of_nonneg_right (nonnegative i)
    · funext i
      have row := left (i.castAdd _)
      rwa [equality, constants, Fin.append_left, zero, add_zero] at row
  · intro feasible
    refine ⟨Vec.minus b rows, (product_conesOf inst _).mpr ⟨fun i => ?_, fun i => ?_⟩, ?_⟩
    · rw [Vec.get_minus, Pi.sub_apply, equality, constants, Fin.append_left, feasible.equality,
        sub_self]
    · rw [Vec.get_minus, Pi.sub_apply, inequality, constants, Fin.append_right, sub_nonneg]
      exact feasible.inequality i
    · refine Vec.ext_get ?_
      rw [Vec.get_add, Vec.get_minus, add_sub_cancel]

theorem states_ofInstance (symmetric : inst.costMatrix.IsSymm)
    : (ofInstance inst shaped).States inst := by
  obtain ⟨first, later⟩ := toMatrix_rows shaped
  constructor
  case cost =>
    rw [toMatrix_decode]
    ext i j
    exact entry_cost shaped i j
  case equality => exact first
  case inequality => exact later
  case objective =>
    intro x
    have whole : (Embedding.symmetric (ofInstance inst shaped).P inst.numVars).toMatrix
        = inst.costMatrix := by
      rw [toMatrix_symmetric]
      ext i j
      rw [Matrix.of_apply, entry_cost, entry_cost]
      split
      case isTrue above => rfl
      case isFalse below =>
        rw [if_pos (not_le.mp below).le]
        exact symmetric.apply i j
    have linear : (Embedding.vectorOf (ofInstance inst shaped).q inst.numVars).get
        = inst.costVector := by
      rw [get_vectorOf]
      funext i
      exact List.getD_eq_getElem _ _ i.isLt
    rw [Instance.objective?_eq_value shaped, Instance.objective_eq, whole, linear,
      Instance.value]
  case feasible => exact exists_slack_iff shaped

end Exact

/-- The reference solver answers on the conic form of every valid instance, and this form stores the
instance. Read exactly, with a symmetric cost, it states the instance.
-/
theorem solve_hands_over {K F : Type} [Scalar K] [SquareRoot K] [Field F] [LinearOrder F]
    [IsStrictOrderedRing F]
    : (∀ inst : Instance K,
        inst.validate = .ok () →
          ∃ shaped,
            solve inst = .ok (answer (ofInstance inst shaped))
              ∧ (ofInstance inst shaped).Stores inst)
        ∧ ∀ inst : Instance F,
            inst.validate = .ok () →
              inst.costMatrix.IsSymm → ∃ shaped, (ofInstance inst shaped).States inst := by
  constructor
  · intro inst valid
    have passed := Instance.check_of_validate valid
    refine ⟨Instance.wellShaped_of_check passed, ?_, stores_ofInstance _⟩
    unfold solve
    split
    case h_1 fault refused => cases passed.symm.trans refused
    case h_2 => rfl
  · intro inst valid symmetric
    exact ⟨Instance.wellShaped_of_check (Instance.check_of_validate valid),
      states_ofInstance _ symmetric⟩

/-- The minimization of `x₁² - x₁ x₂ + x₂² / 2 + x₂` under `x₁ ≤ 1`, `x₂ ≤ 2` and `x₁ = x₂`. -/
def coupled {K : Type} [Scalar K] : Instance K :=
  let two : K := ((2 : Nat) : K)
  ⟨⟨2, 2, #v[#v[two, -1], #v[-1, 1]]⟩, [0, 1], some ⟨⟨2, 2, #v[#v[1, 0], #v[0, 1]]⟩, [1, two]⟩,
    some ⟨⟨1, 2, #v[#v[1, -1]]⟩, [0]⟩⟩

/-- Of the three rows on two coupled variables four entries are stored, two in each column. -/
theorem coupled_handed_over
    : (∃ shaped,
        solve (coupled : Instance Float) = .ok (answer (ofInstance coupled shaped))
          ∧ (ofInstance coupled shaped).Stores (coupled : Instance Float))
      ∧ ∃ shaped,
          (ofInstance coupled shaped).States (coupled : Instance ℚ)
            ∧ (ofInstance coupled shaped).A.starts = [0, 2, 4]
            ∧ (ofInstance coupled shaped).A.rowIndices = [0, 1, 0, 2] := by
  obtain ⟨stores, states⟩ := solve_hands_over (K := Float) (F := ℚ)
  obtain ⟨shaped, stated⟩ := states coupled rfl (by
    ext i j
    fin_cases i <;> fin_cases j <;> rfl)
  refine ⟨stores coupled (by decide +kernel), shaped, stated, ?_, ?_⟩
  all_goals
    have closed : shaped = Instance.wellShaped_of_check rfl := rfl
    rw [closed]
    decide +kernel

end Conic

end QuadraticTrials

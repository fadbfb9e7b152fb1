import QuadraticTrials.Dense
import QuadraticTrials.Error

/-!
Quadratic programs as they arrive, with shapes that need not fit:
minimize `0.5 x'Px + q'x` subject to `A x ≤ b` and `A_eq x = b_eq`. An instance is valid when its
shapes fit and its entries are finite; only then does it have the sized form that the solvers use.
-/

namespace QuadraticTrials

/-- A matrix that carries its own shape. -/
structure Grid (K : Type) where
  rows : Nat
  cols : Nat
  entries : Dense K rows cols

/-- A matrix of constraint rows with its right-hand sides. -/
structure Block (K : Type) where
  matrix : Grid K
  rhs : List K

/-- A quadratic program. -/
structure Instance (K : Type) where
  cost : Grid K
  linear : List K
  inequality : Option (Block K)
  equality : Option (Block K)

/-- The two kinds of constraint rows. -/
inductive Side
  | inequality
  | equality
  deriving DecidableEq, Repr

namespace Side

def matrixName : Side → String
  | inequality => "A"
  | equality => "A_eq"

def rhsName : Side → String
  | inequality => "b"
  | equality => "b_eq"

end Side

namespace Instance

/-- A reason why an instance is rejected. -/
inductive Fault
  | unpaired (side : Side)
  | noVariables
  | costShape (numVars rows cols : Nat)
  | costEntries
  | blockShape (side : Side) (rhs numVars rows cols : Nat)
  | blockEntries (side : Side)
  deriving DecidableEq, Repr

namespace Fault

/-- A shape in words. -/
def shape (rows cols : Nat) : String :=
  toString rows ++ "x" ++ toString cols

def reason : Fault → String
  | unpaired side =>
      side.matrixName ++ "/" ++ side.rhsName ++ " must be both present or both absent"
  | noVariables => "instance has no variables"
  | costShape n rows cols => "P must be " ++ shape n n ++ ", got " ++ shape rows cols
  | costEntries => "cost terms contain non-finite entries"
  | blockShape side rhs n rows cols =>
      side.matrixName ++ " must be " ++ shape rhs n ++ ", got " ++ shape rows cols
  | blockEntries side => side.matrixName ++ " contains non-finite entries"

def toError (fault : Fault) : Error :=
  .invalidInstance fault.reason

end Fault

variable {K : Type}

def numVars (inst : Instance K) : Nat :=
  inst.linear.length

/-- Number of rows of an optional block. -/
def blockRows (block? : Option (Block K)) : Nat :=
  block?.elim 0 fun block => block.rhs.length

def numInequalities (inst : Instance K) : Nat :=
  blockRows inst.inequality

def numEqualities (inst : Instance K) : Nat :=
  blockRows inst.equality

/-- The block of one side. -/
def block? (inst : Instance K) : Side → Option (Block K)
  | .inequality => inst.inequality
  | .equality => inst.equality

section Validity

variable [Scalar K]

/-- Whether all entries of a list are finite. -/
def allFinite (values : List K) : Bool :=
  values.all Scalar.isFinite

/-- A block fits `n` variables. -/
structure BlockShaped (n : Nat) (block : Block K) : Prop where
  rows_eq : block.matrix.rows = block.rhs.length
  cols_eq : block.matrix.cols = n

/-- The shapes of an instance fit together. -/
structure WellShaped (inst : Instance K) : Prop where
  vars_pos : 0 < inst.numVars
  cost_rows : inst.cost.rows = inst.numVars
  cost_cols : inst.cost.cols = inst.numVars
  inequality : ∀ block ∈ inst.inequality, BlockShaped inst.numVars block
  equality : ∀ block ∈ inst.equality, BlockShaped inst.numVars block

/-- Checks one block for `n` variables. -/
def checkBlock (side : Side) (n : Nat) (block? : Option (Block K)) : Except Fault Unit :=
  match block? with
  | none => .ok ()
  | some block =>
      if block.matrix.rows ≠ block.rhs.length ∨ block.matrix.cols ≠ n then
        .error (.blockShape side block.rhs.length n block.matrix.rows block.matrix.cols)
      else if !block.matrix.entries.isFinite || !allFinite block.rhs then
        .error (.blockEntries side)
      else .ok ()

/-- Checks shapes and entries: variables, then the cost, then the two blocks. -/
def check (inst : Instance K) : Except Fault Unit :=
  if inst.numVars = 0 then .error .noVariables
  else if inst.cost.rows ≠ inst.numVars ∨ inst.cost.cols ≠ inst.numVars then
    .error (.costShape inst.numVars inst.cost.rows inst.cost.cols)
  else if !inst.cost.entries.isFinite || !allFinite inst.linear then .error .costEntries
  else
    match checkBlock .inequality inst.numVars inst.inequality with
    | .error fault => .error fault
    | .ok () => checkBlock .equality inst.numVars inst.equality

/-- Checks an instance, reporting a fault as an error. -/
def validate (inst : Instance K) : Except Error Unit :=
  inst.check.mapError Fault.toError

/-- Joins a matrix with its right-hand side; one without the other is a fault. -/
def pair (side : Side) : Option (Grid K) → Option (List K) → Except Fault (Option (Block K))
  | some matrix, some rhs => .ok (some ⟨matrix, rhs⟩)
  | none, none => .ok none
  | _, _ => .error (.unpaired side)

/-- A valid instance from parts of which a constraint matrix and its right-hand side may both be
missing.
-/
def ofParts (cost : Grid K) (linear : List K)
    (a : Option (Grid K)) (b : Option (List K)) (aEq : Option (Grid K)) (bEq : Option (List K))
    : Except Fault (Instance K) := do
  let inequality ← pair .inequality a b
  let equality ← pair .equality aEq bEq
  let inst : Instance K := ⟨cost, linear, inequality, equality⟩
  inst.check
  return inst

end Validity

end Instance

end QuadraticTrials

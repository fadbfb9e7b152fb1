import QuadraticTrials.Instance

/-!
Quadratic programs in slack form with sizes in their types: minimize `0.5 x'Px + q'x` subject to
`G x + s = h`, `s ≥ 0` and `A x = b`. Every instance whose shapes fit has this form, a missing
block having no rows.
-/

namespace QuadraticTrials

/-- A quadratic program with `n` variables, `m` inequality rows and `p` equality rows. -/
structure Program (K : Type) (n m p : Nat) where
  P : Dense K n n
  q : Vector K n
  G : Dense K m n
  h : Vector K m
  A : Dense K p n
  b : Vector K p

/-- The objective `0.5 x'Px + q'x`. -/
def objective {K : Type} [Scalar K] {n : Nat} (P : Dense K n n) (q x : Vector K n) : K :=
  Scalar.ratio 1 2 * Vec.dot x (P.mul x) + Vec.dot q x

namespace Grid

variable {K : Type} {m n : Nat}

/-- The matrix at a shape equal to its own. -/
def toDense (grid : Grid K) (rows_eq : grid.rows = m) (cols_eq : grid.cols = n) : Dense K m n :=
  (grid.entries.map fun row => row.cast cols_eq).cast rows_eq

def toLists (grid : Grid K) : List (List K) :=
  (grid.entries.map Vector.toList).toList

end Grid

/-- A list as a vector of its length. -/
def Vec.ofList {K : Type} {n : Nat} (values : List K) (length_eq : values.length = n)
    : Vector K n :=
  ⟨values.toArray, by simpa using length_eq⟩

namespace Instance

variable {K : Type}

/-- The matrix of an optional block, without rows when there is none. -/
def blockMatrix {n : Nat} : (block? : Option (Block K))
    → (∀ block ∈ block?, BlockShaped n block) → Dense K (blockRows block?) n
  | none, _ => Vec.empty
  | some block, shaped =>
      block.matrix.toDense (shaped block rfl).rows_eq (shaped block rfl).cols_eq

/-- The right-hand sides of an optional block. -/
def blockRhs : (block? : Option (Block K)) → Vector K (blockRows block?)
  | none => Vec.empty
  | some block => Vec.ofList block.rhs rfl

/-- The sized form of an instance whose shapes fit. -/
def toProgram (inst : Instance K) (shaped : inst.WellShaped)
    : Program K inst.numVars inst.numInequalities inst.numEqualities where
  P := inst.cost.toDense shaped.cost_rows shaped.cost_cols
  q := Vec.ofList inst.linear rfl
  G := blockMatrix inst.inequality shaped.inequality
  h := blockRhs inst.inequality
  A := blockMatrix inst.equality shaped.equality
  b := blockRhs inst.equality

variable [Scalar K]

/-- The objective at a point; it has none when cost terms and point differ in size. -/
def objective? (inst : Instance K) (x : List K) : Option K :=
  if fits : inst.cost.rows = x.length ∧ inst.cost.cols = x.length ∧ inst.numVars = x.length then
    some (objective (inst.cost.toDense fits.1 fits.2.1) (Vec.ofList inst.linear fits.2.2)
      (Vec.ofList x rfl))
  else none

/-- A block that passes its check has a fitting shape, read off the first test. -/
theorem blockShaped_of_checkBlock {side : Side} {n : Nat} {block? : Option (Block K)}
    (passed : checkBlock side n block? = .ok ())
    : ∀ block ∈ block?, BlockShaped n block := by
  rintro block rfl
  simp only [checkBlock] at passed
  split at passed
  · cases passed
  · rename_i fits
    simp only [not_or, ne_eq, Decidable.not_not] at fits
    exact ⟨fits.1, fits.2⟩

/-- An instance that passes the check has fitting shapes, by reading off its tests. -/
theorem wellShaped_of_check {inst : Instance K} (passed : inst.check = .ok ())
    : inst.WellShaped := by
  unfold check at passed
  split at passed
  · cases passed
  rename_i vars
  split at passed
  · cases passed
  rename_i cost
  split at passed
  · cases passed
  split at passed
  · cases passed
  rename_i inequality
  simp only [not_or, ne_eq, Decidable.not_not] at cost
  exact ⟨Nat.pos_of_ne_zero vars, cost.1, cost.2, blockShaped_of_checkBlock inequality,
    blockShaped_of_checkBlock passed⟩

end Instance

end QuadraticTrials

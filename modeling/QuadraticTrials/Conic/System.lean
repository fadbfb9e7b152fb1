import QuadraticTrials.Conic.Embedding
import QuadraticTrials.Conic.Factor

/-!
The linear system behind every direction of the embedding. Its first block is the cost and its
last one the scaling, so a small shift of the diagonal gives every pivot a known sign.
-/

namespace QuadraticTrials

namespace Embedding

namespace Problem

variable {K : Type} [Scalar K] {n r : Nat}

/-- The matrix `[P, A'; A, -diag h]`. -/
def system (prob : Problem K n r) (h : Vector K r) : Dense K (n + r) (n + r) :=
  Vector.zipWith (fun row column => row ++ column) prob.P prob.A.transpose
    ++ Vector.zipWith (fun row i => row ++ Vector.ofFn fun j => if i = j then -h.get i else (0 : K))
      prob.A (Vector.finRange r)

/-- A small shift of both diagonal blocks that gives every pivot its sign. -/
def shift : K :=
  Scalar.decimal 1 8

/-- The unknowns whose pivots are positive: those of the first block. -/
def arePositive (n r : Nat) : Vector Bool (n + r) :=
  Vector.ofFn fun i => decide (i.val < n)

/-- The system with its diagonal shifted, up in the first block and down in the second. -/
def shifted {N : Nat} (a : Dense K N N) (arePositive : Vector Bool N) : Dense K N N :=
  Vector.ofFn fun i => Vector.ofFn fun j =>
    let entry := (a.get i).get j
    if i = j then (if arePositive.get i then entry + shift else entry - shift) else entry

/-- The system for one scaling, made ready for several right-hand sides. -/
structure Scaled (K : Type) (n r : Nat) where
  scaling : Vector K r
  matrix : Dense K (n + r) (n + r)
  factor : Factor K (n + r)

/-- The system for the given scaling. -/
def scaled (prob : Problem K n r) (h : Vector K r) : Scaled K n r :=
  let matrix := prob.system h
  let signs := arePositive n r
  ⟨h, matrix, .ofSymmetric (shifted matrix signs) signs⟩

/-- A solution of the system. -/
def Scaled.solve? (system : Scaled K n r) (x : Vector K n) (z : Vector K r)
    : Option (Vector K n × Vector K r) :=
  (system.factor.solve? system.matrix (x ++ z)).map fun both => (Vec.left both, Vec.right both)

end Problem

end Embedding

end QuadraticTrials

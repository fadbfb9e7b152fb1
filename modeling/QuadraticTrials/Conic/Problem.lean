import QuadraticTrials.Conic.Sparse
import QuadraticTrials.Program

/-!
Quadratic programs in conic form: minimize `0.5 x'Px + q'x` subject to `A x + s = b` with `s` in a
product of cones. Equalities come first, their slack held at zero; inequalities follow, with a
slack that is not negative.
-/

namespace QuadraticTrials

/-- A factor of the cone that holds the slack, with its number of rows. -/
inductive Cone
  | zero (size : Nat)
  | nonnegative (size : Nat)
  deriving DecidableEq, Repr

/-- A program in conic form. Of the cost only the upper triangle is stored. -/
structure Conic (K : Type) where
  P : Sparse K
  q : List K
  A : Sparse K
  b : List K
  cones : List Cone

namespace Conic

variable {K : Type} [Scalar K]

/-- The cones of the blocks that are there. -/
def conesOf (inst : Instance K) : List Cone :=
  (inst.equality.map fun block => Cone.zero block.rhs.length).toList
    ++ (inst.inequality.map fun block => Cone.nonnegative block.rhs.length).toList

/-- Equality rows above inequality rows. -/
def stacked {n m p : Nat} (prog : Program K n m p) : Dense K (p + m) n :=
  prog.A ++ prog.G

/-- The conic form of an instance whose shapes fit. -/
def ofInstance (inst : Instance K) (shaped : inst.WellShaped) : Conic K :=
  let prog := inst.toProgram shaped
  {
    P := .ofUpper prog.P
    q := prog.q.toList
    A := .ofDense (stacked prog)
    b := (prog.b ++ prog.h).toList
    cones := conesOf inst
  }

/-- Whether each row has its slack held at zero. -/
def zeroRows (cones : List Cone) : List Bool :=
  cones.flatMap fun
    | .zero size => List.replicate size true
    | .nonnegative size => List.replicate size false

end Conic

end QuadraticTrials

import QuadraticTrials.Program

/-!
Eigenvalues of symmetric matrices, and the tests built on them. How eigenvalues are found depends
on the number type; only the lower triangle of a matrix is read for them.
-/

namespace QuadraticTrials

/-- A number type with the eigenvalues of symmetric matrices. -/
class SymmetricSpectrum (K : Type) where
  /-- The eigenvalues of the symmetric matrix with the given lower triangle. -/
  eigenvalues : {n : Nat} → Dense K n n → List K

variable {K : Type} [Scalar K]

/-- The least of some values, the later one when two are not related; zero for no values. -/
def minimum : List K → K
  | [] => 0
  | a :: rest => rest.foldl (fun least b => if least ≤ b then least else b) a

/-- The largest magnitude of some values, the later one when two are not related; zero for no
values.
-/
def maximumAbs : List K → K
  | [] => 0
  | a :: rest =>
      rest.foldl (fun largest b => if Scalar.abs b ≤ largest then largest else Scalar.abs b)
        (Scalar.abs a)

/-- The entries of a matrix, column by column. -/
def Dense.entries {m n : Nat} (a : Dense K m n) : List K :=
  a.transpose.toList.flatMap Vector.toList

variable [SymmetricSpectrum K]

/-- The smallest eigenvalue of a symmetric matrix. -/
def Dense.minEigenvalue {n : Nat} (a : Dense K n n) : K :=
  minimum (SymmetricSpectrum.eigenvalues a)

namespace Grid

/-- The matrix as a square one. -/
def toSquare (p : Grid K) (square : p.cols = p.rows) : Dense K p.rows p.rows :=
  p.toDense rfl square

/-- The smallest eigenvalue; only square matrices that are not empty have one. -/
def minEigenvalue? (p : Grid K) : Option K :=
  if square : p.cols = p.rows then
    if p.rows = 0 then none else some (p.toSquare square).minEigenvalue
  else none

/-- The relative difference up to which a matrix counts as symmetric. -/
def symmetryTolerance : K :=
  Scalar.decimal 1 12

/-- The differences of opposite entries. -/
def asymmetry {n : Nat} (a : Dense K n n) : List K :=
  Dense.entries (Vector.zipWith Vec.minus a a.transpose)

/-- Square, not empty, symmetric up to rounding, and with positive eigenvalues. -/
def isPositiveDefinite (p : Grid K) : Bool :=
  if square : p.cols = p.rows then
    if p.rows = 0 then false
    else
      let a := p.toSquare square
      let scale := Scalar.max (maximumAbs a.entries) 1
      maximumAbs (asymmetry a) ≤ symmetryTolerance * scale && 0 < a.minEigenvalue
  else false

end Grid

end QuadraticTrials

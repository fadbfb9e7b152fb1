/-!
The arithmetic that the solvers, the generator and the comparison ask of a number type. Every
numerical definition of the library is written over it, in one fixed order of operations, so
that the same text runs on machine floats and reads as exact algebra over an ordered field.
-/

namespace QuadraticTrials

/-- Field operations, an order that may leave some values unordered, and a test for ordinary
values. No law is assumed: floats satisfy few of them.
-/
class Scalar (K : Type) where
  [zero : Zero K]
  [one : One K]
  [natCast : NatCast K]
  [add : Add K]
  [sub : Sub K]
  [mul : Mul K]
  [div : Div K]
  [neg : Neg K]
  [le : LE K]
  [lt : LT K]
  [decidableLE : DecidableLE K]
  [decidableLT : DecidableLT K]
  /-- Magnitude. -/
  abs : K → K
  /-- Neither infinite nor undefined. -/
  isFinite : K → Bool

/-- A number type with square roots of the values that are not negative. -/
class SquareRoot (K : Type) where
  sqrt : K → K

instance : SquareRoot Float where
  sqrt := Float.sqrt

namespace Scalar

section Operations

variable {K : Type} [Scalar K]

-- Last in line, so that a number type's own operations are written wherever it has them.
instance (priority := low) : Zero K := zero
instance (priority := low) : One K := one
instance (priority := low) : NatCast K := natCast
instance (priority := low) : Add K := add
instance (priority := low) : Sub K := sub
instance (priority := low) : Mul K := mul
instance (priority := low) : Div K := div
instance (priority := low) : Neg K := neg
instance (priority := low) : LE K := le
instance (priority := low) : LT K := lt
instance (priority := low) : DecidableLE K := decidableLE
instance (priority := low) : DecidableLT K := decidableLT

end Operations

instance : Scalar Float where
  natCast := ⟨Float.ofNat⟩
  abs := Float.abs
  isFinite := Float.isFinite

variable {K : Type} [Scalar K]

/-- The smaller of two values; a value that is not even related to itself yields to the other. -/
protected def min (a b : K) : K :=
  if a ≤ b then a else if b ≤ b then b else a

/-- The larger of two values; a value that is not even related to itself yields to the other. -/
protected def max (a b : K) : K :=
  if b ≤ a then a else if b ≤ b then b else a

/-- The nearest value between two bounds; an unordered value is kept. -/
def clamp (a low high : K) : K :=
  if a < low then low else if high < a then high else a

/-- A quotient of two whole numbers. -/
def ratio (a b : Nat) : K :=
  (a : K) / (b : K)

/-- A whole number of units in the given decimal place. -/
def decimal (units place : Nat) : K :=
  ratio units (Nat.pow 10 place)

/-- A power of ten. -/
def powerOfTen (exponent : Nat) : K :=
  (Nat.pow 10 exponent : Nat)

/-- Equality with zero as the order sees it: both signed zeros pass, an unordered value does not. -/
def isZero (a : K) : Bool :=
  decide (a ≤ 0) && decide (0 ≤ a)

/-- A usable magnitude: finite and above zero. -/
def isPositive (a : K) : Bool :=
  isFinite a && decide (0 < a)

end Scalar

end QuadraticTrials

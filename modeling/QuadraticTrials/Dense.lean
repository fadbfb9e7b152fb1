import QuadraticTrials.Scalar

/-!
Dense vectors and matrices of fixed sizes. Products and sums run in one fixed order, because on
floats the order is part of the result.
-/

namespace QuadraticTrials

/-- A matrix as its rows. -/
abbrev Dense (K : Type) (m n : Nat) := Vector (Vector K n) m

variable {K : Type} [Scalar K] {m n : Nat}

/-- The sum from left to right. -/
def runningSum (terms : List K) : K :=
  terms.foldl (· + ·) 0

/-- Adds each whole block of eight terms to eight running sums, and returns the terms left over. -/
def sumLanes : Vector K (4 + 4) → List K → Vector K (4 + 4) × List K
  | lanes, a :: b :: c :: d :: e :: f :: g :: h :: rest =>
      sumLanes (lanes + #v[a, b, c, d, e, f, g, h]) rest
  | lanes, rest => (lanes, rest)

namespace Vec

def empty {α : Type} : Vector α 0 :=
  #v[]

/-- The first entry. -/
def head {α : Type} (x : Vector α (n + 1)) : α :=
  x.get ⟨0, n.succ_pos⟩

/-- The entries after the first one. -/
def tail {α : Type} (x : Vector α (n + 1)) : Vector α n :=
  Vector.ofFn fun i => x.get i.succ

/-- The first entries of a joined vector. -/
def left (x : Vector K (m + n)) : Vector K m :=
  Vector.ofFn fun i => x.get (i.castAdd n)

/-- The last entries of a joined vector. -/
def right (x : Vector K (m + n)) : Vector K n :=
  Vector.ofFn fun i => x.get (i.natAdd m)

end Vec

/-- The sum in eight lanes: lanes four apart are joined, then the terms left over follow. -/
def lanedSum (terms : List K) : K :=
  let (lanes, rest) := sumLanes (Vector.replicate (4 + 4) 0) terms
  rest.foldl (· + ·) (runningSum (Vec.left lanes + Vec.right lanes).toList)

namespace Vec

/-- The products of equal places. -/
def times (x y : Vector K n) : Vector K n :=
  Vector.zipWith (· * ·) x y

/-- The quotients of equal places. -/
def quotient (x y : Vector K n) : Vector K n :=
  Vector.zipWith (· / ·) x y

/-- The differences of equal places. -/
def minus (x y : Vector K n) : Vector K n :=
  Vector.zipWith (· - ·) x y

/-- A vector scaled by one factor. -/
def scale (x : Vector K n) (factor : K) : Vector K n :=
  x.map (· * factor)

def dot (x y : Vector K n) : K :=
  lanedSum (times x y).toList

/-- The largest magnitude, zero when there is none. -/
def maxAbs (x : Vector K n) : K :=
  x.toList.foldl (fun largest v => Scalar.max largest (Scalar.abs v)) 0

def isFinite (x : Vector K n) : Bool :=
  x.toList.all Scalar.isFinite

end Vec

namespace Dense

/-- The product of a matrix and a vector. -/
def mul (a : Dense K m n) (x : Vector K n) : Vector K m :=
  a.map fun row => runningSum (Vec.times row x).toList

def transpose (a : Dense K m n) : Dense K n m :=
  Vector.ofFn fun j => Vector.ofFn fun i => (a.get i).get j

def product {k : Nat} (a : Dense K m k) (b : Dense K k n) : Dense K m n :=
  let columns := b.transpose
  a.map fun row => columns.map fun column => runningSum (Vec.times row column).toList

/-- The matrix with each row scaled by its own factor. -/
def scaleRows (factors : Vector K m) (a : Dense K m n) : Dense K m n :=
  Vector.zipWith (fun factor row => row.map (factor * ·)) factors a

def plus (a b : Dense K m n) : Dense K m n :=
  Vector.zipWith (· + ·) a b

def isFinite (a : Dense K m n) : Bool :=
  a.toList.all Vec.isFinite

end Dense

end QuadraticTrials

import QuadraticTrials.Decimal.NumberText
import QuadraticTrials.Random
import QuadraticTrials.Spectrum

/-!
Seeded random instances of two variables: the cost is a scaled `V V'` of uniform entries, the
inequalities are a fixed triangle with the origin strictly inside, and a coin decides whether the
coordinates have to sum to zero.
-/

namespace QuadraticTrials

/-- The matrix with its shape. -/
def Dense.toGrid {K : Type} {m n : Nat} (a : Dense K m n) : Grid K :=
  ⟨m, n, a⟩

/-- A generator between two instances. -/
structure Generator (K : Type) where
  stream : Stream
  seed : UInt64
  equalityProbability : K

namespace Generator

/-- A reason why no instance is generated. -/
inductive Fault (K : Type)
  | badScale (scale : K)
  | exhausted

/-- Cost matrices drawn before giving up. -/
def maxDraws : Nat := 16

def Fault.reason {K : Type} [NumberText K] : Fault K → String
  | badScale scale => "cost scale must be positive and finite, got " ++ NumberText.plain scale
  | exhausted => "no positive-definite cost matrix after " ++ toString maxDraws ++ " draws"

def Fault.toError {K : Type} [NumberText K] (fault : Fault K) : Error :=
  .generation fault.reason

variable {K : Type} [Scalar K]

/-- The generator of a seed; the probability of an equality is brought into `[0, 1]`. -/
def ofSeed (seed : UInt64) (equalityProbability : K) : Generator K :=
  ⟨.ofSeed seed, seed, Scalar.clamp equalityProbability 0 1⟩

/-- The probability of an equality unless another is chosen. -/
def defaultProbability : K :=
  Scalar.ratio 1 2

/-- A uniform number in `[0, 1)`: the top 53 bits of a word over `2 ^ 53`. -/
def uniform (s : Stream) : K × Stream :=
  let (word, s) := s.next
  (Scalar.ratio (word >>> 11).toNat (Nat.pow 2 53), s)

/-- The rows of the fixed inequalities. -/
def inequalityMatrix : Dense K 3 2 :=
  let two : K := ((2 : Nat) : K)
  #v[#v[1, 1], #v[-1, two], #v[two, 1]]

/-- The inequalities `x₁ + x₂ ≤ 2`, `-x₁ + 2 x₂ ≤ 2` and `2 x₁ + x₂ ≤ 3`. -/
def fixedInequalities : Block K :=
  ⟨inequalityMatrix.toGrid, [((2 : Nat) : K), ((2 : Nat) : K), ((3 : Nat) : K)]⟩

/-- The equality `x₁ + x₂ = 0`. -/
def sumToZero : Block K :=
  ⟨Dense.toGrid (#v[#v[1, 1]] : Dense K 1 2), [0]⟩

/-- The symmetric cost of a factor: half of `V V'` and its transpose, scaled. -/
def costOf (v : Dense K 2 2) (scale : K) : Dense K 2 2 :=
  let square := v.product v.transpose
  let factor := Scalar.ratio 1 2 * scale
  (square.plus square.transpose).map fun row => row.map (· * factor)

/-- A factor with uniform entries, drawn column by column. -/
def drawFactor (s : Stream) : Dense K 2 2 × Stream :=
  let (a, s) := uniform s
  let (b, s) := uniform s
  let (c, s) := uniform s
  let (d, s) := uniform s
  (#v[#v[a, c], #v[b, d]], s)

/-- The least eigenvalue accepted, relative to the largest one. -/
def minRelativeEigenvalue : K :=
  Scalar.decimal 1 12

variable [SymmetricSpectrum K]

/-- Whether a cost is far enough from being singular. -/
def isWellConditioned (p : Dense K 2 2) : Bool :=
  let eigenvalues := SymmetricSpectrum.eigenvalues p
  minRelativeEigenvalue * maximumAbs eigenvalues < minimum eigenvalues

/-- The first accepted cost of at most `draws` draws. -/
def drawCost (scale : K) : (draws : Nat) → Stream → Option (Dense K 2 2) × Stream
  | 0, s => (none, s)
  | draws + 1, s =>
      let (v, s) := drawFactor s
      let p := costOf v scale
      if isWellConditioned p then (some p, s) else drawCost scale draws s

/-- The next instance at a cost scale. A scale that is not positive and finite draws nothing. -/
def generate (g : Generator K) (scale : K) : Except (Fault K) (Instance K) × Generator K :=
  if Scalar.isPositive scale then
    match drawCost scale maxDraws g.stream with
    | (none, s) => (.error .exhausted, { g with stream := s })
    | (some p, s) =>
        let (q0, s) := uniform (K := K) s
        let (q1, s) := uniform (K := K) s
        let (coin, s) := uniform (K := K) s
        let equality := if coin < g.equalityProbability then some sumToZero else none
        (.ok ⟨p.toGrid, [q0 * scale, q1 * scale], some fixedInequalities, equality⟩,
          { g with stream := s })
  else (.error (.badScale scale), g)

end Generator

end QuadraticTrials

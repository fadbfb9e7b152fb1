import QuadraticTrials.InteriorPoint.Start

/-!
Runs of the primal-dual method. Each step follows a corrected Newton direction, or a damped
centering direction when the first does not lower the merit sufficiently; a run ends at the
stopping test, at the iteration cap, at a step that is too short or at a singular system.
-/

namespace QuadraticTrials

variable {K : Type} [Scalar K] {n m p : Nat}

/-- A visited point with what is known about it; `step` is the length of the step that led to
it, zero at the start.
-/
structure Record (K : Type) (n m p : Nat) where
  index : Nat
  iterate : Iterate K n m p
  residuals : Residuals K n m p
  objective : K
  gap : K
  step : K

/-- What follows a visited point. -/
inductive Move (K : Type) (n m p : Nat)
  | advance (next : Iterate K n m p) (length : K)
  | stalled
  | singular

/-- Why a run ended at its last point. -/
inductive Ending
  | converged
  | exhausted
  | stalled
  | singular
  deriving DecidableEq, Repr

/-- The visited points of a run, the last one apart, and why it ended there. -/
structure Run (K : Type) (n m p : Nat) where
  earlier : List (Record K n m p)
  last : Record K n m p
  ending : Ending

/-- All visited points in order. -/
def Run.records (run : Run K n m p) : List (Record K n m p) :=
  run.earlier ++ [run.last]

namespace Program

/-- Shorter steps count as a stall. -/
def minStep : K :=
  Scalar.decimal 1 14

/-- The least centering of a damped step. -/
def minCentering : K :=
  Scalar.ratio 1 10

/-- The greatest centering of a damped step. -/
def maxCentering : K :=
  Scalar.ratio 1 2

/-- The mean complementarity, zero without inequality rows. -/
def meanGap (m : Nat) (gap : K) : K :=
  if 0 < m then gap / (m : K) else 0

/-- The third power. -/
def cube (a : K) : K :=
  a * (a * a)

/-- The centering that the affine direction suggests: the cube of the part of the mean gap that
would remain after it.
-/
def centering (it : Iterate K n m p) (affine : Direction K n m p) (mu : K) : K :=
  let length := Direction.fullLength (affine.boundary it)
  let reached := it.advance affine length
  if 0 < mu then Scalar.clamp (cube (meanGap m reached.gap / mu)) 0 1 else 0

/-- Halves a length until it is accepted; a length below `minStep` ends the search. Forty-eight
trials take a length of at most one below that bound.
-/
def backtrack (accept : K → Bool) : (trials : Nat) → K → Option K
  | 0, _ => none
  | trials + 1, length =>
      if minStep ≤ length then
        if accept length then some length
        else backtrack accept trials (length * Scalar.ratio 1 2)
      else none

/-- The number of trials of `backtrack`. -/
def maxTrials : Nat := 48

/-- The direction that aims at zero complementarity. -/
def affineDirection? (prog : Program K n m p) (r : Record K n m p) : Option (Direction K n m p) :=
  prog.direction? r.iterate r.residuals (Vec.times r.iterate.s r.iterate.z)

/-- The direction that corrects for the products of the changes along an affine direction, with
the centering which that direction suggests.
-/
def correctedDirection? (prog : Program K n m p) (r : Record K n m p)
    (affine : Direction K n m p)
    : Option (Direction K n m p) :=
  let it := r.iterate
  let mu := meanGap m r.gap
  prog.direction? it r.residuals
    (Vec.minus (Vec.times it.s it.z + Vec.times affine.ds affine.dz)
      (Vector.replicate m (centering it affine mu * mu)))

/-- The direction towards the central path, with the suggested centering kept within bounds. -/
def dampedDirection? (prog : Program K n m p) (r : Record K n m p) (affine : Direction K n m p)
    : Option (Direction K n m p) :=
  let it := r.iterate
  let mu := meanGap m r.gap
  let damped := Scalar.clamp (centering it affine mu) minCentering maxCentering
  prog.direction? it r.residuals
    (Vec.minus (Vec.times it.s it.z) (Vector.replicate m (damped * mu)))

/-- The first length tried along a direction. -/
def firstLength (fraction : K) (r : Record K n m p) (dir : Direction K n m p) : K :=
  Direction.fractionLength fraction (dir.boundary r.iterate)

/-- Whether a step from a visited point lowers the merit sufficiently. -/
def improves (prog : Program K n m p) (r : Record K n m p) (dir : Direction K n m p) (length : K)
    : Bool :=
  prog.decreasesMerit r.iterate (r.residuals.merit r.gap) dir length

/-- The damped step, its length halved until the merit falls. -/
def dampedMove (prog : Program K n m p) (fraction : K) (r : Record K n m p)
    (affine : Direction K n m p)
    : Move K n m p :=
  match prog.dampedDirection? r affine with
  | none => .singular
  | some dir =>
      match backtrack (prog.improves r dir) maxTrials (firstLength fraction r dir) with
      | none => .stalled
      | some length => .advance (r.iterate.advance dir length) length

/-- The corrected step after an affine direction, or the damped step when it does not lower the
merit sufficiently.
-/
def correctedMove (prog : Program K n m p) (fraction : K) (r : Record K n m p)
    (affine : Direction K n m p)
    : Move K n m p :=
  match prog.correctedDirection? r affine with
  | none => .singular
  | some dir =>
      let length := firstLength fraction r dir
      if prog.improves r dir length then
        if length < minStep then .stalled else .advance (r.iterate.advance dir length) length
      else prog.dampedMove fraction r affine

/-- What follows a visited point. Without inequality rows the full Newton step is taken. -/
def move (prog : Program K n m p) (fraction : K) (r : Record K n m p) : Move K n m p :=
  match prog.affineDirection? r with
  | none => .singular
  | some affine =>
      if m = 0 then .advance (r.iterate.advance affine 1) 1
      else prog.correctedMove fraction r affine

/-- What is known about a point. -/
def record (prog : Program K n m p) (index : Nat) (step : K) (it : Iterate K n m p)
    : Record K n m p where
  index
  iterate := it
  residuals := prog.residuals it
  objective := objective prog.P prog.q it.x
  gap := it.gap
  step

/-- Whether a visited point passes the stopping test. -/
def accepts (prog : Program K n m p) (tolerance : K) (r : Record K n m p) : Bool :=
  prog.converged r.iterate r.residuals r.objective tolerance

/-- The run from a visited point with a number of steps still allowed. -/
def runFrom (prog : Program K n m p) (fraction tolerance : K)
    : (remaining : Nat) → Record K n m p → Run K n m p
  | remaining, r =>
      if prog.accepts tolerance r then ⟨[], r, .converged⟩
      else
        match remaining with
        | 0 => ⟨[], r, .exhausted⟩
        | remaining + 1 =>
            match prog.move fraction r with
            | .stalled => ⟨[], r, .stalled⟩
            | .singular => ⟨[], r, .singular⟩
            | .advance next length =>
                let rest :=
                  prog.runFrom fraction tolerance remaining (prog.record (r.index + 1) length next)
                { rest with earlier := r :: rest.earlier }

/-- The run from a starting point. -/
def run (prog : Program K n m p) (fraction tolerance : K) (cap : Nat) (it : Iterate K n m p)
    : Run K n m p :=
  prog.runFrom fraction tolerance cap (prog.record 0 0 it)

end Program

end QuadraticTrials

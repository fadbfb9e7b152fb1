import QuadraticTrials.Conic.Balance
import QuadraticTrials.Conic.Measures
import QuadraticTrials.Conic.Start
import QuadraticTrials.Conic.Step

/-!
The reference solver: a conic program is balanced and followed through its homogeneous embedding
until its point shows an optimum or a proof of infeasibility. What a point shows is measured in
the problem as it was given.
-/

namespace QuadraticTrials

namespace Embedding

namespace Problem

variable {K : Type} [Scalar K] {n r : Nat}

/-- A step of at most this length ends a run. -/
def leastStep : K :=
  Scalar.decimal 1 4

/-- The end of a run: how it ended, in how many steps, and the point it reached. -/
structure Ending (K : Type) (n r : Nat) where
  status : Status
  steps : Nat
  point : Point K n r

/-- A problem with its weights and its weighted form. -/
structure Balanced (K : Type) (n r : Nat) where
  given : Problem K n r
  weights : Weights K n r
  weighted : Problem K n r

/-- The measures of a weighted point. -/
def Balanced.measure (prob : Balanced K n r) (v : Point K n r) : Measures K :=
  prob.given.measure prob.weights.cost (prob.weights.restore v)

/-- Follows the embedding from a point, with a number of steps still allowed. A run that has
stalled ends at the point before, where `before` is that point.
-/
def Balanced.follow (prob : Balanced K n r) (steps : Nat) (before : Option (Point K n r))
    : (remaining : Nat) → Point K n r → Ending K n r
  | remaining, v =>
      let m := prob.measure v
      match m.shown? .full with
      | some status => ⟨status, steps, v⟩
      | none =>
          let stalledAt := before.filter fun u => 1 < steps && m.hasStalled (prob.measure u)
          match stalledAt with
          | some u => ⟨(prob.measure u).unfinished .numericalError, steps, u⟩
          | none =>
              match remaining with
              | 0 => ⟨m.unfinished .maxIterations, steps, v⟩
              | remaining + 1 =>
                  let scaled := normalize v
                  match prob.weighted.step? (steps == 0) scaled with
                  | none => ⟨m.unfinished .numericalError, steps + 1, v⟩
                  | some step =>
                      if step.length ≤ leastStep then
                        ⟨m.unfinished .numericalError, steps + 1, v⟩
                      else prob.follow (steps + 1) (some v) remaining (step.take scaled)

/-- A problem in balance. -/
def balanced [SquareRoot K] (prob : Problem K n r) : Balanced K n r :=
  let weights := prob.balance
  ⟨prob, weights, prob.weigh weights⟩

end Problem

end Embedding

namespace Conic

def name : String := "clarabel"

/-- Steps after which the reference solver gives up. -/
def maxIterations : Nat := 200

variable {K : Type} [Scalar K] [SquareRoot K]

/-- The answer on a conic program. -/
def answer (c : Conic K) : Solution K :=
  let prob := (Embedding.Problem.ofConic c).balanced
  match prob.weighted.start? with
  | none => ⟨c.q.map fun _ => 0, .numericalError, 0, 0⟩
  | some start =>
      let ending := prob.follow 0 none maxIterations start
      let x := (prob.weights.restore ending.point).x.map (· / ending.point.tau)
      ⟨x.toList, ending.status, objective prob.given.P prob.given.q x, ending.steps⟩

/-- The answer on an instance. -/
def solve (inst : Instance K) : Except Error (Solution K) :=
  match passed : inst.check with
  | .error fault => .error fault.toError
  | .ok () => .ok (answer (ofInstance inst (Instance.wellShaped_of_check passed)))

end Conic

end QuadraticTrials

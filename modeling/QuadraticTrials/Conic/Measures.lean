import QuadraticTrials.Conic.Embedding
import QuadraticTrials.Solution

/-!
How near a point of the embedding is to an optimum or to a proof of infeasibility, and when that
is near enough.
-/

namespace QuadraticTrials

namespace Embedding

/-- How near a point is to an optimum or to a proof of infeasibility. -/
structure Measures (K : Type) where
  /-- The difference of the primal and the dual cost, and the same relative to the costs. -/
  gap : K
  relativeGap : K
  /-- The relative violation of the constraints. -/
  primalResidual : K
  /-- The relative violation of stationarity. -/
  dualResidual : K
  /-- The value that a proof of primal infeasibility makes negative, and its relative error. -/
  primalProof : K
  primalError : K
  /-- The value that a proof of dual infeasibility makes negative, and its relative error. -/
  dualProof : K
  dualError : K
  /-- The ratio of `kappa` to `tau`, small at an optimum and large at a proof. -/
  ratio : K

/-- How exact an optimum or a proof has to be. -/
structure Tolerances (K : Type) where
  gap : K
  residual : K
  proof : K
  proofError : K
  /-- The ratio of `kappa` to `tau` above which proofs are considered. -/
  leastRatio : K

variable {K : Type} [Scalar K] {n r : Nat}

namespace Tolerances

/-- What is asked of an answer. -/
def full : Tolerances K where
  gap := Scalar.decimal 1 8
  residual := Scalar.decimal 1 8
  proof := Scalar.decimal 1 8
  proofError := Scalar.decimal 1 8
  leastRatio := Scalar.powerOfTen 9

/-- What makes an unfinished run nearly an answer. -/
def reduced : Tolerances K where
  gap := Scalar.decimal 5 5
  residual := Scalar.decimal 1 4
  proof := Scalar.decimal 5 12
  proofError := Scalar.decimal 5 5
  leastRatio := Scalar.powerOfTen 7

end Tolerances

namespace Measures

/-- What the measures show, if anything. -/
def shown? (m : Measures K) (t : Tolerances K) : Option Status :=
  if m.ratio ≤ 1 && (m.gap < t.gap || m.relativeGap < t.gap) && m.primalResidual < t.residual
      && m.dualResidual < t.residual then some .optimal
  else if t.leastRatio < m.ratio then
    if m.primalProof < -t.proof && m.primalError < t.proofError * -m.primalProof then
      some .primalInfeasible
    else if m.dualProof < -t.proof && m.dualError < t.proofError * -m.dualProof then
      some .dualInfeasible
    else none
  else none

/-- The status of a run that cannot go on: one that is nearly an answer is not called by the
reason for which it ended.
-/
def unfinished (m : Measures K) (reason : Status) : Status :=
  if (m.shown? .reduced).isSome then .unsolved else reason

/-- A ratio of `kappa` to `tau` that only rounding separates from zero. -/
def negligibleRatio : K :=
  ((100 : Nat) : K) * Scalar.ratio 1 (Nat.pow 2 52)

/-- A residual that grows by this factor has left the way to an answer. -/
def divergence : K :=
  ((100 : Nat) : K)

/-- Whether residuals have grown although the gap was already closed, or have grown out of all
bounds on the way to an optimum.
-/
def hasStalled (m previous : Measures K) : Bool :=
  let t : Tolerances K := .full
  let diverges (now before : K) : Bool :=
    m.ratio < 1 && t.residual < now && divergence * before < now
  (previous.dualResidual < m.dualResidual || previous.primalResidual < m.primalResidual)
    && (m.ratio < negligibleRatio && (previous.gap < t.gap || previous.relativeGap < t.gap)
      || diverges m.dualResidual previous.dualResidual
      || diverges m.primalResidual previous.primalResidual)

end Measures

namespace Problem

/-- The largest of some magnitudes, at least one. -/
def atLeastOne (magnitude : K) : K :=
  Scalar.max 1 magnitude

/-- The measures of a point. Of the weights only the one of the cost matters: it scales the values
of proofs.
-/
def measure (prob : Problem K n r) (costWeight : K) (v : Point K n r) : Measures K :=
  let rest := prob.residual v
  let Px := prob.P.mul v.x
  let normX := Vec.maxAbs v.x
  let normS := Vec.maxAbs v.s
  let normZ := Vec.maxAbs v.z
  let curvature := Scalar.ratio 1 2 * (Vec.dot v.x Px / v.tau / v.tau)
  let primal := Vec.dot prob.q v.x / v.tau + curvature
  let dual := -(Vec.dot prob.b v.z / v.tau) - curvature
  let gap := Scalar.abs (primal - dual)
  {
    gap
    relativeGap := gap / atLeastOne (Scalar.min (Scalar.abs primal) (Scalar.abs dual))
    primalResidual :=
      Vec.maxAbs rest.z / v.tau / atLeastOne (Vec.maxAbs prob.b + normX / v.tau + normS / v.tau)
    dualResidual :=
      Vec.maxAbs rest.x / v.tau / atLeastOne (Vec.maxAbs prob.q + normX / v.tau + normZ / v.tau)
    primalProof := costWeight * Vec.dot prob.b v.z
    primalError := Vec.maxAbs (prob.A.transpose.mul v.z) / atLeastOne normZ
    dualProof := costWeight * Vec.dot prob.q v.x
    dualError :=
      Scalar.max (costWeight * Vec.maxAbs Px / atLeastOne normX)
        (Vec.maxAbs (prob.A.mul v.x + v.s) / atLeastOne (normX + normS))
    ratio := v.kappa / v.tau
  }

end Problem

end Embedding

end QuadraticTrials

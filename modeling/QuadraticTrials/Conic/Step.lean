import QuadraticTrials.Conic.System
import QuadraticTrials.InteriorPoint.Iterate

/-!
Steps of the embedding: an affine direction first, and then one that is centered and corrected by
what the affine one would do.
-/

namespace QuadraticTrials

namespace Embedding

namespace Problem

variable {K : Type} [Scalar K] {n r : Nat}

/-- The direction that removes a part `rate` of the residual and meets a complementarity target.
It is the sum of a particular direction and a multiple of `unit`, in which `tau` moves by one.
-/
def direction? (prob : Problem K n r) (system : Scaled K n r) (unit : Vector K n × Vector K r)
    (v : Point K n r) (res : Residual K n r) (rate : K) (target : Target K r)
    : Option (Point K n r) :=
  let h := system.scaling
  let (x2, z2) := unit
  let pull := prob.onFreeRows (Vec.quotient target.s v.z)
  (system.solve? (-(Vec.scale res.x rate)) (Vec.minus pull (Vec.scale res.z rate))).map
    fun (x1, z1) =>
      let xi := v.x.map (· / v.tau)
      let Pxi := prob.P.mul xi
      let apart := Vec.minus x2 xi
      let curvature :=
        v.kappa / v.tau - Vec.dot prob.q x2 - Vec.dot prob.b z2
          + (Vec.dot apart (prob.P.mul apart) - Vec.dot x2 (prob.P.mul x2))
      let rise :=
        rate * res.tau - target.kappa / v.tau + Vec.dot prob.q x1 + Vec.dot prob.b z1
          + (Vec.dot Pxi x1 + Vec.dot Pxi x1)
      let tau := rise / curvature
      let z := z1 + Vec.scale z2 tau
      {
        x := x1 + Vec.scale x2 tau
        s := prob.onFreeRows (-(pull + Vec.times h z))
        z
        tau
        kappa := -(target.kappa + v.kappa * tau) / v.tau
      }

/-- The largest step within one that keeps slacks, duals, `tau` and `kappa` from falling below
zero.
-/
def stepLimit (prob : Problem K n r) (v d : Point K n r) : K :=
  let crossings :=
    Direction.zeroCrossings v.s d.s
      ++ Direction.zeroCrossings (prob.onFreeRows v.z) (prob.onFreeRows d.z)
      ++ Direction.zeroCrossings #v[v.tau, v.kappa] #v[d.tau, d.kappa]
  Direction.fullLength (crossings.foldl Direction.tighten none)

def advance (v d : Point K n r) (length : K) : Point K n r where
  x := v.x + Vec.scale d.x length
  s := v.s + Vec.scale d.s length
  z := v.z + Vec.scale d.z length
  tau := v.tau + d.tau * length
  kappa := v.kappa + d.kappa * length

/-- The point scaled so that the larger of `tau` and `kappa` is one. It stands for the same
optimum or proof, and keeps the accuracy of the next step from fading as both fall.
-/
def normalize (v : Point K n r) : Point K n r :=
  let factor := 1 / Scalar.max v.tau v.kappa
  {
    x := Vec.scale v.x factor
    s := Vec.scale v.s factor
    z := Vec.scale v.z factor
    tau := v.tau * factor
    kappa := v.kappa * factor
  }

/-- The part of the largest step that is taken. -/
def stepFraction : K :=
  Scalar.ratio 99 100

/-- A step from a point: its direction, with the length that will be taken. -/
structure Step (K : Type) (n r : Nat) where
  direction : Point K n r
  length : K

/-- The step from a point: an affine direction sets the centering of the combined one. The
correction for the curvature of complementarity is weakened on the first step, when the point may
be badly centered.
-/
def step? (prob : Problem K n r) (isFirst : Bool) (v : Point K n r) : Option (Step K n r) :=
  let res := prob.residual v
  let mu := prob.mean v
  let product := Vec.times v.s v.z
  let system := prob.scaled (prob.scaling v)
  match system.solve? (-prob.q) prob.b with
  | none => none
  | some unit =>
      match prob.direction? system unit v res 1 ⟨product, v.kappa * v.tau⟩ with
      | none => none
      | some affine =>
          let limit := prob.stepLimit v affine
          let left := 1 - limit
          let sigma := left * left * left
          let pull := sigma * mu
          let weight := if isFirst then limit else 1
          let target : Target K r :=
            ⟨(product + Vec.scale (Vec.times affine.s affine.z) weight).map (· - pull),
              v.kappa * v.tau + weight * affine.kappa * affine.tau - pull⟩
          (prob.direction? system unit v res (1 - sigma) target).map fun d =>
            ⟨d, stepFraction * prob.stepLimit v d⟩

/-- The point that a step leads to. -/
def Step.take (step : Step K n r) (v : Point K n r) : Point K n r :=
  advance v step.direction step.length

end Problem

end Embedding

end QuadraticTrials

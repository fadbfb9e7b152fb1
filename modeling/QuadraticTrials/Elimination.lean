import QuadraticTrials.Dense

/-!
Systems of linear equations, by elimination with partial pivoting. Each step takes the equation
with the largest leading coefficient, removes its first unknown from the others and solves what
is left.
-/

namespace QuadraticTrials

/-- The equation `coefficients · x = constant`. -/
structure Equation (K : Type) (n : Nat) where
  coefficients : Vector K n
  constant : K

namespace Equation

variable {K : Type} [Scalar K] {n : Nat}

/-- The coefficient of the first unknown. -/
def leading (e : Equation K (n + 1)) : K :=
  Vec.head e.coefficients

/-- The coefficients of the other unknowns. -/
def others (e : Equation K (n + 1)) : Vector K n :=
  Vec.tail e.coefficients

/-- Subtracts the multiple of `pivot` that removes the first unknown; `inverse` is the inverse of
the pivot's leading coefficient.
-/
def eliminate (pivot : Equation K (n + 1)) (inverse : K) (e : Equation K (n + 1)) : Equation K n :=
  let factor := e.leading * inverse
  ⟨Vector.zipWith (fun p c => -p * factor + c) pivot.others e.others,
    -pivot.constant * factor + e.constant⟩

/-- The first unknown, given the others; the last of them is inserted first. -/
def backSubstitute (pivot : Equation K (n + 1)) (x : Vector K n) : K :=
  (List.zip pivot.others.toList x.toList).foldr (fun (c, v) rest => -v * c + rest) pivot.constant
    / pivot.leading

/-- The position of the largest value above `best`, the first of equal ones. -/
def largestAbove (best : K) (found : Option Nat) (position : Nat) : List K → Option Nat
  | [] => found
  | a :: rest =>
      if best < a then largestAbove a (some position) (position + 1) rest
      else largestAbove best found (position + 1) rest

/-- The equation with the largest leading coefficient, exchanged with the first one. -/
def choosePivot (first : Equation K (n + 1)) (rest : List (Equation K (n + 1)))
    : Equation K (n + 1) × List (Equation K (n + 1)) :=
  let magnitudes := rest.map fun e => Scalar.abs e.leading
  match largestAbove (Scalar.abs first.leading) none 0 magnitudes with
  | none => (first, rest)
  | some i =>
      match rest[i]? with
      | none => (first, rest)
      | some e => (e, rest.set i first)

/-- The solution of as many equations as unknowns, unless a step finds no leading coefficient
other than zero.
-/
def solve? : (n : Nat) → List (Equation K n) → Option (Vector K n)
  | 0, _ => some Vec.empty
  | _ + 1, [] => none
  | n + 1, first :: rest =>
      let (pivot, remaining) := choosePivot first rest
      if Scalar.isZero pivot.leading then none
      else
        let inverse := 1 / pivot.leading
        (solve? n (remaining.map (pivot.eliminate inverse))).map fun x =>
          Vector.insertIdx x 0 (pivot.backSubstitute x) (Nat.zero_le n)

end Equation

/-- The solution of `a x = b`. -/
def Dense.solve? {K : Type} [Scalar K] {n : Nat} (a : Dense K n n) (b : Vector K n)
    : Option (Vector K n) :=
  Equation.solve? n (Vector.zipWith Equation.mk a b).toList

end QuadraticTrials

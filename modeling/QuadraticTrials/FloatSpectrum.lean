import QuadraticTrials.Spectrum

/-!
Eigenvalues of symmetric float matrices: reflections bring the matrix to tridiagonal form, and
shifted rotations shrink the entries beside the diagonal until each eigenvalue stands alone.
-/

namespace QuadraticTrials

namespace Tridiagonal

/-- A symmetric tridiagonal matrix: its diagonal and the entries beside it. -/
structure Band where
  diagonal : Array Float
  beside : Array Float

namespace Band

/-- A diagonal entry. -/
def diag (b : Band) (i : Nat) : Float :=
  b.diagonal.getD i 0

/-- An entry beside the diagonal. -/
def off (b : Band) (i : Nat) : Float :=
  b.beside.getD i 0

/-- Replaces a diagonal entry. -/
def setDiag (b : Band) (i : Nat) (x : Float) : Band :=
  { b with diagonal := b.diagonal.setIfInBounds i x }

/-- Replaces an entry beside the diagonal. -/
def setOff (b : Band) (i : Nat) (x : Float) : Band :=
  { b with beside := b.beside.setIfInBounds i x }

end Band

/-- The magnitude of a float and its sign as a factor. -/
def signed (x : Float) : Float × Float :=
  if x ≥ 0 then (x, 1) else (-x, -1)

/-- The inner product of two lists. -/
def listDot (x y : List Float) : Float :=
  lanedSum (List.zipWith (· * ·) x y)

/-- A column as a unit axis of reflection, and the signed length that the reflection leaves.
`none` when there is nothing to reflect.
-/
def reflection (column : List Float) : Option (List Float) × Float :=
  let square := listDot column column
  let length := square.sqrt
  let (modulus, sign) := signed (column.headD 0)
  let signedLength := sign * length
  let factor := (square + modulus * length) * 2
  if factor == 0 then (none, signedLength)
  else
    let raised := (column.headD 0 + signedLength) :: column.tail
    let scaled := raised.map (· / factor.sqrt)
    let norm := (listDot scaled scaled).sqrt
    (some (scaled.map (· / norm)), -signedLength)

/-- Entry `i` of twice the product of a symmetric matrix and a vector; `columns` are the columns
of the lower triangle, each from the diagonal down.
-/
def doubledEntry (columns : List (List Float)) (x : List Float) (i : Nat) : Float :=
  let term (j : Nat) : Float := 2 * x.getD j 0 * (columns.getD j []).getD (i - j) 0
  let own := columns.getD i []
  let rest := x.drop i
  if i == 0 then term 0 + 2 * listDot own.tail rest.tail
  else
    let before := (List.range (i - 1)).foldl (fun sum j => term (j + 1) + sum) (term 0)
    before + 2 * listDot own rest

/-- The lower triangle after reflecting both sides along an axis. -/
def reflect (columns : List (List Float)) (axis : List Float) : List (List Float) :=
  let product := (List.range axis.length).map (doubledEntry columns axis)
  let twice := listDot axis product * 2
  columns.mapIdx fun j column =>
    let axisJ := axis.getD j 0
    let productJ := product.getD j 0
    List.zipWith
      (fun entry (axisI, productI) =>
        twice * axisJ * axisI + (-productJ * axisI + (-axisJ * productI + entry)))
      column (List.zip (axis.drop j) (product.drop j))

/-- Brings a matrix, given by the columns of its lower triangle, to tridiagonal form. `size` is
the number of columns.
-/
def reduce : (size : Nat) → List (List Float) → List Float × List Float
  | size + 1, (corner :: below) :: rest =>
      if below.isEmpty then ([corner], [])
      else
        let (axis?, beside) := reflection below
        let columns := axis?.elim rest (reflect rest)
        let (diagonal, besides) := reduce size columns
        (corner :: diagonal, beside.abs :: besides)
  | _, _ => ([], [])

/-- Relative size below which an entry beside the diagonal counts as zero. -/
def precision : Float := Float.ofScientific 2220446049250313 true 31

/-- Whether the entry between places `i` and `i + 1` is not negligible. -/
def couples (b : Band) (i : Nat) : Bool :=
  (b.off i).abs > precision * ((b.diag (i + 1)).abs + (b.diag i).abs)

/-- The last place up to `last` that is coupled with the one before it, zero if there is none. -/
def coupledEnd (b : Band) : (last : Nat) → Nat
  | 0 => 0
  | m + 1 => if couples b m then m + 1 else coupledEnd b m

/-- The first place of the coupled block that reaches `start`; the entry that separates it from
the places before is cleared.
-/
def blockStart (b : Band) : (start : Nat) → Nat × Band
  | 0 => (0, b)
  | m + 1 =>
      if b.off m == 0 || (b.off m).abs ≤ precision * ((b.diag (m + 1)).abs + (b.diag m).abs) then
        (m + 1, b.setOff m 0)
      else blockStart b m

/-- The last coupled block up to a place, `(0, 0)` if there is none. -/
def lastBlock (b : Band) (last : Nat) : (Nat × Nat) × Band :=
  match coupledEnd b last with
  | 0 => ((0, 0), b)
  | m + 1 =>
      let (start, b) := blockStart b m
      ((start, m + 1), b)

/-- Whether the sign bit of a float is set. -/
def hasSignBit (x : Float) : Bool :=
  x.toBits >>> 63 == 1

/-- The shift of a rotation sweep, from the last block of two places. -/
def shift (first last beside : Float) : Float :=
  let square := beside * beside
  if square == 0 then last
  else
    let half := (first - last) * 0.5
    let sign : Float := if half.isNaN then half else if hasSignBit half then -1 else 1
    last - square / (half + sign * (half * half + square).sqrt)

/-- One sweep of rotations over the places `i … last`; `x` and `y` are the entries of which the
second is rotated away, `steps` the rotations left.
-/
def sweep : (steps : Nat) → (i last : Nat) → (first : Bool) → (x y : Float) → Band → Band
  | 0, _, _, _, _, _, b => b
  | steps + 1, i, last, first, x, y, b =>
      if y == 0 then b
      else
        let (modulus, sign) := signed x
        let length := (modulus * modulus + y * y).sqrt
        let c := modulus / length
        let s := -y / (sign * length)
        let b := if first then b else b.setOff (i - 1) (sign * length)
        let mii := b.diag i
        let mjj := b.diag (i + 1)
        let mij := b.off i
        let cc := c * c
        let ss := s * s
        let cs := c * s
        let cross := cs * 2 * mij
        let b := b.setDiag i ((cc * mii + ss * mjj) - cross)
        let b := b.setDiag (i + 1) ((ss * mii + cc * mjj) + cross)
        let b := b.setOff i (cs * (mii - mjj) + mij * (cc - ss))
        if i + 1 == last then b
        else
          let below := b.off (i + 1)
          sweep steps (i + 1) last false (b.off i) (-s * below) (b.setOff (i + 1) (below * c))

/-- The eigenvalues of a block of two places. -/
def pair (h00 h10 h11 : Float) : Float × Float :=
  let half := (h00 - h11) * 0.5
  let root := (h10 * h10 + half * half).sqrt
  let middle := (h00 + h11) * 0.5
  (middle + root, middle - root)

/-- Works on the block `start … last`, and gives the last place still to be looked at. -/
def shrink (b : Band) (start last : Nat) : Nat × Band :=
  if start + 1 == last then
    let (high, low) := pair (b.diag start) (b.off start) (b.diag last)
    (last - 1, (b.setDiag start high).setDiag last low)
  else
    let m := last - 1
    let x := b.diag start - shift (b.diag m) (b.diag last) (b.off m)
    let b := sweep (last - start) start last true x (b.off start) b
    if (b.off m).abs ≤ precision * ((b.diag m).abs + (b.diag last).abs) then (last - 1, b)
    else (last, b)

/-- Shrinks blocks until none is coupled; `rounds` bounds their number. -/
def separate : (rounds : Nat) → (start last : Nat) → Band → Band
  | 0, _, _, b => b
  | rounds + 1, start, last, b =>
      if start == last then b
      else
        let (last, b) := shrink b start last
        let ((start, last), b) := lastBlock b last
        separate rounds start last b

/-- Rounds allowed for each place; a handful is usual. -/
def roundsPerPlace : Nat := 1000

/-- The eigenvalues of a float matrix, found on the matrix scaled to magnitudes of at most one. -/
def eigenvalues {n : Nat} (a : Dense Float n n) : List Float :=
  let scale := maximumAbs a.entries
  let scaled := if scale == 0 then a else a.map fun row => row.map (· / scale)
  let columns := scaled.transpose.toList.mapIdx fun j column => column.toList.drop j
  let (diagonal, beside) := reduce n columns
  let b : Band := ⟨diagonal.toArray, beside.toArray⟩
  let ((start, last), b) := lastBlock b (n - 1)
  let b := separate (roundsPerPlace * n) start last b
  b.diagonal.toList.map (· * scale)

end Tridiagonal

instance : SymmetricSpectrum Float where
  eigenvalues := Tridiagonal.eigenvalues

end QuadraticTrials

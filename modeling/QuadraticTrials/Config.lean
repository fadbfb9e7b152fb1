import QuadraticTrials.Comparison
import QuadraticTrials.Error

/-!
The configuration of a sweep: its defaults, its stored form and the values that are accepted.
-/

namespace QuadraticTrials

/-- Counts and seeds are words of 64 bits; this is the first number beyond them. -/
def wordBound : Nat := Nat.pow 2 64

/-- What a sweep is to do. -/
structure Config (K : Type) where
  repetitions : Nat
  costScales : List K
  tolerance : K
  seed : Option UInt64
  solveTimeoutMs : Option Nat
  parallelSolves : Bool
  showProgress : Bool
  equalityProbability : K

namespace Config

/-- A reason why a configuration is rejected. -/
inductive Fault (K : Type)
  | unreadable (path reason : String)
  | malformed
  | noScales
  | badScale (scale : K)
  | badTolerance (tolerance : K)
  | badProbability (probability : K)
  | zeroTimeout

variable {K : Type}

/-- The fields in their stored order. -/
def keys : List String :=
  ["repetitions", "cost_scales", "tolerance", "seed", "solve_timeout_ms", "parallel_solves",
    "show_progress", "equality_probability"]

def toJson (c : Config K) : Json K :=
  .object (keys.zip [.count c.repetitions, .numbers c.costScales, .number c.tolerance,
    .optional (fun seed => .count seed.toNat) c.seed, .optional .count c.solveTimeoutMs,
    .bool c.parallelSolves, .bool c.showProgress, .number c.equalityProbability])

section Text

variable [NumberText K]

def Fault.reason : Fault K → String
  | unreadable path reason => "cannot read " ++ path ++ ": " ++ reason
  | malformed => "invalid config"
  | noScales => "cost_scales must not be empty"
  | badScale scale =>
      "cost scales must be positive and finite, got " ++ NumberText.plain scale
  | badTolerance tolerance =>
      "tolerance must be non-negative and finite, got " ++ NumberText.plain tolerance
  | badProbability probability =>
      "equality_probability must be in [0, 1], got " ++ NumberText.plain probability
  | zeroTimeout => "solve_timeout_ms must be positive"

def Fault.toError (fault : Fault K) : Error :=
  .config fault.reason

end Text

section Values

variable [Scalar K]

/-- The configuration unless another is chosen. -/
def standard : Config K where
  repetitions := 50
  costScales := [((100 : Nat) : K), ((500 : Nat) : K), ((1000 : Nat) : K)]
  tolerance := Comparison.defaultTolerance
  seed := none
  solveTimeoutMs := none
  parallelSolves := false
  showProgress := false
  equalityProbability := Scalar.ratio 1 2

/-- The first fault, in the order of the fields. -/
def check (c : Config K) : Except (Fault K) Unit :=
  if c.costScales.isEmpty then .error .noScales
  else
    match c.costScales.find? fun scale => !Scalar.isPositive scale with
    | some scale => .error (.badScale scale)
    | none =>
        if !(Scalar.isFinite c.tolerance && 0 ≤ c.tolerance) then
          .error (.badTolerance c.tolerance)
        else if !(0 ≤ c.equalityProbability && c.equalityProbability ≤ 1) then
          .error (.badProbability c.equalityProbability)
        else if c.solveTimeoutMs = some 0 then .error .zeroTimeout
        else .ok ()

/-- The number of trials, unless it is beyond the range of a count. -/
def totalTrials? (c : Config K) : Option Nat :=
  let total := c.repetitions * c.costScales.length
  if total < wordBound then some total else none

/-- The cost scale of every trial in order. -/
def schedule (c : Config K) : List K :=
  (List.replicate c.repetitions c.costScales).flatten

variable [NumberText K]

/-- Checks a configuration, reporting a fault as an error. -/
def validate (c : Config K) : Except Error Unit :=
  c.check.mapError Fault.toError

/-- Reads a stored configuration; a missing field has its default. -/
def ofTree? (tree : Tree) : Option (Config K) := do
  let fields ← tree.partialRecord? keys
  let base : Config K := standard
  let field {α : Type} (name : String) (default : α) (value? : Tree → Option α) : Option α :=
    Tree.withDefault? fields name default value?
  let repetitions ← field "repetitions" base.repetitions Tree.nat?
  let costScales ← field "cost_scales" base.costScales (Tree.list? Tree.number?)
  let tolerance ← field "tolerance" base.tolerance Tree.number?
  let seed ← field "seed" none (Tree.optional? Tree.nat?)
  let solveTimeoutMs ← field "solve_timeout_ms" none (Tree.optional? Tree.nat?)
  let parallelSolves ← field "parallel_solves" base.parallelSolves Tree.bool?
  let showProgress ← field "show_progress" base.showProgress Tree.bool?
  let equalityProbability ←
    field "equality_probability" base.equalityProbability Tree.number?
  some {
    repetitions, costScales, tolerance, seed := seed.map UInt64.ofNat, solveTimeoutMs,
    parallelSolves, showProgress, equalityProbability
  }

def ofText (text : String) : Except (Fault K) (Config K) :=
  match (Tree.parse? text).bind ofTree? with
  | none => .error .malformed
  | some c =>
      match c.check with
      | .error fault => .error fault
      | .ok () => .ok c

/-- The accepted configuration in a file, given what reading the file gave. -/
def ofFile (path : String) (contents : Except String String) : Except (Fault K) (Config K) :=
  match contents with
  | .error reason => .error (.unreadable path reason)
  | .ok text => ofText text

end Values

end Config

end QuadraticTrials

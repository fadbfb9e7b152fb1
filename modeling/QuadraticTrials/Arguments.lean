import QuadraticTrials.Config
import QuadraticTrials.Decimal.Reading

/-!
The command line: options with a value, given once each as `--name value` or `--name=value`, and
flags without one. A value that stands apart must not begin with a dash.
-/

namespace QuadraticTrials

/-- What the command line asks for. -/
structure Arguments where
  config : Option String
  seed : Option UInt64
  repetitions : Option Nat
  tolerance : Option Float
  timeoutMs : Option Nat
  parallel : Bool
  showProgress : Bool
  quiet : Bool
  json : Bool

/-- What the program is called to do. -/
inductive Request
  | help
  | version
  | run (arguments : Arguments)

namespace Arguments

def empty : Arguments :=
  ⟨none, none, none, none, none, false, false, false, false⟩

/-- The options that take a value. -/
inductive Setting
  | config
  | seed
  | repetitions
  | tolerance
  | timeoutMs
  deriving DecidableEq, Repr

/-- The options that take none. -/
inductive Switch
  | parallel
  | showProgress
  | quiet
  | json
  deriving DecidableEq, Repr

/-- The option of a name. -/
def setting? : String → Option Setting
  | "config" => some .config
  | "seed" => some .seed
  | "repetitions" => some .repetitions
  | "tolerance" => some .tolerance
  | "timeout-ms" => some .timeoutMs
  | _ => none

/-- The flag of a name. -/
def switch? : String → Option Switch
  | "parallel" => some .parallel
  | "show-progress" => some .showProgress
  | "quiet" => some .quiet
  | "json" => some .json
  | _ => none

/-- A count: digits, with an optional plus sign, within 64 bits. -/
def count? (text : String) : Option Nat :=
  let digits :=
    match text.toList with
    | '+' :: rest => rest
    | all => all
  if digits.isEmpty || !digits.all Char.isDigit then none
  else
    let n := Decimal.ofDigits digits
    if n < wordBound then some n else none

/-- A value for an option that has none yet. -/
def once? {α : Type} (old : Option α) (value : Option α) : Option (Option α) :=
  match old, value with
  | none, some value => some (some value)
  | _, _ => none

/-- The arguments with an option set; a second value, or one that cannot be read, is refused. -/
def set? (a : Arguments) (setting : Setting) (text : String) : Option Arguments :=
  match setting with
  | .config =>
      (once? a.config (if text.isEmpty then none else some text)).map ({ a with config := · })
  | .seed => (once? a.seed ((count? text).map UInt64.ofNat)).map ({ a with seed := · })
  | .repetitions => (once? a.repetitions (count? text)).map ({ a with repetitions := · })
  | .tolerance => (once? a.tolerance (Decimal.parse? text)).map ({ a with tolerance := · })
  | .timeoutMs => (once? a.timeoutMs (count? text)).map ({ a with timeoutMs := · })

/-- The arguments with a flag set; a second time is refused. -/
def turnOn? (a : Arguments) : Switch → Option Arguments
  | .parallel => if a.parallel then none else some { a with parallel := true }
  | .showProgress => if a.showProgress then none else some { a with showProgress := true }
  | .quiet => if a.quiet then none else some { a with quiet := true }
  | .json => if a.json then none else some { a with json := true }

/-- Whether a word can be a value that stands apart. -/
def isValue (word : String) : Bool :=
  !word.startsWith "-" || word == "-"

/-- A long option split at its first equals sign. -/
def splitLong (body : List Char) : String × Option String :=
  let name := body.takeWhile (· != '=')
  match body.dropWhile (· != '=') with
  | [] => (String.ofList name, none)
  | _ :: value => (String.ofList name, some (String.ofList value))

/-- Reads the words of a command line one after another. Help and version end it where they
stand; `none` stands for a line that is refused.
-/
def read (a : Arguments) : List String → Option Request
  | [] => some (.run a)
  | word :: rest =>
      match word.toList with
      | ['-', '-'] => if rest.isEmpty then some (.run a) else none
      | '-' :: '-' :: body =>
          match splitLong body with
          | ("help", none) => some .help
          | ("version", none) => some .version
          | (name, some text) =>
              match (setting? name).bind fun setting => a.set? setting text with
              | some a => read a rest
              | none => none
          | (name, none) =>
              match switch? name with
              | some switch =>
                  match a.turnOn? switch with
                  | some a => read a rest
                  | none => none
              | none =>
                  match rest with
                  | [] => none
                  | value :: rest =>
                      if isValue value then
                        match (setting? name).bind fun setting => a.set? setting value with
                        | some a => read a rest
                        | none => none
                      else none
      | '-' :: 'h' :: _ => some .help
      | '-' :: 'V' :: _ => some .version
      | _ => none

/-- The configuration that is asked for: the one of a file or the standard one, with the options
put in. `contents` is what reading the file gave.
-/
def configuration (a : Arguments) (contents : Except String String)
    : Except Error (Config Float) :=
  let base : Except (Config.Fault Float) (Config Float) :=
    match a.config with
    | none => .ok .standard
    | some path => Config.ofFile path contents
  let changed (c : Config Float) : Config Float :=
    { c with
      seed := a.seed <|> c.seed
      repetitions := a.repetitions.getD c.repetitions
      tolerance := a.tolerance.getD c.tolerance
      solveTimeoutMs := a.timeoutMs <|> c.solveTimeoutMs
      parallelSolves := c.parallelSolves || a.parallel
      showProgress := c.showProgress || a.showProgress }
  match base with
  | .error fault => .error fault.toError
  | .ok c =>
      match (changed c).validate with
      | .error e => .error e
      | .ok () => .ok (changed c)

end Arguments

end QuadraticTrials

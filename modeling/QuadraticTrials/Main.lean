import QuadraticTrials.CommandLine

/-!
The executable: reads the configuration file and a word of entropy, and prints what the program
leaves.
-/

open QuadraticTrials

/-- The reason of the system with its number, which may come negated. -/
def systemReason (code : UInt32) (details : String) : String :=
  let number := min code.toNat (-code).toNat
  details.capitalize ++ " (os error " ++ toString number ++ ")"

/-- Why a file could not be read. -/
def readFailure : IO.Error → String
  | .noFileOrDirectory _ code details => systemReason code details
  | .inappropriateType _ code details => systemReason code details
  | .permissionDenied _ code details => systemReason code details
  | other => toString other

/-- The contents of a file, or why it could not be read. -/
def contentsOf (path : String) : IO (Except String String) := do
  try
    return .ok (← IO.FS.readFile path)
  catch e =>
    return .error (readFailure e)

/-- A word that differs from run to run. -/
def entropy : IO UInt64 := do
  let bytes ← IO.getRandomBytes 8
  return bytes.toList.foldl (fun word byte => word * 256 + byte.toUInt64) 0

/-- Runs the program and gives its exit code. -/
def main (words : List String) : IO UInt32 := do
  let contents ←
    match CommandLine.configPath? words with
    | some path => contentsOf path
    | none => pure (.ok "")
  let result := CommandLine.run words contents (← entropy)
  let output ← IO.getStdout
  output.write ⟨result.output⟩
  output.flush
  match result.aborted with
  | some reason => IO.eprintln ("sweep aborted: " ++ reason)
  | none => pure ()
  return result.code.toUInt32

/-!
What can go wrong in the tester, with one sentence for each kind.
-/

namespace QuadraticTrials

/-- An error that the tester reports. -/
inductive Error
  | invalidInstance (reason : String)
  | generation (reason : String)
  | solverFailure (solver reason : String)
  | timeout (solver : String) (milliseconds : Nat)
  | config (reason : String)
  | serialization (reason : String)
  | io (reason : String)
  deriving DecidableEq, Repr

namespace Error

def message : Error → String
  | invalidInstance reason => "Invalid instance: " ++ reason
  | generation reason => "Generation error: " ++ reason
  | solverFailure solver reason => "Solver failure (" ++ solver ++ "): " ++ reason
  | timeout solver milliseconds =>
      "Solver timed out (" ++ solver ++ ") after " ++ toString milliseconds ++ "ms"
  | config reason => "Configuration error: " ++ reason
  | serialization reason => "Serialization error: " ++ reason
  | io reason => "IO error: " ++ reason

end Error

end QuadraticTrials

import QuadraticTrials.InteriorPoint.Progress
import QuadraticTrials.Solution

/-!
The interior point solver: settings, the checks before a run, and the answer read off its end.
-/

namespace QuadraticTrials

namespace InteriorPoint

/-- Settings of the solver. -/
structure Settings (K : Type) where
  maxIterations : Nat
  tolerance : K
  infeasibleStart : Bool
  stepFraction : K

def name : String := "interior-point"

variable {K : Type} [Scalar K] [NumberText K]

/-- The settings in force unless others are chosen. -/
def Settings.standard : Settings K :=
  ⟨100, Scalar.decimal 1 8, true, Scalar.ratio 99 100⟩

namespace Fault

def reason : Fault K → String
  | badTolerance tolerance => "tolerance must be positive, got " ++ NumberText.plain tolerance
  | originViolatesInequality =>
      "origin violates an inequality and infeasible start is disabled"
  | originViolatesEquality => "origin violates an equality and infeasible start is disabled"
  | singularStart => "singular KKT system at initial point"
  | singularAt iteration => "singular KKT system at iteration " ++ toString iteration

def toError (fault : Fault K) : Error :=
  .solverFailure name fault.reason

end Fault

/-- The answer at the last point of a run. -/
def answer {n m p : Nat} (run : Run K n m p) : Except (Fault K) (Solution K) :=
  let ended (status : Status) : Solution K :=
    ⟨run.last.iterate.x.toList, status, run.last.objective, run.last.index⟩
  match run.ending with
  | .converged => .ok (ended .optimal)
  | .exhausted => .ok (ended .maxIterations)
  | .stalled => .ok (ended .numericalError)
  | .singular => .error (.singularAt run.last.index)

/-- The run on a program under settings, after the checks of tolerance and start. -/
def run? {n m p : Nat} (settings : Settings K) (prog : Program K n m p)
    : Except (Fault K) (Run K n m p) :=
  if Scalar.isPositive settings.tolerance then
    match prog.start settings.infeasibleStart with
    | .error fault => .error fault
    | .ok it =>
        .ok (prog.run settings.stepFraction settings.tolerance settings.maxIterations it)
  else .error (.badTolerance settings.tolerance)

/-- The settings with the options of one call put in. -/
def Settings.withOptions (settings : Settings K) (options : Options K) : Settings K :=
  { settings with
    maxIterations := options.maxIterations.getD settings.maxIterations
    tolerance := options.tolerance.getD settings.tolerance }

/-- The run on an instance, after all checks. -/
def start? (settings : Settings K) (options : Options K) (inst : Instance K)
    : Except Error (Run K inst.numVars inst.numInequalities inst.numEqualities) :=
  match passed : inst.check with
  | .error fault => .error fault.toError
  | .ok () =>
      (run? (settings.withOptions options)
        (inst.toProgram (Instance.wellShaped_of_check passed))).mapError Fault.toError

/-- The answer on an instance. -/
def solve (settings : Settings K) (options : Options K) (inst : Instance K)
    : Except Error (Solution K) :=
  match start? settings options inst with
  | .error error => .error error
  | .ok run => (answer run).mapError Fault.toError

/-- The lines shown while solving, none unless they are asked for. -/
def progress (settings : Settings K) (options : Options K) (inst : Instance K) : List String :=
  if options.showProgress then
    match start? settings options inst with
    | .error _ => []
    | .ok run => run.table
  else []

end InteriorPoint

end QuadraticTrials

import QuadraticTrials.Error
import QuadraticTrials.Instance
import QuadraticTrials.Solution

/-!
Solvers as the tester sees them: machines with a private state that answer one call after another.
A call may also break down, and it takes time.
-/

namespace QuadraticTrials

/-- How a call ends. -/
inductive Reply (K : Type)
  | returned (result : Except Error (Solution K))
  | crashed

/-- A call: how it ends, the milliseconds it takes, and the lines it shows. -/
structure Call (K : Type) where
  reply : Reply K
  elapsed : Nat
  lines : List String

/-- A solver with a state of type `σ`. -/
structure Solver (K σ : Type) where
  name : String
  call : Instance K → Options K → σ → Call K × σ

namespace Call

variable {K : Type}

/-- A call that takes no time and shows nothing. -/
def immediate (reply : Reply K) : Call K :=
  ⟨reply, 0, []⟩

end Call

end QuadraticTrials

import QuadraticTrials.Conic.Solver
import QuadraticTrials.InteriorPoint.Solver
import QuadraticTrials.Solver.Deadline

/-!
Solvers built from a description: the two real ones, stand-ins with a fixed behaviour, and
wrappers around others. The description is itself the state, since only the number of calls to a
sequence changes.
-/

namespace QuadraticTrials

/-- A described solver. -/
inductive StandIn (K : Type)
  /-- The reference solver. -/
  | conic
  /-- The interior point solver. -/
  | interiorPoint (settings : InteriorPoint.Settings K)
  /-- Always the same answer. -/
  | fixed (name : String) (solution : Solution K)
  /-- The answer of another solver with one coordinate moved. -/
  | offset (name : String) (inner : StandIn K) (coordinate : Nat) (amount : K)
  /-- Always the same error. -/
  | failing (name : String) (error : Error)
  /-- Breaks down on every call. -/
  | panicking (name : String)
  /-- Waits some milliseconds before another solver answers. -/
  | slow (name : String) (delay : Nat) (inner : StandIn K)
  /-- Several solvers in rotation; `calls` counts the calls so far. -/
  | sequence (name : String) (list : List (StandIn K)) (calls : Nat)
  /-- Another solver with a deadline of some milliseconds. -/
  | timed (limit : Nat) (inner : StandIn K)

namespace StandIn

variable {K : Type}

def name : StandIn K → String
  | conic => Conic.name
  | interiorPoint _ => InteriorPoint.name
  | fixed name _ => name
  | offset name .. => name
  | failing name _ => name
  | panicking name => name
  | slow name .. => name
  | sequence name .. => name
  | timed _ inner => inner.name

variable [Scalar K]

/-- Moves one coordinate of an answer; a coordinate that is not there breaks the call down. -/
def moveCoordinate (coordinate : Nat) (amount : K) : Reply K → Reply K
  | .returned (.ok solution) =>
      match solution.x[coordinate]? with
      | some value =>
          .returned (.ok { solution with x := solution.x.set coordinate (value + amount) })
      | none => .crashed
  | reply => reply

variable [NumberText K] [SquareRoot K]

mutual

def call (inst : Instance K) (options : Options K) : StandIn K → Call K × StandIn K
  | conic => (.immediate (.returned (Conic.solve inst)), conic)
  | interiorPoint settings =>
      (⟨.returned (InteriorPoint.solve settings options inst), 0,
        InteriorPoint.progress settings options inst⟩, interiorPoint settings)
  | fixed name solution => (.immediate (.returned (.ok solution)), fixed name solution)
  | offset name inner coordinate amount =>
      let (made, inner) := call inst options inner
      ({ made with reply := moveCoordinate coordinate amount made.reply },
        offset name inner coordinate amount)
  | failing name error => (.immediate (.returned (.error error)), failing name error)
  | panicking name => (.immediate .crashed, panicking name)
  | slow name delay inner =>
      let (made, inner) := call inst options inner
      ({ made with elapsed := delay + made.elapsed }, slow name delay inner)
  | sequence name list calls =>
      let (made, list) := callAt inst options (calls % list.length) list
      (made, sequence name list (calls + 1))
  | timed limit inner =>
      let (made, inner) := call inst options inner
      (Solver.withDeadline inner.name limit made, timed limit inner)

/-- One call to the solver at a place of a list; an empty list has none, which breaks down. -/
def callAt (inst : Instance K) (options : Options K)
    : (place : Nat) → List (StandIn K) → Call K × List (StandIn K)
  | _, [] => (.immediate .crashed, [])
  | 0, first :: rest =>
      let (made, first) := call inst options first
      (made, first :: rest)
  | place + 1, first :: rest =>
      let (made, rest) := callAt inst options place rest
      (made, first :: rest)

end

/-- The solver that a description stands for, to be started in the state `d`. -/
def solver (d : StandIn K) : Solver K (StandIn K) where
  name := d.name
  call inst options state := state.call inst options

end StandIn

end QuadraticTrials

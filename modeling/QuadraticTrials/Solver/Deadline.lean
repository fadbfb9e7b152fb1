import QuadraticTrials.Solver.Basic

/-!
Calls with a deadline. Each call has a channel of its own and one worker that sends its result
there; the caller waits for the message, for the worker to disappear, or for the deadline. A
worker whose caller is gone goes on, and its result is dropped.
-/

namespace QuadraticTrials

namespace Deadline

/-- What a caller gets. -/
inductive Answer (R : Type)
  | result (value : R)
  | expired
  | lost
  | refused (reason : String)
  deriving DecidableEq, Repr

/-- The worker of a call. -/
inductive Worker (R : Type)
  | running
  /-- It has a result that is not sent yet. -/
  | holding (value : R)
  /-- It is gone after sending its result. -/
  | sent (value : R)
  /-- It is gone without a result. -/
  | crashed
  /-- It could not be started. -/
  | absent

/-- One call: its worker, the message in its channel, and the answer once it is given. -/
structure Exchange (R : Type) where
  worker : Worker R
  message : Option R
  answer : Option (Answer R)

/-- What can happen next. Numbers name calls from zero. -/
inductive Event (R : Type)
  | start
  | refuse (reason : String)
  | finish (call : Nat) (value : R)
  | send (call : Nat)
  | crash (call : Nat)
  | receive (call : Nat)
  | expire (call : Nat)

variable {R : Type}

namespace Exchange

/-- A call whose worker has just started. -/
def started : Exchange R :=
  ⟨.running, none, none⟩

/-- A call whose worker could not be started. -/
def refused (reason : String) : Exchange R :=
  ⟨.absent, none, some (.refused reason)⟩

/-- The worker comes to a result. -/
def finish (value : R) (e : Exchange R) : Exchange R :=
  match e.worker with
  | .running => { e with worker := .holding value }
  | _ => e

/-- The worker sends its result, which is kept only while the caller waits. -/
def send (e : Exchange R) : Exchange R :=
  match e.worker with
  | .holding value =>
      { e with
        worker := .sent value
        message := if e.answer.isNone then some value else none }
  | _ => e

/-- The worker breaks down. -/
def crash (e : Exchange R) : Exchange R :=
  match e.worker with
  | .running => { e with worker := .crashed }
  | _ => e

/-- The caller looks into the channel: a message answers it, and so does the loss of the worker. -/
def receive (e : Exchange R) : Exchange R :=
  match e.answer with
  | some _ => e
  | none =>
      match e.message, e.worker with
      | some value, _ => { e with message := none, answer := some (.result value) }
      | none, .running | none, .holding _ => e
      | none, _ => { e with answer := some .lost }

/-- The deadline passes: a caller that still has nothing gives up. -/
def expire (e : Exchange R) : Exchange R :=
  match (e.receive).answer with
  | some _ => e.receive
  | none => { e with answer := some .expired }

end Exchange

/-- Whether every call so far is answered, so that the caller is free for the next one. -/
def isIdle (calls : List (Exchange R)) : Bool :=
  calls.all fun e => e.answer.isSome

/-- The calls after an event; an event that cannot happen changes nothing. -/
def step (calls : List (Exchange R)) : Event R → List (Exchange R)
  | .start => if isIdle calls then calls ++ [.started] else calls
  | .refuse reason => if isIdle calls then calls ++ [.refused reason] else calls
  | .finish call value => calls.modify call (·.finish value)
  | .send call => calls.modify call Exchange.send
  | .crash call => calls.modify call Exchange.crash
  | .receive call => calls.modify call Exchange.receive
  | .expire call => calls.modify call Exchange.expire

def run (events : List (Event R)) : List (Exchange R) :=
  events.foldl step []

/-- The answer to a call. -/
def answerTo (calls : List (Exchange R)) (call : Nat) : Option (Answer R) :=
  calls[call]?.bind Exchange.answer

end Deadline

namespace Solver

open Deadline

variable {K σ : Type}

/-- The result that a caller reports, under the name of the solver that was called. -/
def reportAnswer (name : String) (limit : Nat) {α : Type}
    : Answer (Except Error α) → Except Error α
  | .result value => value
  | .expired => .error (.timeout name limit)
  | .lost => .error (.solverFailure name "solver thread terminated without a result")
  | .refused reason => .error (.io reason)

/-- What happens in a single call: its worker ends before the deadline, or the deadline comes
first.
-/
def timeline (limit : Nat) (call : Call K) : List (Event (Except Error (Solution K))) :=
  let ending : List (Event (Except Error (Solution K))) :=
    match call.reply with
    | .returned result => [.finish 0 result, .send 0]
    | .crashed => [.crash 0]
  if call.elapsed < limit then .start :: ending ++ [.receive 0] else .start :: .expire 0 :: ending

/-- What becomes of a call to the solver of a name under a deadline. -/
def withDeadline (name : String) (limit : Nat) (call : Call K) : Call K :=
  let answer := (answerTo (Deadline.run (timeline limit call)) 0).getD .expired
  ⟨.returned (reportAnswer name limit answer), min call.elapsed limit, call.lines⟩

/-- The solver with a deadline for each call, in milliseconds. -/
def timed (limit : Nat) (solver : Solver K σ) : Solver K σ where
  name := solver.name
  call inst options state :=
    let (call, state) := solver.call inst options state
    (withDeadline solver.name limit call, state)

end Solver

end QuadraticTrials

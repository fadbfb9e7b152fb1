import Mathlib
import QuadraticTrials.Solver.Deadline

/-!
The protocol behind calls with a deadline. What one event does to a call is said once, by
`getElem?_step`, and the stages that a call can be in are those of `Stage`. A call returns once, for
a reason of its own, and workers whose caller is gone are not heard.
-/

namespace QuadraticTrials

namespace Deadline

variable {R : Type}

-----------------------------------------------------------------------------------------
-- One event
-----------------------------------------------------------------------------------------

/-- What an event does to a call that was made. -/
def Event.act (call : Nat) (e : Exchange R) : Event R → Exchange R
  | .start | .refuse _ => e
  | .finish target value => if target = call then e.finish value else e
  | .send target => if target = call then e.send else e
  | .crash target => if target = call then e.crash else e
  | .receive target => if target = call then e.receive else e
  | .expire target => if target = call then e.expire else e

/-- The call that an event makes. -/
def Event.opened? : Event R → Option (Exchange R)
  | .start => some .started
  | .refuse reason => some (.refused reason)
  | .finish .. | .send _ | .crash _ | .receive _ | .expire _ => none

/-- An event acts on the calls that were made, and it makes the next one if the caller is free. -/
theorem getElem?_step (calls : List (Exchange R)) (event : Event R) (call : Nat)
    : (step calls event)[call]?
      = match calls[call]? with
        | some e => some (event.act call e)
        | none => if call = calls.length ∧ isIdle calls = true then event.opened? else none := by
  have opening (e : Exchange R)
      : (if isIdle calls then calls ++ [e] else calls)[call]?
        = match calls[call]? with
          | some e => some e
          | none => if call = calls.length ∧ isIdle calls = true then some e else none := by
    rcases Nat.lt_trichotomy call calls.length with before | rfl | after
    · rw [List.getElem?_eq_getElem before]
      split
      · rw [List.getElem?_append_left before, List.getElem?_eq_getElem before]
      · rw [List.getElem?_eq_getElem before]
    · cases idle : isIdle calls <;> simp
    · have beyond : ¬(call = calls.length ∧ isIdle calls = true) := by omega
      rw [List.getElem?_eq_none (Nat.le_of_lt after), if_neg beyond]
      split
      · apply List.getElem?_eq_none
        rw [List.length_append, List.length_singleton]
        omega
      · exact List.getElem?_eq_none (Nat.le_of_lt after)
  cases event with
  | start => exact opening _
  | refuse reason => exact opening _
  | finish target value =>
      simp only [step, List.getElem?_modify, Event.act, Event.opened?]
      cases calls[call]? <;> simp
  | send target | crash target | receive target | expire target =>
      simp only [step, List.getElem?_modify, Event.act, Event.opened?]
      cases calls[call]? <;> simp

theorem run_append (before : List (Event R)) (event : Event R)
    : run (before ++ [event]) = step (run before) event := by
  rw [run, List.foldl_append]
  rfl

theorem answerTo_eq_some {calls : List (Exchange R)} {call : Nat} {answer : Answer R}
    : answerTo calls call = some answer ↔ ∃ e, calls[call]? = some e ∧ e.answer = some answer :=
  Option.bind_eq_some_iff

-----------------------------------------------------------------------------------------
-- Stages of a call
-----------------------------------------------------------------------------------------

/-- The stages of a call, with the events that led to them. -/
inductive Stage (events : List (Event R)) (call : Nat) : Exchange R → Prop
  | waiting : Stage events call ⟨.running, none, none⟩
  | worked {value : R} (made : .finish call value ∈ events)
    : Stage events call ⟨.holding value, none, none⟩
  | delivered {value : R} (made : .finish call value ∈ events)
    : Stage events call ⟨.sent value, some value, none⟩
  | broken (crashed : .crash call ∈ events) : Stage events call ⟨.crashed, none, none⟩
  | answered {value : R} (made : .finish call value ∈ events)
    : Stage events call ⟨.sent value, none, some (.result value)⟩
  | lost (crashed : .crash call ∈ events) : Stage events call ⟨.crashed, none, some .lost⟩
  | refused {reason : String} (unable : .refuse reason ∈ events)
    : Stage events call ⟨.absent, none, some (.refused reason)⟩
  | expired {worker : Worker R} (passed : .expire call ∈ events)
    : Stage events call ⟨worker, none, some .expired⟩

namespace Stage

variable {events : List (Event R)} {call : Nat} {e : Exchange R}

theorem mono (stage : Stage events call e) {events' : List (Event R)} (more : events ⊆ events')
    : Stage events' call e := by
  cases stage with
  | waiting => exact .waiting
  | worked made => exact .worked (more made)
  | delivered made => exact .delivered (more made)
  | broken crashed => exact .broken (more crashed)
  | answered made => exact .answered (more made)
  | lost crashed => exact .lost (more crashed)
  | refused unable => exact .refused (more unable)
  | expired passed => exact .expired (more passed)

/-- Only a worker that is still at work comes to a result. -/
theorem finish (stage : Stage events call e) {value : R} (made : .finish call value ∈ events)
    : Stage events call (e.finish value) := by
  cases stage with
  | waiting => exact .worked made
  | @expired worker passed => cases worker <;> exact .expired passed
  | _ =>
      constructor
      assumption

/-- A result arrives unless the caller is gone. -/
theorem send (stage : Stage events call e) : Stage events call e.send := by
  cases stage with
  | worked made => exact .delivered made
  | @expired worker passed => cases worker <;> exact .expired passed
  | _ => constructor <;> assumption

/-- Only a worker that is still at work breaks down. -/
theorem crash (stage : Stage events call e) (crashed : .crash call ∈ events)
    : Stage events call e.crash := by
  cases stage with
  | waiting => exact .broken crashed
  | @expired worker passed => cases worker <;> exact .expired passed
  | _ =>
      constructor
      assumption

/-- A caller that waits takes the message, or notes that there will be none. -/
theorem receive (stage : Stage events call e) : Stage events call e.receive := by
  cases stage with
  | delivered made => exact .answered made
  | broken crashed => exact .lost crashed
  | _ => constructor <;> assumption

/-- A caller that has nothing at its deadline gives up. -/
theorem expire (stage : Stage events call e) (passed : .expire call ∈ events)
    : Stage events call e.expire := by
  cases stage with
  | waiting | worked => exact .expired passed
  | delivered made => exact .answered made
  | broken crashed => exact .lost crashed
  | _ =>
      constructor
      assumption

/-- Every event leads from stage to stage. -/
theorem act (stage : Stage events call e) (event : Event R)
    : Stage (events ++ [event]) call (event.act call e) := by
  have before : Stage (events ++ [event]) call e := stage.mono (List.subset_append_left _ _)
  have noted : event ∈ events ++ [event] := List.mem_append_right _ List.mem_cons_self
  cases event with
  | start => exact before
  | refuse reason => exact before
  | finish target value =>
      rw [Event.act]
      split
      case isTrue same => exact before.finish (same ▸ noted)
      case isFalse => exact before
  | send target =>
      rw [Event.act]
      split
      case isTrue => exact before.send
      case isFalse => exact before
  | crash target =>
      rw [Event.act]
      split
      case isTrue same => exact before.crash (same ▸ noted)
      case isFalse => exact before
  | receive target =>
      rw [Event.act]
      split
      case isTrue => exact before.receive
      case isFalse => exact before
  | expire target =>
      rw [Event.act]
      split
      case isTrue same => exact before.expire (same ▸ noted)
      case isFalse => exact before

end Stage

/-- Every call of a run is in one of the stages, by induction on the events. -/
theorem stage_of_run {events : List (Event R)} {call : Nat} {e : Exchange R}
    (found : (run events)[call]? = some e)
    : Stage events call e := by
  induction events using List.reverseRecOn generalizing e with
  | nil => cases found
  | append_singleton before event ih =>
      rw [run_append, getElem?_step] at found
      split at found
      case h_1 e earlier =>
        cases found
        exact (ih earlier).act event
      case h_2 absent =>
        split at found
        case isFalse => cases found
        case isTrue =>
          cases event with
          | start =>
              cases found
              exact .waiting
          | refuse reason =>
              cases found
              exact .refused (List.mem_append_right _ List.mem_cons_self)
          | _ => cases found

-----------------------------------------------------------------------------------------
-- Answers
-----------------------------------------------------------------------------------------

namespace Exchange

variable {e : Exchange R}

@[simp] theorem answer_finish (value : R) : (e.finish value).answer = e.answer := by
  unfold finish
  split <;> rfl

@[simp] theorem answer_send : e.send.answer = e.answer := by
  unfold send
  split <;> rfl

@[simp] theorem answer_crash : e.crash.answer = e.answer := by
  unfold crash
  split <;> rfl

theorem receive_of_answered {answer : Answer R} (answered : e.answer = some answer)
    : e.receive = e := by
  rw [receive, answered]

theorem expire_of_answered {answer : Answer R} (answered : e.answer = some answer)
    : e.expire = e := by
  rw [expire, receive_of_answered answered, answered]

/-- At its deadline a caller is answered, one way or another. -/
theorem isSome_expire (e : Exchange R) : e.expire.answer.isSome = true := by
  unfold expire
  split
  case h_1 answer answered => rw [answered, Option.isSome_some]
  case h_2 => rfl

/-- The worker will send nothing more. -/
def Gone (e : Exchange R) : Prop :=
  match e.worker with
  | .running | .holding _ => False
  | .sent _ | .crashed | .absent => True

/-- A caller that looks once its worker is gone is answered. -/
theorem isSome_receive (gone : e.Gone) : e.receive.answer.isSome = true := by
  obtain ⟨worker, message, answer⟩ := e
  cases answer with
  | some answer => rfl
  | none =>
      cases message with
      | some value => rfl
      | none =>
          cases worker with
          | running | holding => exact gone.elim
          | sent | crashed | absent => rfl

end Exchange

/-- The events of the worker of a call. -/
def Event.isWorkOf (call : Nat) : Event R → Bool
  | .finish target _ | .send target | .crash target => target == call
  | .start | .refuse _ | .receive _ | .expire _ => false

/-- An answer that is given stays. -/
theorem answer_act {e : Exchange R} {answer : Answer R} (answered : e.answer = some answer)
    (call : Nat) (event : Event R)
    : (event.act call e).answer = some answer := by
  cases event with
  | start => exact answered
  | refuse reason => exact answered
  | finish target value =>
      rw [Event.act]
      split <;> simp [answered]
  | send target =>
      rw [Event.act]
      split <;> simp [answered]
  | crash target =>
      rw [Event.act]
      split <;> simp [answered]
  | receive target =>
      rw [Event.act, Exchange.receive_of_answered answered]
      split <;> exact answered
  | expire target =>
      rw [Event.act, Exchange.expire_of_answered answered]
      split <;> exact answered

section Answers

variable {calls : List (Exchange R)} {call : Nat} {answer : Answer R}

theorem answerTo_step (answered : answerTo calls call = some answer) (event : Event R)
    : answerTo (step calls event) call = some answer := by
  obtain ⟨e, found, given⟩ := answerTo_eq_some.mp answered
  refine answerTo_eq_some.mpr ⟨event.act call e, ?_, answer_act given call event⟩
  rw [getElem?_step, found]

theorem answerTo_foldl (answered : answerTo calls call = some answer) (events : List (Event R))
    : answerTo (events.foldl step calls) call = some answer := by
  induction events generalizing calls with
  | nil => exact answered
  | cons event rest ih => exact ih (answerTo_step answered event)

/-- What the caller of a call gets in the course of some events: an answer whenever one is given
that was not there before.
-/
def returns (call : Nat) : List (Exchange R) → List (Event R) → List (Answer R)
  | _, [] => []
  | calls, event :: rest =>
      (if (answerTo calls call).isSome then [] else (answerTo (step calls event) call).toList)
        ++ returns call (step calls event) rest

/-- A caller that was answered gets nothing more, by induction on the events. -/
theorem returns_of_answered (answered : answerTo calls call = some answer)
    (events : List (Event R))
    : returns call calls events = [] := by
  induction events generalizing calls with
  | nil => rfl
  | cons event rest ih =>
      rw [returns, ih (answerTo_step answered event), answered]
      rfl

/-- A caller that was not answered gets one answer if it has one at the end, and none otherwise: by
induction on the events, up to the one that brings the answer.
-/
theorem returns_of_waiting (waiting : answerTo calls call = none) (events : List (Event R))
    : returns call calls events = (answerTo (events.foldl step calls) call).toList := by
  induction events generalizing calls with
  | nil => rw [returns, List.foldl_nil, waiting, Option.toList_none]
  | cons event rest ih =>
      rw [returns, waiting, List.foldl_cons]
      cases brought : answerTo (step calls event) call with
      | none => exact ih brought
      | some answer =>
          rw [returns_of_answered brought, answerTo_foldl brought]
          rfl

end Answers

/-- An event of a call answers it if it leaves its exchange answered, whatever comes after it. -/
theorem isSome_answerTo {before after : List (Event R)} {event : Event R} {call : Nat}
    {e : Exchange R} (found : (run before)[call]? = some e)
    (answers : (event.act call e).answer.isSome = true)
    : (answerTo (run (before ++ event :: after)) call).isSome = true := by
  obtain ⟨answer, given⟩ := Option.isSome_iff_exists.mp answers
  have answered : answerTo (step (run before) event) call = some answer := by
    refine answerTo_eq_some.mpr ⟨_, ?_, given⟩
    rw [getElem?_step, found]
  rw [run, List.foldl_append, List.foldl_cons, ← run, answerTo_foldl answered, Option.isSome_some]

theorem isIdle_iff {calls : List (Exchange R)}
    : isIdle calls = true ↔ ∀ call < calls.length, (answerTo calls call).isSome = true := by
  rw [isIdle, List.all_eq_true, List.forall_mem_iff_forall_getElem]
  refine forall₂_congr fun call inside => ?_
  rw [answerTo, List.getElem?_eq_getElem inside]
  rfl

/-- A call is made once all earlier ones are answered, by induction on the events. -/
theorem isSome_of_earlier {events : List (Event R)} {call later : Nat} (earlier : call < later)
    (made : ((run events)[later]?).isSome = true)
    : (answerTo (run events) call).isSome = true := by
  induction events using List.reverseRecOn with
  | nil => cases made
  | append_singleton before event ih =>
      have answered : (answerTo (run before) call).isSome = true := by
        rw [run_append, getElem?_step] at made
        split at made
        case h_1 e there =>
          apply ih
          rw [there, Option.isSome_some]
        case h_2 absent =>
          split at made
          case isTrue free => exact isIdle_iff.mp free.2 call (free.1 ▸ earlier)
          case isFalse => cases made
      obtain ⟨answer, given⟩ := Option.isSome_iff_exists.mp answered
      rw [run_append, answerTo_step given, Option.isSome_some]

-----------------------------------------------------------------------------------------
-- Late workers
-----------------------------------------------------------------------------------------

theorem length_step (calls : List (Exchange R)) (event : Event R)
    : (step calls event).length
      = if event.opened?.isSome ∧ isIdle calls = true then calls.length + 1 else calls.length := by
  cases event with
  | start => cases idle : isIdle calls <;> simp [step, Event.opened?, idle]
  | refuse reason => cases idle : isIdle calls <;> simp [step, Event.opened?, idle]
  | _ => simp [step, Event.opened?]

/-- Two states differ at most in the worker of a call that is answered. -/
structure Alike (call : Nat) (calls calls' : List (Exchange R)) : Prop where
  length_eq : calls'.length = calls.length
  others : ∀ other, other ≠ call → calls'[other]? = calls[other]?
  answered : ∃ answer, answerTo calls call = some answer ∧ answerTo calls' call = some answer

namespace Alike

variable {call : Nat} {calls calls' : List (Exchange R)}

theorem answerTo_eq (alike : Alike call calls calls') (other : Nat)
    : answerTo calls' other = answerTo calls other := by
  by_cases same : other = call
  case pos =>
    obtain ⟨answer, first, second⟩ := alike.answered
    rw [same, first, second]
  case neg => rw [answerTo, answerTo, alike.others other same]

theorem isIdle_eq (alike : Alike call calls calls') : isIdle calls' = isIdle calls := by
  rw [Bool.eq_iff_iff, isIdle_iff, isIdle_iff, alike.length_eq]
  exact forall₂_congr fun other _ => by rw [alike.answerTo_eq]

theorem step (alike : Alike call calls calls') (event : Event R)
    : Alike call (step calls event) (step calls' event) := by
  obtain ⟨answer, first, second⟩ := alike.answered
  refine ⟨?_, ?_, answer, answerTo_step first event, answerTo_step second event⟩
  · rw [length_step, length_step, alike.length_eq, alike.isIdle_eq]
  · intro other different
    rw [getElem?_step, getElem?_step, alike.others other different, alike.length_eq,
      alike.isIdle_eq]

/-- The worker of an answered call changes nothing that others see. -/
theorem work (alike : Alike call calls calls') {event : Event R}
    (works : event.isWorkOf call = true)
    : Alike call (Deadline.step calls event) calls' := by
  have opens : event.opened? = none := by
    cases event with
    | start | refuse => cases works
    | _ => rfl
  have others (other : Nat) (different : other ≠ call) (e : Exchange R)
      : event.act other e = e := by
    cases event with
    | finish target value | send target | crash target =>
        rw [Event.act, if_neg]
        intro same
        exact different (same.symm.trans (beq_iff_eq.mp works))
    | start | refuse | receive | expire => cases works
  obtain ⟨answer, first, second⟩ := alike.answered
  refine ⟨?_, ?_, answer, answerTo_step first event, second⟩
  · rw [length_step, opens, alike.length_eq]
    simp
  · intro other different
    rw [getElem?_step, alike.others other different, opens]
    cases calls[other]? with
    | none => simp
    | some e => simp only [others other different]

/-- States stay alike if one of them misses what the worker does, by induction on the events. -/
theorem foldl (alike : Alike call calls calls') (events : List (Event R))
    : Alike call (events.foldl Deadline.step calls)
        ((events.filter fun event => !event.isWorkOf call).foldl Deadline.step calls') := by
  induction events generalizing calls calls' with
  | nil => exact alike
  | cons event rest ih =>
      cases works : event.isWorkOf call with
      | true =>
          rw [List.filter_cons_of_neg (by simp [works])]
          exact ih (alike.work works)
      | false =>
          rw [List.filter_cons_of_pos (by simp [works])]
          exact ih (alike.step event)

end Alike

/-- What the worker of an answered call still does changes no answer. -/
theorem answerTo_without_work {before : List (Event R)} {call : Nat}
    (answered : (answerTo (run before) call).isSome = true) (rest : List (Event R)) (other : Nat)
    : answerTo (run (before ++ rest.filter fun event => !event.isWorkOf call)) other
      = answerTo (run (before ++ rest)) other := by
  obtain ⟨answer, given⟩ := Option.isSome_iff_exists.mp answered
  have same : Alike call (run before) (run before) := ⟨rfl, fun _ _ => rfl, answer, given, given⟩
  rw [run, run, List.foldl_append, List.foldl_append]
  exact (same.foldl rest).answerTo_eq other

-----------------------------------------------------------------------------------------
-- What callers are told
-----------------------------------------------------------------------------------------

/-- What the caller of a call is told, and why: the result that its own worker came to and sent, or
an error for which there is a reason.
-/
inductive Told {α : Type} (name : String) (limit : Nat) (events : List (Event (Except Error α)))
    (call : Nat)
    : Worker (Except Error α) → Except Error α → Prop
  | result {value : Except Error α} (made : .finish call value ∈ events)
    : Told name limit events call (.sent value) value
  | expired {worker : Worker (Except Error α)} (passed : .expire call ∈ events)
    : Told name limit events call worker (.error (.timeout name limit))
  | lost (crashed : .crash call ∈ events)
    : Told name limit events call .crashed
        (.error (.solverFailure name "solver thread terminated without a result"))
  | refused {reason : String} (unable : .refuse reason ∈ events)
    : Told name limit events call .absent (.error (.io reason))

/-- What is told follows the stage in which the answer is given. -/
theorem Stage.told {α : Type} {events : List (Event (Except Error α))} {call : Nat}
    {e : Exchange (Except Error α)} (stage : Stage events call e)
    {answer : Answer (Except Error α)} (given : e.answer = some answer) (name : String)
    (limit : Nat)
    : Told name limit events call e.worker (Solver.reportAnswer name limit answer) := by
  cases stage with
  | waiting | worked | delivered | broken => cases given
  | answered made =>
      cases given
      exact .result made
  | lost crashed =>
      cases given
      exact .lost crashed
  | refused unable =>
      cases given
      exact .refused unable
  | expired passed =>
      cases given
      exact .expired passed

end Deadline

namespace Solver

open Deadline

variable {K σ : Type}

/-- The calls that come of a sequence of requests. -/
def callsOn (solver : Solver K σ) : List (Instance K × Options K) → σ → List (Call K)
  | [], _ => []
  | (inst, options) :: rest, state =>
      (solver.call inst options state).1
        :: solver.callsOn rest (solver.call inst options state).2

/-- What calls with a deadline keep to, in whatever order events happen. Every caller gets one
answer: none is given twice, none is missing once the deadline has passed, once the worker is gone
and the caller looks, or once another call is made. It is told its own worker's result, or an error
for a reason. A worker whose caller is gone is not heard. If nothing breaks down and no deadline
passes, the calls whose workers were started are answered as by the solver itself.
-/
structure Protocol (solver : Solver K σ) (limit : Nat)
    (events : List (Event (Except Error (Solution K))))
    : Prop where
  once : ∀ call, returns call [] events = (answerTo (run events) call).toList
  due
    : ∀ before after call,
        events = before ++ .expire call :: after → call < (run before).length →
          (returns call [] events).length = 1
  woken
    : ∀ before after call e,
        events = before ++ .receive call :: after → (run before)[call]? = some e → e.Gone →
          (returns call [] events).length = 1
  inOrder
    : ∀ call later,
        call < later → later < (run events).length → (returns call [] events).length = 1
  told
    : ∀ call e answer,
        (run events)[call]? = some e → e.answer = some answer →
          Told solver.name limit events call e.worker (reportAnswer solver.name limit answer)
  late
    : ∀ before rest call,
        events = before ++ rest → (answerTo (run before) call).isSome = true →
          ∀ other,
            answerTo (run (before ++ rest.filter fun event => !event.isWorkOf call)) other
              = answerTo (run events) other
  faithful
    : ∀ requests state,
        (∀ call value,
          .finish call value ∈ events →
            (solver.callsOn requests state)[call]?.map Call.reply = some (.returned value)) →
          (∀ call, .crash call ∉ events ∧ .expire call ∉ events) →
            ∀ (call : Nat) (e : Exchange (Except Error (Solution K))) answer,
              (run events)[call]? = some e → e.worker ≠ .absent → e.answer = some answer →
                (solver.callsOn requests state)[call]?.map Call.reply
                  = some (.returned (reportAnswer solver.name limit answer))

/-- Every run keeps to the protocol. -/
theorem protocol (solver : Solver K σ) (limit : Nat)
    (events : List (Event (Except Error (Solution K))))
    : solver.Protocol limit events := by
  have once (call : Nat) : returns call [] events = (answerTo (run events) call).toList :=
    returns_of_waiting rfl events
  have single {call : Nat} (answered : (answerTo (run events) call).isSome = true)
      : (returns call [] events).length = 1 := by
    obtain ⟨answer, given⟩ := Option.isSome_iff_exists.mp answered
    rw [once, given]
    rfl
  have told (call : Nat) (e : Exchange (Except Error (Solution K)))
      (answer : Answer (Except Error (Solution K))) (found : (run events)[call]? = some e)
      (given : e.answer = some answer)
      : Told solver.name limit events call e.worker (reportAnswer solver.name limit answer) :=
    (stage_of_run found).told given solver.name limit
  refine ⟨once, ?_, ?_, ?_, told, ?_, ?_⟩
  · rintro before after call rfl inside
    apply single
    refine isSome_answerTo (List.getElem?_eq_getElem inside) ?_
    rw [Event.act, if_pos rfl]
    exact Exchange.isSome_expire _
  · rintro before after call e rfl found gone
    apply single
    refine isSome_answerTo found ?_
    rw [Event.act, if_pos rfl]
    exact Exchange.isSome_receive gone
  · intro call later earlier inside
    apply single
    apply isSome_of_earlier earlier
    rw [List.getElem?_eq_getElem inside, Option.isSome_some]
  · rintro before rest call rfl answered other
    exact answerTo_without_work answered rest other
  · intro requests state results calm call e answer found started given
    have reported := told call e answer found given
    generalize reportAnswer solver.name limit answer = value at reported
    generalize e.worker = worker at reported started
    cases reported with
    | result made => exact results call value made
    | expired passed => exact absurd passed (calm call).2
    | lost crashed => exact absurd crashed (calm call).1
    | refused unable => exact absurd rfl started

/-- The answer that a call has under a deadline. -/
theorem answerTo_timeline (limit : Nat) (made : Call K)
    : answerTo (run (timeline limit made)) 0
      = some (if made.elapsed < limit then
            match made.reply with
            | .returned result => .result result
            | .crashed => .lost
          else .expired) := by
  rw [timeline]
  by_cases early : made.elapsed < limit
  case pos =>
    rw [if_pos early, if_pos early]
    cases made.reply <;> rfl
  case neg =>
    rw [if_neg early, if_neg early]
    cases made.reply <;> rfl

theorem reply_withDeadline {name : String} {limit : Nat} {made : Call K}
    {answer : Answer (Except Error (Solution K))}
    (answered : answerTo (run (timeline limit made)) 0 = some answer)
    : (withDeadline name limit made).reply = .returned (reportAnswer name limit answer) := by
  rw [withDeadline, answered]
  rfl

/-- A solver with a deadline puts every call under it and leaves the rest to the solver, by
induction on the requests.
-/
theorem callsOn_timed (solver : Solver K σ) (limit : Nat)
    (requests : List (Instance K × Options K)) (state : σ)
    : (solver.timed limit).callsOn requests state
      = (solver.callsOn requests state).map (withDeadline solver.name limit) := by
  induction requests generalizing state with
  | nil => rfl
  | cons request rest ih =>
      rw [callsOn, callsOn, List.map_cons, ← ih]
      rfl

/-- Calls under a deadline keep to their protocol in every order of events. A call of a solver with
a deadline is a run of this protocol, and calls that answer in time answer as without it.
-/
theorem deadline_protocol (solver : Solver K σ) (limit : Nat)
    : (∀ events, solver.Protocol limit events)
        ∧ (∀ made : Call K,
            ∃ answer,
              answerTo (run (timeline limit made)) 0 = some answer
                ∧ (withDeadline solver.name limit made).reply
                  = .returned (reportAnswer solver.name limit answer))
        ∧ ∀ requests state,
            (solver.timed limit).callsOn requests state
                = (solver.callsOn requests state).map (withDeadline solver.name limit)
              ∧ ((∀ made ∈ solver.callsOn requests state,
                    made.elapsed < limit ∧ made.reply ≠ .crashed) →
                  ((solver.timed limit).callsOn requests state).map Call.reply
                    = (solver.callsOn requests state).map Call.reply) := by
  refine ⟨solver.protocol limit, fun made => ?_, fun requests state => ?_⟩
  · exact ⟨_, answerTo_timeline limit made, reply_withDeadline (answerTo_timeline limit made)⟩
  · have under := solver.callsOn_timed limit requests state
    refine ⟨under, fun calm => ?_⟩
    rw [under, List.map_map]
    apply List.map_congr_left
    intro made member
    obtain ⟨early, unbroken⟩ := calm made member
    rw [Function.comp_apply, reply_withDeadline (answerTo_timeline limit made), if_pos early]
    cases reply : made.reply with
    | returned result => rfl
    | crashed => exact absurd reply unbroken

/-- A solver that counts its calls and takes three milliseconds for each. -/
def counting : Solver Nat Nat where
  name := "counting"
  call _ _ count := (⟨.returned (.ok ⟨[count], .optimal, 0, 0⟩), 3, []⟩, count + 1)

/-- What the second call comes to. -/
def secondCount : Except Error (Solution Nat) :=
  .ok ⟨[1], .optimal, 0, 0⟩

/-- The first call expires, and its worker ends while the second call waits. -/
def overtaken : List (Event (Except Error (Solution Nat))) :=
  [.start, .expire 0, .start, .finish 0 (.ok ⟨[0], .optimal, 0, 0⟩), .send 0,
    .finish 1 secondCount, .send 1, .receive 1]

/-- The late result of the first call is not heard, and the second call gets its own. In time, both
calls are answered as without a deadline.
-/
theorem overtaken_answered
    : returns 0 [] overtaken = [.expired]
      ∧ (returns 1 [] overtaken).length = 1
      ∧ Told "counting" 5 overtaken 1 (.sent secondCount) secondCount
      ∧ answerTo (run [.start, .expire 0, .start, .finish 1 secondCount, .send 1, .receive 1]) 1
        = some (.result secondCount)
      ∧ ∀ inst : Instance Nat,
          ((counting.timed 5).callsOn [(inst, .quiet), (inst, .quiet)] 0).map Call.reply
            = [.returned (.ok ⟨[0], .optimal, 0, 0⟩), .returned secondCount] := by
  obtain ⟨protocols, -, inTime⟩ := deadline_protocol counting 5
  have kept := protocols overtaken
  refine ⟨kept.once 0, ?_, ?_, ?_, fun inst => ?_⟩
  · exact kept.woken [.start, .expire 0, .start, .finish 0 _, .send 0, .finish 1 _, .send 1] [] 1 _
      rfl rfl trivial
  · exact kept.told 1 ⟨.sent secondCount, none, some (.result secondCount)⟩ _ rfl rfl
  · exact kept.late [.start, .expire 0]
      [.start, .finish 0 _, .send 0, .finish 1 _, .send 1, .receive 1] 0 rfl rfl 1
  · refine (inTime [(inst, .quiet), (inst, .quiet)] 0).2 ?_
    have early : 3 < 5 := by decide
    intro made member
    rcases List.mem_cons.mp member with rfl | member
    · exact ⟨early, nofun⟩
    · rw [List.mem_singleton.mp member]
      exact ⟨early, nofun⟩

end Solver

end QuadraticTrials

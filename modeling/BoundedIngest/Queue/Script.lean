/-
Module: BoundedIngest.Queue.Script
Purpose: A queue driven by a script: the next call starts once every call before it has
  returned or waits.
Main exports:
  Script.Action, Script.Result, Script.Step, Script.Report, Script.report
-/
import BoundedIngest.Failure.Basic
import BoundedIngest.Queue.Line

namespace BoundedIngest.Script

/-!
Each call of the script runs on a thread of its own, and the position of the call in
the script is its position in the list of calls.  Waiting calls stand in line:

* a notification of one waiter reaches the one that has waited longest;
* after a notification of all, the waiters retry in the order in which they waited;
* whoever has to wait again goes to the back of the line;
* a call finishes its own work before those it notified retry.
-/

/-- What is put into the queue: a value, or none, and the size it is measured to have. -/
structure Item (β : Type) where
  value : Option β
  size : UInt64
deriving Repr, DecidableEq

inductive Action (β : Type) where
  | insert (value : Option β) (size : UInt64)
  | next
  /-- Make a new iterator. -/
  | iterate
  | iteratorNext (iterator : Nat)
  | endStatus (iterator : Nat)
  | markDone
  | close
  | look
deriving Repr, DecidableEq

inductive Result (β : Type) where
  | inserted
  | refused
  | entry (value : Option β)
  | ended
  /-- The call waits. -/
  | blocked
  | iterator (index : Nat)
  /-- Why an iterator ended, if it has. -/
  | endStatus (status : Option QueueStatus)
  /-- An earlier call on the iterator still waits. -/
  | busy
  | noSuchIterator
  /-- The action panicked: there is no producer left to be marked done. -/
  | tooManyMarks
  | nothing
  | look
deriving Repr, DecidableEq

/-- The panic of whoever marks more producers done than there are. -/
def tooManyMarksPanic : Panic :=
  .text "mark_producer_done called more often than producers registered"

/-- A call that got what it came for: it inserted, or it pulled a value. -/
def Result.isSuccess {β : Type} : Result β → Bool
  | .inserted | .entry (some _) => true
  | _ => false

/-- An iterator: the call on it that waits, and why it ended. -/
structure Cursor where
  pending : Option Nat := none
  endStatus : Option QueueStatus := none
deriving Repr, DecidableEq, Inhabited

/-- A running script. -/
structure State (β : Type) where
  shared : SharedQueue (Item β)
  lines : WaitLines := {}
  /-- The calls that were notified and have yet to retry, in order. -/
  notified : List Nat := []
  cursors : List Cursor := []

namespace State

variable {β : Type}

/-- Take one step, which must be possible, on behalf of `caller`. -/
def apply (state : State β) (caller : Nat) (event : SharedQueue.Event (Item β)) :
    State β :=
  match state.shared.step event with
  | none => state
  | some shared =>
      let (lines, woken) := state.lines.update shared caller
      { state with shared, lines, notified := state.notified ++ woken }

/-- Let a call go on for at most `fuel` steps. -/
def advance (state : State β) (caller : Nat) : Nat → State β
  | 0 => state
  | fuel + 1 =>
      match state.shared.nextEvent? state.lines Item.size caller with
      | none => state
      | some event => (state.apply caller event).advance caller fuel

/-- No call takes more steps than this without waiting. -/
def stepsPerCall : Nat := 8

/-- Let the notified calls retry until none is left.  Each retry ends a call or sends it
back to its line, and only a call that ends notifies another one. -/
def drain (state : State β) : Nat → State β
  | 0 => state
  | fuel + 1 =>
      match state.notified with
      | [] => state
      | caller :: notified =>
          ({ state with notified }.advance caller stepsPerCall).drain fuel

/-- Let everything happen that can happen without a further action. -/
def settle (state : State β) (caller : Nat) : State β :=
  let callers := state.shared.calls.length
  (state.advance caller stepsPerCall).drain ((callers + 1) * (callers + 1))

def resultOf : Reply (Item β) → Result β
  | .inserted => .inserted
  | .refused => .refused
  | .entry item => .entry item.value
  | .ended _ => .ended
  | .closed => .nothing

/-- Note what the return of a call means for the iterator it was made on. -/
def settleCursor {α : Type} (caller : Nat) (reply : Reply α) (cursor : Cursor) : Cursor :=
  if cursor.pending = some caller then
    match reply with
    | .ended status => { pending := none, endStatus := some status }
    | _ => { cursor with pending := none }
  else cursor

/-- Let all finished calls take their replies, in order of position. -/
def collect (state : State β) : State β × List (Nat × Result β) :=
  (List.range state.shared.calls.length).foldl
    (fun (state, results) caller =>
      match state.shared.reply? caller with
      | none => (state, results)
      | some reply =>
          let left := state.apply caller (.leave caller)
          ({ left with cursors := left.cursors.map (settleCursor caller reply) },
            results ++ [(caller, resultOf reply)]))
    (state, [])

end State

/-- What is seen after one action of the script. -/
structure Step (β : Type) where
  result : Result β
  /-- Earlier calls that returned during this action, by position. -/
  woken : List (Nat × Result β)
  status : QueueStatus
  length : Nat
  capacity : Nat
  averageBytes : Nat
  remaining : Bool
  closed : Bool
  /-- The gauges of length and capacity, if one call returned and it succeeded. -/
  gauges : Option (Nat × Nat)
deriving Repr, DecidableEq

/-- What is seen of a whole script. -/
structure Report (β : Type) where
  steps : List (Step β)
  /-- The calls that returned when the queue was closed after the last action. -/
  released : List (Nat × Result β)
  stillBlocked : Nat
  status : QueueStatus
  metrics : List (String × Nat)
deriving Repr, DecidableEq

namespace State

variable {β : Type}

/-- Begin a call and let everything settle. -/
def call (state : State β) (caller : Nat) (event : SharedQueue.Event (Item β)) :
    State β × Option (Result β) :=
  ((state.apply caller event).settle caller, none)

/-- Perform an action at the given position of the script.  No result means that the
action is a call, whose result is its reply. -/
def perform (state : State β) (position : Nat) : Action β → State β × Option (Result β)
  | .insert value size => state.call position (.insert position { value, size })
  | .next => state.call position (.pull position)
  | .iterate =>
      ({ state with cursors := state.cursors ++ [{}] },
        some (.iterator state.cursors.length))
  | .iteratorNext iterator =>
      match state.cursors[iterator]? with
      | none => (state, some .noSuchIterator)
      | some cursor =>
          if cursor.pending.isSome then (state, some .busy)
          else if cursor.endStatus.isSome then (state, some .ended)
          else
            let cursors := state.cursors.set iterator { cursor with pending := some position }
            { state with cursors }.call position (.pull position)
  | .endStatus iterator =>
      match state.cursors[iterator]? with
      | none => (state, some .noSuchIterator)
      | some cursor =>
          (state, some (if cursor.pending.isSome then .busy else .endStatus cursor.endStatus))
  | .markDone =>
      if state.shared.queue.producersFinished then (state, some .tooManyMarks)
      else ((state.apply position .markDone).settle position, some .nothing)
  | .close => state.call position (.close position)
  | .look => (state, some .look)

/-- Perform an action and describe what is seen afterwards. -/
def step (state : State β) (position : Nat) (action : Action β) : State β × Step β :=
  let (performed, answer) := state.perform position action
  let (after, returned) := performed.collect
  let result := answer.getD ((returned.lookup position).getD .blocked)
  let queue := after.shared.queue
  let metrics := after.shared.metrics
  let gauges :=
    match returned with
    | [(_, only)] =>
        if only.isSuccess then
          some (Metrics.gaugeReading (metrics.queueDepth.getD 0),
            Metrics.gaugeReading (metrics.effectiveCapacity.getD 0))
        else none
    | _ => none
  (after,
    { result
      woken := returned.filter fun (caller, _) => caller != position
      status := queue.status
      length := queue.buffer.length
      capacity := queue.capacity.limit
      averageBytes := queue.capacity.averageBytes
      remaining := queue.hasRemaining
      closed := queue.closed
      gauges })

/-- Perform all actions in order. -/
def steps (state : State β) (position : Nat) : List (Action β) → State β × List (Step β)
  | [] => (state, [])
  | action :: rest =>
      let (after, seen) := state.step position action
      let (final, others) := after.steps (position + 1) rest
      (final, seen :: others)

/-- The state before the first action.  There is one more caller than there are
actions, for the close at the end. -/
def start (config : ExecutorConfig) (producers : Nat) (actions : List (Action β)) :
    State β :=
  { shared := SharedQueue.start config producers (actions.length + 1) }

end State

/-- Perform a script on a fresh queue and then close the queue. -/
def report {β : Type} (config : ExecutorConfig) (producers : Nat)
    (actions : List (Action β)) : Report β :=
  let (played, steps) := (State.start config producers actions).steps 0 actions
  let (closed, _) := played.perform actions.length .close
  let (final, returned) := closed.collect
  { steps
    released := returned.filter fun (caller, _) => caller != actions.length
    stillBlocked := (final.shared.calls.filter Call.isWaiting).length
    status := final.shared.queue.status
    metrics := final.shared.metrics.pressureEntries }

end BoundedIngest.Script

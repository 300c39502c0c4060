/-
Module: BoundedIngest.Queue.Shared
Purpose: A queue under concurrent use: every call in progress is a value, and every
  critical section, notification and measurement is one step.
Main exports:
  Reply, Call, SharedQueue, SharedQueue.Event, SharedQueue.step, SharedQueue.run
-/
import BoundedIngest.Queue.Basic
import BoundedIngest.Sizing.Sampler
import BoundedIngest.Observability.Metrics

namespace BoundedIngest

/-!
Threads meet at one lock and two conditions: "there is room" and "there is an entry,
or an end".  A thread that finds its condition unmet waits, and takes the lock again
only after it was notified.  Notifications that follow a push, a pull or a close are
sent after the lock was released, so for a while the call still owes them.  A
notification of one waiter wakes exactly one if any waits; which one is left open.

A call is a slot with a position in the list of calls.  The slot is idle between two
calls of the thread it belongs to.

The operations of a queue are found again in the steps:

* `insert` is `Event.insert`, `Event.measured` if the entry is due, `Event.enter` once and
  again after each wait, and then `Event.notify` and `Event.report` if it got in;
* `pull`, and `next_entry` on top of it, is `Event.pull`, `Event.enter`, and then
  `Event.notify` and `Event.report` if it got an entry;
* `mark_producer_done` is `Event.markDone`, a single step because it notifies inside the lock;
* `close` is `Event.close` and two of `Event.notify`.

A thread takes the outcome of a call by `Event.leave`.  No wait ends without a notification.
-/

/-- How a call on a queue ends. -/
inductive Reply (α : Type) where
  /-- An insert added its entry. -/
  | inserted
  /-- An insert found the queue closed or all producers done. -/
  | refused
  /-- A pull got an entry. -/
  | entry (value : α)
  /-- A pull found the end of the queue. -/
  | ended (status : QueueStatus)
  /-- A close has sent its notifications, or had nothing to do. -/
  | closed
deriving Repr, DecidableEq

/-- How far a call has come. -/
inductive Call (α : Type) where
  | idle
  /-- The entry to insert is being measured. -/
  | measuring (entry : α)
  /-- About to take the lock for the first time, perhaps with a measurement to fold in. -/
  | inserting (entry : α) (size : Option UInt64)
  /-- Waits for room. -/
  | awaitingRoom (entry : α)
  /-- Was notified of room and is about to take the lock again. -/
  | retryingInsert (entry : α)
  /-- Has pushed; still owes one waiting pull its notification. -/
  | pushed (length capacity : Nat) (waited : Bool)
  /-- Has pushed and notified; still owes its metrics. -/
  | reportingPush (length capacity : Nat) (waited : Bool)
  /-- About to take the lock to pull. -/
  | pulling
  /-- Waits for an entry or the end. -/
  | awaitingEntry
  /-- Was notified of an entry or the end and is about to take the lock again. -/
  | retryingPull
  /-- Has pulled; still owes one waiting insert its notification. -/
  | pulled (entry : α) (length capacity : Nat)
  /-- Has pulled and notified; still owes its metrics. -/
  | reportingPull (entry : α) (length capacity : Nat)
  /-- Has closed the queue; still owes all waiting calls their notification. -/
  | closedRoom
  /-- Has closed the queue; still owes all waiting pulls their notification. -/
  | closedEntries
  | returned (reply : Reply α)
deriving Repr, DecidableEq

namespace Call

variable {α : Type}

def isAwaitingRoom : Call α → Bool
  | .awaitingRoom _ => true
  | _ => false

def isAwaitingEntry : Call α → Bool
  | .awaitingEntry => true
  | _ => false

/-- The call waits for a notification. -/
def isWaiting (call : Call α) : Bool := call.isAwaitingRoom || call.isAwaitingEntry

/-- A waiter for room that is notified. -/
def notifyRoom : Call α → Call α
  | .awaitingRoom entry => .retryingInsert entry
  | other => other

/-- A waiter for an entry that is notified. -/
def notifyEntry : Call α → Call α
  | .awaitingEntry => .retryingPull
  | other => other

end Call

/-- A queue, the sampler in front of it, the calls on it and the metrics they feed. -/
structure SharedQueue (α : Type) where
  queue : Queue α
  sampler : Sampler
  calls : List (Call α)
  metrics : Metrics := {}
deriving DecidableEq

namespace SharedQueue

variable {α : Type}

/-- One step of one call. -/
inductive Event (α : Type) where
  /-- An insert begins: the entry draws its sequence number. -/
  | insert (caller : Nat) (entry : α)
  /-- The entry of a due insert was measured. -/
  | measured (caller : Nat) (estimate : UInt64)
  /-- Measuring panicked, and the panic leaves the insert. -/
  | measuringPanicked (caller : Nat)
  /-- A pull begins. -/
  | pull (caller : Nat)
  /-- A call takes the lock, does what the queue allows, and releases the lock. -/
  | enter (caller : Nat)
  /-- A call sends a notification it owes.  Where it is for one waiter, `target` is the
  waiter, and there is none only if nobody waits. -/
  | notify (caller : Nat) (target : Option Nat)
  /-- A call records the metrics it owes. -/
  | report (caller : Nat)
  /-- A close takes the lock. -/
  | close (caller : Nat)
  /-- A producer is marked done, and if it was the last one everybody is notified. -/
  | markDone
  /-- The thread of a finished call takes its reply and goes on. -/
  | leave (caller : Nat)
deriving Repr, DecidableEq

/-- A fresh queue for the given number of producers, used by `callers` threads. -/
def start (config : ExecutorConfig) (producers callers : Nat) : SharedQueue α :=
  { queue := Queue.start config producers
    sampler := Sampler.ofConfig config
    calls := List.replicate callers .idle }

def setCall (shared : SharedQueue α) (caller : Nat) (call : Call α) : SharedQueue α :=
  { shared with calls := shared.calls.set caller call }

def record (shared : SharedQueue α) (measurement : Measurement) : SharedQueue α :=
  { shared with metrics := shared.metrics.record measurement }

/-- Notify every waiter for room. -/
def notifyAllRoom (shared : SharedQueue α) : SharedQueue α :=
  { shared with calls := shared.calls.map Call.notifyRoom }

/-- Notify every waiter for an entry. -/
def notifyAllEntry (shared : SharedQueue α) : SharedQueue α :=
  { shared with calls := shared.calls.map Call.notifyEntry }

/-- Notify the chosen waiter for room; choosing nobody is allowed only if nobody
waits. -/
def notifyOneRoom (shared : SharedQueue α) : Option Nat → Option (SharedQueue α)
  | none => if shared.calls.any Call.isAwaitingRoom then none else some shared
  | some target =>
      match shared.calls[target]? with
      | some (.awaitingRoom entry) => some (shared.setCall target (.retryingInsert entry))
      | _ => none

/-- Notify the chosen waiter for an entry; choosing nobody is allowed only if nobody
waits. -/
def notifyOneEntry (shared : SharedQueue α) : Option Nat → Option (SharedQueue α)
  | none => if shared.calls.any Call.isAwaitingEntry then none else some shared
  | some target =>
      match shared.calls[target]? with
      | some .awaitingEntry => some (shared.setCall target .retryingPull)
      | _ => none

/-- Fold a measurement into the capacity, as `insert` does when it comes into the lock.  If the
capacity changes, inserts that wait may have room now, so all of them are notified; the average
is recorded only then. -/
def observe (shared : SharedQueue α) (size : UInt64) : SharedQueue α :=
  let (capacity, changed) := shared.queue.capacity.observe size
  let observed := { shared with queue := { shared.queue with capacity } }
  if changed then
    (observed.record (.averageEntryBytes capacity.averageBytes)).notifyAllRoom
  else observed

/-- The wait loop of `insert` and what follows it inside the lock: an insert that was not
refused on arrival pushes, waits for room, or gives up because the queue was closed.  Whether
all producers are done is not asked again. -/
def tryPush (shared : SharedQueue α) (caller : Nat) (entry : α) (waited : Bool) :
    SharedQueue α :=
  if shared.queue.closed then shared.setCall caller (.returned .refused)
  else if shared.queue.isFull then shared.setCall caller (.awaitingRoom entry)
  else
    let queue := shared.queue.push entry
    { shared with queue }.setCall caller
      (.pushed queue.buffer.length queue.capacity.limit waited)

/-- The part of `insert` from the lock to its wait loop.  The measurement counts even if the
entry is refused. -/
def firstInsert (shared : SharedQueue α) (caller : Nat) (entry : α)
    (size : Option UInt64) : SharedQueue α :=
  let observed :=
    match size with
    | some bytes => shared.observe bytes
    | none => shared
  if observed.queue.refuses then observed.setCall caller (.returned .refused)
  else observed.tryPush caller entry false

/-- One turn of the loop of `pull` inside the lock: a closed queue ends it, otherwise it takes the
oldest entry, and without one it ends or waits. -/
def tryPull (shared : SharedQueue α) (caller : Nat) : SharedQueue α :=
  if shared.queue.closed then shared.setCall caller (.returned (.ended .closed))
  else
    match shared.queue.pop? with
    | some (entry, queue) =>
        { shared with queue }.setCall caller
          (.pulled entry queue.buffer.length queue.capacity.limit)
    | none =>
        if shared.queue.producersFinished then
          shared.setCall caller (.returned (.ended .done))
        else shared.setCall caller .awaitingEntry

/-- A call takes the lock. -/
def enter (shared : SharedQueue α) (caller : Nat) : Option (SharedQueue α) :=
  match shared.calls[caller]? with
  | some (.inserting entry size) => some (shared.firstInsert caller entry size)
  | some (.retryingInsert entry) => some (shared.tryPush caller entry true)
  | some .pulling | some .retryingPull => some (shared.tryPull caller)
  | _ => none

/-- A call sends a notification it owes. -/
def notify (shared : SharedQueue α) (caller : Nat) (target : Option Nat) :
    Option (SharedQueue α) :=
  match shared.calls[caller]?, target with
  | some (.pushed length capacity waited), _ =>
      (shared.notifyOneEntry target).map
        (·.setCall caller (.reportingPush length capacity waited))
  | some (.pulled entry length capacity), _ =>
      (shared.notifyOneRoom target).map
        (·.setCall caller (.reportingPull entry length capacity))
  | some .closedRoom, none => some (shared.notifyAllRoom.setCall caller .closedEntries)
  | some .closedEntries, none =>
      some (shared.notifyAllEntry.setCall caller (.returned .closed))
  | _, _ => none

/-- The end of `insert` and of `pull`: a call records its metrics and returns.  A wait for room is
recorded only by an insert that got room in the end. -/
def report (shared : SharedQueue α) (caller : Nat) : Option (SharedQueue α) :=
  match shared.calls[caller]? with
  | some (.reportingPush length capacity waited) =>
      let counted := if waited then shared.record .blockedInsert else shared
      some ((counted.record (.queueDepth length capacity)).setCall caller
        (.returned .inserted))
  | some (.reportingPull entry length capacity) =>
      some ((shared.record (.queueDepth length capacity)).setCall caller
        (.returned (.entry entry)))
  | _ => none

/-- `mark_producer_done`: a producer is marked done.  Everybody is notified inside the lock once no
producer is left, because then waiting pulls have reached the end. -/
def markDone (shared : SharedQueue α) : SharedQueue α :=
  let marked := { shared with queue := shared.queue.markDone }
  if marked.queue.producersFinished then marked.notifyAllEntry.notifyAllRoom else marked

/-- The part of `close` inside the lock; it ends there if the queue was closed before or is
done. -/
def close (shared : SharedQueue α) (caller : Nat) : SharedQueue α :=
  if shared.queue.isClosable then
    { shared with queue := shared.queue.close }.setCall caller .closedRoom
  else shared.setCall caller (.returned .closed)

/-- One step, or nothing if the call it names is not at the point where the step is
possible. -/
def step (shared : SharedQueue α) : Event α → Option (SharedQueue α)
  | .insert caller entry =>
      match shared.calls[caller]? with
      | some .idle =>
          let (due, sampler) := shared.sampler.draw
          let call := if due then .measuring entry else .inserting entry none
          some ({ shared with sampler }.setCall caller call)
      | _ => none
  | .measured caller estimate =>
      match shared.calls[caller]? with
      | some (.measuring entry) =>
          some (shared.setCall caller (.inserting entry (some (measuredSize estimate))))
      | _ => none
  | .measuringPanicked caller =>
      match shared.calls[caller]? with
      | some (.measuring _) => some (shared.setCall caller .idle)
      | _ => none
  | .pull caller =>
      match shared.calls[caller]? with
      | some .idle => some (shared.setCall caller .pulling)
      | _ => none
  | .enter caller => shared.enter caller
  | .notify caller target => shared.notify caller target
  | .report caller => shared.report caller
  | .close caller =>
      match shared.calls[caller]? with
      | some .idle => some (shared.close caller)
      | _ => none
  | .markDone => some shared.markDone
  | .leave caller =>
      match shared.calls[caller]? with
      | some (.returned _) => some (shared.setCall caller .idle)
      | _ => none

/-- A sequence of steps, each of which must be possible. -/
def run (shared : SharedQueue α) : List (Event α) → Option (SharedQueue α)
  | [] => some shared
  | event :: rest => (shared.step event).bind (·.run rest)

/-- The reply of a finished call. -/
def reply? (shared : SharedQueue α) (caller : Nat) : Option (Reply α) :=
  match shared.calls[caller]? with
  | some (.returned reply) => some reply
  | _ => none

end SharedQueue

end BoundedIngest

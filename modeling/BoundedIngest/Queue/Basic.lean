/-
Module: BoundedIngest.Queue.Basic
Purpose: The buffer between producers and consumer, as it is between critical sections.
Main exports:
  QueueStatus, Queue, Queue.start, Queue.status, Queue.push, Queue.pop?, Queue.markDone,
  Queue.close
-/
import BoundedIngest.Sizing.Capacity
import BoundedIngest.Config.Basic

namespace BoundedIngest

/-- What can still happen to a queue. -/
inductive QueueStatus where
  /-- Some registered producer is still running. -/
  | accepting
  /-- All producers are done and entries are left. -/
  | draining
  /-- All producers are done and nothing is left. -/
  | done
  /-- Cancelled; the entries that were left are gone. -/
  | closed
deriving Repr, DecidableEq

def QueueStatus.name : QueueStatus → String
  | .accepting => "open"
  | .draining => "draining"
  | .done => "done"
  | .closed => "closed"

/-- A first-in-first-out buffer whose size is bounded by a byte budget. -/
structure Queue (α : Type) where
  /-- The buffered entries, oldest first. -/
  buffer : List α := []
  capacity : Capacity
  /-- How many producers were registered. -/
  producersTotal : Nat
  producersDone : Nat := 0
  closed : Bool := false
  /-- What is read as the length by those who do not take the lock. -/
  lengthHint : Nat := 0
deriving DecidableEq

namespace Queue

variable {α : Type}

/-- An empty queue that expects the given number of producers. -/
def start (config : ExecutorConfig) (producers : Nat) : Queue α :=
  { capacity := Capacity.start config.writeBufferLimitBytes config.maxCachedRecords
    producersTotal := producers }

def producersFinished (queue : Queue α) : Bool :=
  queue.producersTotal ≤ queue.producersDone

def status (queue : Queue α) : QueueStatus :=
  if queue.closed then .closed
  else if !queue.producersFinished then .accepting
  else if queue.buffer.isEmpty then .done
  else .draining

/-- An insert that has just arrived is refused. -/
def refuses (queue : Queue α) : Bool := queue.closed || queue.producersFinished

/-- No entry fits in at the moment. -/
def isFull (queue : Queue α) : Bool := queue.capacity.limit ≤ queue.buffer.length

/-- Does anything seem to be buffered?  Answers without the lock. -/
def hasRemaining (queue : Queue α) : Bool := 0 < queue.lengthHint

/-- Append an entry. -/
def push (queue : Queue α) (entry : α) : Queue α :=
  let buffer := queue.buffer ++ [entry]
  { queue with buffer, lengthHint := buffer.length }

/-- Remove the oldest entry. -/
def pop? (queue : Queue α) : Option (α × Queue α) :=
  match queue.buffer with
  | [] => none
  | entry :: buffer => some (entry, { queue with buffer, lengthHint := buffer.length })

/-- One more producer is done.  There are never more of them than were registered. -/
def markDone (queue : Queue α) : Queue α :=
  { queue with producersDone := min (queue.producersDone + 1) queue.producersTotal }

/-- Closing has an effect unless the queue is closed already or has run dry in the
regular way. -/
def isClosable (queue : Queue α) : Bool :=
  queue.status = .accepting || queue.status = .draining

/-- Close the queue and drop what it holds. -/
def close (queue : Queue α) : Queue α :=
  { queue with buffer := [], closed := true, lengthHint := 0 }

end Queue

end BoundedIngest

/-
Module: BoundedIngest.Executor.Worker
Purpose: How far each worker and each call on an executor has come.
Main exports:
  SourceKind, ProducerPhase, ProducerWorker, ConsumerPhase, ConsumerWorker, Signal, Channel,
  ExecutePhase, ShutdownPhase, AwaitPhase
-/
import BoundedIngest.Failure.Slot
import BoundedIngest.Queue.Basic

namespace BoundedIngest

/-- How a source feeds its producer. -/
inductive SourceKind where
  /-- An iterator over records. -/
  | records
  /-- An iterator over results; an error ends the production. -/
  | results
  /-- A procedure that pushes, and that may go on after it was told to halt. -/
  | pushing
deriving Repr, DecidableEq

/-- How far a producer has come.  Where a callback runs, the phase lasts until the
callback has ended. -/
inductive ProducerPhase (ρ : Type) where
  /-- Not spawned. -/
  | unborn
  /-- Runs the hook. -/
  | hooking
  /-- The source runs; the last record it offered was answered with `answer`, where no
  halt means that it was accepted or that there was none. -/
  | sourcing (answer : Option Halt)
  /-- A record was offered, and the own flag is about to be looked at. -/
  | offering (record : ρ)
  /-- The transform runs. -/
  | transforming (record : ρ)
  /-- A call inserts the entry. -/
  | inserting
  /-- Production has ended, with a halt or without, and its count is about to be
  recorded. -/
  | reporting (outcome : Option Halt)
  /-- About to record a failure. -/
  | failing (error : WorkerError)
  /-- Has set the failure slot and is about to close the queue. -/
  | alarmed
  /-- A call closes the queue. -/
  | closing
  /-- About to send the signal of failure. -/
  | signalling
  /-- About to be marked done. -/
  | marking
  | ended
deriving Repr, DecidableEq

/-- How far the consumer has come. -/
inductive ConsumerPhase (α β : Type) where
  | unborn
  | hooking
  /-- A call pulls an entry. -/
  | pulling
  /-- An entry is consumed. -/
  | consuming (entry : α)
  /-- The queue has ended, and the count is about to be recorded. -/
  | drained (status : QueueStatus)
  | finishing
  /-- The result is fetched. -/
  | concluding
  /-- About to send the result. -/
  | delivering (result : β)
  | failing (error : WorkerError)
  | alarmed
  | closing
  | signalling
  | ended
deriving Repr, DecidableEq

/-- A producer with its own interrupt flag and the count of its inserted entries.  Like the
counts of measurements and of consumed entries this one has no bound; a word shows the same as
long as there are fewer than 2 ^ 64. -/
structure ProducerWorker (ρ : Type) where
  kind : SourceKind
  phase : ProducerPhase ρ := .unborn
  flag : Bool := false
  produced : Nat := 0
  /-- Its handle was taken by somebody who joins it. -/
  joined : Bool := false
deriving Repr, DecidableEq

/-- The consumer with its own interrupt flag and the count of its consumed entries. -/
structure ConsumerWorker (α β : Type) where
  phase : ConsumerPhase α β := .unborn
  flag : Bool := false
  consumed : Nat := 0
  joined : Bool := false
deriving Repr, DecidableEq

/-- What workers tell the thread that executes. -/
inductive Signal (β : Type) where
  | finished (result : β)
  | failed
deriving Repr, DecidableEq

/-- Signals on their way, and how many can still send one. -/
structure Channel (β : Type) where
  messages : List (Signal β) := []
  senders : Nat
deriving Repr, DecidableEq

def Channel.send {β : Type} (channel : Channel β) (signal : Signal β) : Channel β :=
  { channel with messages := channel.messages ++ [signal] }

/-- A sender is gone. -/
def Channel.hangUp {β : Type} (channel : Channel β) : Channel β :=
  { channel with senders := channel.senders - 1 }

/-- How far a call that executes has come. -/
inductive ExecutePhase (β : Type) where
  /-- About to look at the flag of its thread. -/
  | entering
  | takingParts
  | takingSender (hasParts : Bool)
  | takingReceiver (hasParts hasSender : Bool)
  /-- Has everything and is about to set the lifecycle. -/
  | starting
  /-- About to spawn the worker of this position, the consumer last. -/
  | spawning (worker : Nat)
  /-- Waits for a signal for a limited time. -/
  | waiting
  /-- Got no signal in time and is about to look at the flag of its thread. -/
  | checkingFlag
  /-- Is about to look at the failure slot. -/
  | checkingSlot
  /-- Got a signal, or learned that none can come. -/
  | judging (signal : Option (Signal β))
  /-- About to set the lifecycle to match the outcome. -/
  | settling (outcome : Except ExecError β)
  /-- About to record the outcome. -/
  | recording (outcome : Except ExecError β)
  | returned (outcome : Except ExecError β)
  /-- Ended without an outcome, because no worker could be spawned. -/
  | panicked (panic : Panic)
  /-- The system refused to start a worker for this reason, and a shutdown is about to begin. -/
  | retreating (reason : String)
  /-- Carries out the shutdown of this position. -/
  | withdrawing (shutdown : Nat) (reason : String)

/-- How far a shutdown has come. -/
inductive ShutdownPhase where
  /-- About to close the queue. -/
  | entering
  /-- A call closes the queue. -/
  | closing
  /-- About to raise the flags of all workers. -/
  | interrupting
  /-- About to set the lifecycle. -/
  | cancelling
  | returned
deriving Repr, DecidableEq

/-- How far a call that waits for termination has come. -/
inductive AwaitPhase where
  /-- About to take the handles of all workers. -/
  | collecting
  /-- Joins workers one after the other; `total` is how many handles it took. -/
  | joining (workers : List Nat) (total : Nat)
  | returned
deriving Repr, DecidableEq

/-- Between these two points the call holds the lock on the list of workers. -/
def ExecutePhase.holdsWorkers {β : Type} : ExecutePhase β → Bool
  | .spawning worker => 0 < worker
  | _ => false

end BoundedIngest

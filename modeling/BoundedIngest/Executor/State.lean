/-
Module: BoundedIngest.Executor.State
Purpose: An executor with everything that goes on in it.
Main exports:
  threadNamePanic?, Executor, Executor.create, Executor.workerNames
-/
import BoundedIngest.Executor.Lifecycle
import BoundedIngest.Executor.Worker
import BoundedIngest.Queue.Shared

namespace BoundedIngest

/-- The panic of a thread that starts another one under this name.  The end of a name is
marked by a byte that is zero, so no other byte may be; the text tells where the first
such byte is, and all bytes of the name. -/
def threadNamePanic? (name : String) : Option Panic :=
  let bytes := name.toUTF8.toList
  (bytes.findIdx? (· = 0)).map fun position =>
    .text ("thread name may not contain interior null bytes: NulError(" ++
      toString position ++ ", [" ++
      String.intercalate ", " (bytes.map fun byte => toString byte.toNat) ++ "])")

/-!
An executor turns raw records `ρ` into entries `α` by producers, and entries into a
result `β` by a consumer.  Its parts, the sender and the receiver of its channel lie in
three cells, each with a lock of its own, until a call that executes takes them.

Calls on the queue are told apart by position: first the producers, then the consumer,
then one for each shutdown.
-/

structure Executor (ρ α β : Type) where
  config : ExecutorConfig
  /-- Every worker runs a hook first. -/
  hooked : Bool
  lifecycle : Lifecycle := .created
  hasParts : Bool := true
  hasSender : Bool := true
  hasReceiver : Bool := true
  shared : SharedQueue α
  failure : FailureSlot := {}
  channel : Channel β
  producers : List (ProducerWorker ρ)
  consumer : ConsumerWorker α β := {}
  executes : List (ExecutePhase β) := []
  shutdowns : List ShutdownPhase := []
  awaits : List AwaitPhase := []
  /-- How many panics were contained. -/
  panics : Nat := 0
  /-- Why the system refuses to start the worker at a position, if it does.  It is asked for each
  worker once at most, so nothing is lost by fixing its answers beforehand. -/
  refuses : Nat → Option String

namespace Executor

variable {ρ α β : Type}

/-- A new executor.  One sender lies in its cell, and another one belongs to the failure
slot, which closes the queue and sends a signal when it is set.  The system starts every worker
unless it is said to refuse some. -/
def create (config : ExecutorConfig) (hooked : Bool) (kinds : List SourceKind)
    (refuses : Nat → Option String := fun _ => none) : Executor ρ α β :=
  { config, hooked, refuses
    shared := SharedQueue.start config kinds.length (kinds.length + 1)
    channel := { senders := 2 }
    producers := kinds.map fun kind => { kind } }

/-- The position of the consumer among the workers. -/
def consumerIndex (executor : Executor ρ α β) : Nat := executor.producers.length

/-- The position of a shutdown among the calls on the queue. -/
def shutdownCaller (executor : Executor ρ α β) (shutdown : Nat) : Nat :=
  executor.producers.length + 1 + shutdown

/-- Was a worker spawned? -/
def isSpawned (executor : Executor ρ α β) (worker : Nat) : Bool :=
  match executor.producers[worker]? with
  | some producer =>
      match producer.phase with
      | .unborn => false
      | _ => true
  | none =>
      match executor.consumer.phase with
      | .unborn => false
      | _ => worker = executor.consumerIndex

/-- Has a spawned worker ended? -/
def hasEnded (executor : Executor ρ α β) (worker : Nat) : Bool :=
  match executor.producers[worker]? with
  | some producer =>
      match producer.phase with
      | .ended => true
      | _ => false
  | none =>
      match executor.consumer.phase with
      | .ended => worker = executor.consumerIndex
      | _ => false

/-- The positions of all workers. -/
def workers (executor : Executor ρ α β) : List Nat :=
  List.range (executor.consumerIndex + 1)

/-- The name of the worker at a position. -/
def workerName (executor : Executor ρ α β) (worker : Nat) : String :=
  executor.config.threadNamePrefix ++
    (if worker < executor.consumerIndex then "-producer-" ++ toString worker else "-consumer")

/-- The names of the workers spawned so far. -/
def workerNames (executor : Executor ρ α β) : List String :=
  (executor.workers.filter executor.isSpawned).map executor.workerName

/-- Is the lock on the list of workers free? -/
def workersFree (executor : Executor ρ α β) : Bool :=
  !executor.executes.any ExecutePhase.holdsWorkers

def record (executor : Executor ρ α β) (measurement : Measurement) : Executor ρ α β :=
  { executor with shared := executor.shared.record measurement }

def setProducer (executor : Executor ρ α β) (index : Nat) (worker : ProducerWorker ρ) :
    Executor ρ α β :=
  { executor with producers := executor.producers.set index worker }

def setProducerPhase (executor : Executor ρ α β) (index : Nat) (phase : ProducerPhase ρ) :
    Executor ρ α β :=
  { executor with
    producers := executor.producers.modify index fun worker => { worker with phase } }

def setConsumerPhase (executor : Executor ρ α β) (phase : ConsumerPhase α β) :
    Executor ρ α β :=
  { executor with consumer := { executor.consumer with phase } }

def setExecute (executor : Executor ρ α β) (call : Nat) (phase : ExecutePhase β) :
    Executor ρ α β :=
  { executor with executes := executor.executes.set call phase }

def setShutdown (executor : Executor ρ α β) (call : Nat) (phase : ShutdownPhase) :
    Executor ρ α β :=
  { executor with shutdowns := executor.shutdowns.set call phase }

def setAwait (executor : Executor ρ α β) (call : Nat) (phase : AwaitPhase) :
    Executor ρ α β :=
  { executor with awaits := executor.awaits.set call phase }

/-- Take a step of the queue. -/
def stepQueue (executor : Executor ρ α β) (event : SharedQueue.Event α) :
    Option (Executor ρ α β) :=
  (executor.shared.step event).map fun shared => { executor with shared }

/-- Take the reply of a finished call on the queue. -/
def takeReply (executor : Executor ρ α β) (caller : Nat) :
    Option (Reply α × Executor ρ α β) := do
  let reply ← executor.shared.reply? caller
  let executor ← executor.stepQueue (.leave caller)
  pure (reply, executor)

end Executor

end BoundedIngest

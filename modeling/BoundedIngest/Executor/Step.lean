/-
Module: BoundedIngest.Executor.Step
Purpose: Everything that can happen next in an executor.
Main exports:
  Executor.ProducerAct, Executor.ConsumerAct, Executor.ExecuteAct, Executor.Event,
  Executor.step, Executor.run
-/
import BoundedIngest.Executor.State

namespace BoundedIngest.Executor

/-!
Callbacks are open: how long they take and how they end is not decided here, so the end
of a callback is an event that says how it ended.  The same holds for the interrupt
flags, which anybody may raise or lower at any time, and for the flag of the thread that
executes, which is known only when it is looked at.

The operations of an executor are found again in the steps:

* the body of a producer's thread is `Event.producer`: its hook, then `produce` with the sink's
  `accept` for each record (`checkFlag`, the transform, `insert` on the queue), the report of its
  count, `record` on the failure slot with its listener, which closes the queue and signals, and
  `mark_producer_done` when the thread leaves;
* the body of the consumer's thread is `Event.consumer`: its hook, then `drain` (`next_entry` and
  `consume` in turn, the report of the count, `finish` and `result`), and the signal;
* `execute` is `Event.execute` and then `Event.executing`: the look at the caller's flag, the three
  cells one by one, `spawn_workers` worker by worker, `wait_for_outcome` and the outcome;
* `shutdown_now` is `Event.shutdown` and then `Event.shuttingDown`;
* `await_termination` is `Event.await` and then `Event.awaiting`.

What they do on the queue are the steps of a call on it.  Durations are left out.
-/

/-- One step of a producer. -/
inductive ProducerAct (ρ α : Type) where
  | hookReturned
  | hookPanicked (panic : Panic)
  /-- The source offers a record. -/
  | offered (record : ρ)
  /-- The iterator is exhausted, or the procedure has returned. -/
  | sourceEnded
  /-- The iterator yielded an error, or the procedure ended with one of its own. -/
  | sourceFailed (reason : String)
  /-- The procedure ended with a halt. -/
  | sourceHalted (halt : Halt)
  | sourcePanicked (panic : Panic)
  /-- The sink looks at the flag of the thread. -/
  | checkFlag
  | transformed (entry : α)
  | transformFailed (reason : String)
  | transformPanicked (panic : Panic)
  /-- The size of the entry was estimated. -/
  | measured (estimate : UInt64)
  | measuringPanicked (panic : Panic)
  /-- The reply of the insert is taken. -/
  | inserted
  /-- The number of inserted entries is recorded. -/
  | report
  | recordFailure
  | closeQueue
  /-- The reply of the close is taken. -/
  | closed
  | signal
  | markDone
deriving Repr, DecidableEq

/-- One step of the consumer. -/
inductive ConsumerAct (β : Type) where
  | hookReturned
  | hookPanicked (panic : Panic)
  /-- The reply of the pull is taken. -/
  | pulled
  | consumed
  | consumeFailed (reason : String)
  | consumePanicked (panic : Panic)
  /-- The number of consumed entries is recorded, and why the queue ended is looked
  at. -/
  | report
  | finished
  | finishFailed (reason : String)
  | finishPanicked (panic : Panic)
  | concluded (result : β)
  | concludePanicked (panic : Panic)
  /-- The result is sent. -/
  | deliver
  | recordFailure
  | closeQueue
  | closed
  | signal
deriving Repr, DecidableEq

/-- One step of a call that executes. -/
inductive ExecuteAct where
  /-- The flag of the thread is looked at, and `raised` is what is seen. -/
  | readFlag (raised : Bool)
  /-- The time to wait for a signal is over. -/
  | timeout
  /-- Any step that leaves no choice. -/
  | proceed
deriving Repr, DecidableEq

/-- One step of an executor. -/
inductive Event (ρ α β : Type) where
  /-- A call on the queue takes the lock. -/
  | enterQueue (caller : Nat)
  /-- A call on the queue sends a notification it owes. -/
  | notifyQueue (caller : Nat) (target : Option Nat)
  /-- A call on the queue records the metrics it owes. -/
  | reportQueue (caller : Nat)
  | producer (index : Nat) (act : ProducerAct ρ α)
  | consumer (act : ConsumerAct β)
  /-- The flag of a worker is raised or lowered. -/
  | setFlag (worker : Nat) (raised : Bool)
  /-- A call that executes begins. -/
  | execute
  | executing (call : Nat) (act : ExecuteAct)
  /-- A shutdown begins. -/
  | shutdown
  | shuttingDown (call : Nat)
  /-- A call that waits for termination begins. -/
  | await
  | awaiting (call : Nat)
deriving Repr, DecidableEq

variable {ρ α β : Type}

/-!
Producers.
-/

/-- The answer to a record reaches the source.  An iterator is not pulled again after a
halt, but a procedure decides for itself. -/
def answered (kind : SourceKind) : Option Halt → ProducerPhase ρ
  | none => .sourcing none
  | some halt =>
      match kind with
      | .records | .results => .reporting (some halt)
      | .pushing => .sourcing (some halt)

/-- A panic that is contained in a stage is counted. -/
def containPanic (executor : Executor ρ α β) (stage : Stage) (panic : Panic) :
    Executor ρ α β :=
  { executor with panics := (BoundedIngest.containPanic stage executor.panics panic).2 }

/-- The panic with which a callback of a producer ends, and the stage that it is caught in. -/
def ProducerAct.panic? : ProducerAct ρ α → Option (Stage × Panic)
  | .hookPanicked panic => some (.preExecute, panic)
  | .sourcePanicked panic | .measuringPanicked panic => some (.produce, panic)
  | .transformPanicked panic => some (.transform, panic)
  | _ => none

/-- Does a callback of the producer end in a panic? -/
def ProducerAct.isPanic (act : ProducerAct ρ α) : Bool := act.panic?.isSome

/-- What follows a production: nothing but the mark, unless it failed. -/
def afterReport : Option Halt → ProducerPhase ρ
  | none | some .cancelled => .marking
  | some (.failed error) => .failing error

/-- Where a step takes a producer if it concerns nobody else: it uses neither the queue
nor the failure slot nor the channel.  These are the hook, the callbacks of `produce`, and what
`accept` does before it inserts. -/
def turnProducer (worker : ProducerWorker ρ) (act : ProducerAct ρ α) :
    Option (ProducerPhase ρ) :=
  match worker.phase, act with
  | .hooking, .hookReturned => some (.sourcing none)
  | .hooking, .hookPanicked panic => some (.failing (.ofPanic .preExecute panic))
  | .sourcing _, .offered record => some (.offering record)
  | .sourcing _, .sourceEnded => some (.reporting none)
  | .sourcing _, .sourceFailed reason =>
      if worker.kind = .records then none
      else some (.reporting (some (.failed (.source reason))))
  | .sourcing _, .sourceHalted halt =>
      if worker.kind = .pushing then some (.reporting (some halt)) else none
  | .sourcing _, .sourcePanicked panic =>
      some (.reporting (some (.failed (.ofPanic .produce panic))))
  | .offering record, .checkFlag =>
      some (if worker.flag then answered worker.kind (some .cancelled)
        else .transforming record)
  | .transforming _, .transformFailed reason =>
      some (answered worker.kind (some (.failed (.transform reason))))
  | .transforming _, .transformPanicked panic =>
      some (answered worker.kind (some (.failed (.ofPanic .transform panic))))
  | _, _ => none

/-- A step of a producer that uses the queue, the failure slot, the channel or the
metrics: the rest of `accept`, and how the thread ends after `produce`. -/
def engageProducer (executor : Executor ρ α β) (index : Nat) (worker : ProducerWorker ρ)
    (act : ProducerAct ρ α) : Option (Executor ρ α β) :=
  let goTo := executor.setProducerPhase index
  match worker.phase, act with
  | .transforming _, .transformed entry =>
      (executor.stepQueue (.insert index entry)).map (·.setProducerPhase index .inserting)
  | .inserting, .measured estimate => executor.stepQueue (.measured index estimate)
  | .inserting, .measuringPanicked panic =>
      (executor.stepQueue (.measuringPanicked index)).map fun executor =>
        (executor.setProducerPhase index
          (.reporting (some (.failed (.ofPanic .produce panic))))).containPanic .produce panic
  | .inserting, .inserted =>
      match executor.takeReply index with
      | some (.inserted, executor) =>
          some (executor.setProducer index
            { worker with
              produced := worker.produced + 1
              phase := answered worker.kind none })
      | some (.refused, executor) =>
          some (executor.setProducerPhase index (answered worker.kind (some .cancelled)))
      | _ => none
  | .reporting outcome, .report =>
      some ((goTo (afterReport outcome)).record
        (.produced (executor.workerName index) worker.produced))
  | .failing error, .recordFailure =>
      let (first, failure) := executor.failure.record { role := .producer index, error }
      some { goTo (if first then .alarmed else .marking) with failure }
  | .alarmed, .closeQueue =>
      (executor.stepQueue (.close index)).map (·.setProducerPhase index .closing)
  | .closing, .closed =>
      match executor.takeReply index with
      | some (_, executor) => some (executor.setProducerPhase index .signalling)
      | none => none
  | .signalling, .signal =>
      some { goTo .marking with channel := executor.channel.send .failed }
  | .marking, .markDone =>
      (executor.stepQueue .markDone).map (·.setProducerPhase index .ended)
  | _, _ => none

def stepProducer (executor : Executor ρ α β) (index : Nat) (act : ProducerAct ρ α) :
    Option (Executor ρ α β) :=
  match executor.producers[index]? with
  | none => none
  | some worker =>
      match turnProducer worker act with
      | some phase =>
          let turned := executor.setProducerPhase index phase
          some (match act.panic? with
            | some (stage, panic) => turned.containPanic stage panic
            | none => turned)
      | none => executor.engageProducer index worker act

/-!
The consumer.
-/

/-- The consumer begins to pull the next entry. -/
def beginPull (executor : Executor ρ α β) : Option (Executor ρ α β) :=
  (executor.stepQueue (.pull executor.consumerIndex)).map (·.setConsumerPhase .pulling)

/-- The consumer ends, and with it its sender. -/
def endConsumer (executor : Executor ρ α β) : Executor ρ α β :=
  { executor.setConsumerPhase .ended with channel := executor.channel.hangUp }

/-- Only a queue that has run dry after all producers were done was seen completely. -/
def afterDrained (status : QueueStatus) : ConsumerPhase α β :=
  if status = .done then .finishing else .failing .interrupted

/-- The panic with which a callback of the consumer ends, and the stage that it is caught in. -/
def ConsumerAct.panic? : ConsumerAct β → Option (Stage × Panic)
  | .hookPanicked panic => some (.preExecute, panic)
  | .consumePanicked panic | .finishPanicked panic | .concludePanicked panic =>
      some (.consume, panic)
  | _ => none

/-- Does a callback of the consumer end in a panic? -/
def ConsumerAct.isPanic (act : ConsumerAct β) : Bool := act.panic?.isSome

/-- Where a step takes the consumer if it concerns nobody else: how its callbacks end. -/
def turnConsumer : ConsumerPhase α β → ConsumerAct β → Option (ConsumerPhase α β)
  | .hooking, .hookPanicked panic => some (.failing (.ofPanic .preExecute panic))
  | .consuming _, .consumeFailed reason => some (.failing (.consume reason))
  | .consuming _, .consumePanicked panic => some (.failing (.ofPanic .consume panic))
  | .finishing, .finished => some .concluding
  | .finishing, .finishFailed reason => some (.failing (.finish reason))
  | .finishing, .finishPanicked panic => some (.failing (.ofPanic .consume panic))
  | .concluding, .concluded result => some (.delivering result)
  | .concluding, .concludePanicked panic => some (.failing (.ofPanic .consume panic))
  | _, _ => none

/-- A step of the consumer that uses the queue, the failure slot, the channel or the
metrics: the loop of `drain`, and how the thread ends after it. -/
def engageConsumer (executor : Executor ρ α β) (act : ConsumerAct β) :
    Option (Executor ρ α β) :=
  let goTo := executor.setConsumerPhase
  match executor.consumer.phase, act with
  | .hooking, .hookReturned => executor.beginPull
  | .pulling, .pulled =>
      match executor.takeReply executor.consumerIndex with
      | some (.entry entry, executor) => some (executor.setConsumerPhase (.consuming entry))
      | some (.ended status, executor) => some (executor.setConsumerPhase (.drained status))
      | _ => none
  | .consuming _, .consumed =>
      { executor with
        consumer := { executor.consumer with consumed := executor.consumer.consumed + 1 }
        : Executor ρ α β }.beginPull
  | .drained status, .report =>
      some ((goTo (afterDrained status)).record (.consumed executor.consumer.consumed))
  | .delivering result, .deliver =>
      let told := { executor with channel := executor.channel.send (.finished result) }
      some told.endConsumer
  | .failing error, .recordFailure =>
      let (first, failure) := executor.failure.record { role := .consumer, error }
      let recorded := { executor with failure }
      some (if first then recorded.setConsumerPhase .alarmed else recorded.endConsumer)
  | .alarmed, .closeQueue =>
      (executor.stepQueue (.close executor.consumerIndex)).map (·.setConsumerPhase .closing)
  | .closing, .closed =>
      match executor.takeReply executor.consumerIndex with
      | some (_, executor) => some (executor.setConsumerPhase .signalling)
      | none => none
  | .signalling, .signal =>
      let told := { executor with channel := executor.channel.send .failed }
      some told.endConsumer
  | _, _ => none

def stepConsumer (executor : Executor ρ α β) (act : ConsumerAct β) :
    Option (Executor ρ α β) :=
  match turnConsumer executor.consumer.phase act with
  | some phase =>
      let turned := executor.setConsumerPhase phase
      some (match act.panic? with
        | some (stage, panic) => turned.containPanic stage panic
        | none => turned)
  | none => executor.engageConsumer act

/-!
Calls that execute.
-/

/-- `failure_or_interrupted`: the failure in the slot; if there is none although somebody
signalled failure, the consumer is taken to be interrupted. -/
def failureOrInterrupted (executor : Executor ρ α β) : ExecError :=
  executor.failure.toExecError.getD (.failed .consumer .interrupted)

/-- What a signal means.  A result counts only if nothing has failed. -/
def judge (executor : Executor ρ α β) : Option (Signal β) → Except ExecError β
  | some (.finished result) =>
      match executor.failure.toExecError with
      | some error => .error error
      | none => .ok result
  | some .failed | none => .error executor.failureOrInterrupted

/-- The lifecycle and the label that match an outcome. -/
def classify : Except ExecError β → Lifecycle × ExecutionOutcome
  | .ok _ => (.completed, .completed)
  | .error error => if error.isCancelled then (.cancelled, .aborted) else (.failed, .failed)

/-- One turn of `spawn_workers`: the worker at a position starts to run. -/
def spawn (executor : Executor ρ α β) (worker : Nat) : Option (Executor ρ α β) :=
  if worker < executor.consumerIndex then
    some (executor.setProducerPhase worker
      (if executor.hooked then .hooking else .sourcing none))
  else if executor.hooked then some (executor.setConsumerPhase .hooking)
  else executor.beginPull

/-- A call that did not get everything drops what it got.  A sender dropped is gone for
good, and so are the parts. -/
def abandon (executor : Executor ρ α β) (call : Nat) (hasSender : Bool) :
    Executor ρ α β :=
  let left :=
    if hasSender then { executor with channel := executor.channel.hangUp } else executor
  left.setExecute call (.returned (.error .alreadyStarted))

/-- The start of `shutdown_now`, with a call on the queue that is yet to come. -/
def beginShutdown (executor : Executor ρ α β) : Executor ρ α β :=
  { executor with
    shutdowns := executor.shutdowns ++ [.entering]
    shared := { executor.shared with calls := executor.shared.calls ++ [.idle] } }

/-- One step of `execute`.  If a worker cannot have its name, the call panics, and if
the system does not start it, the call shuts the executor down and fails without recording an
outcome.  Either way it drops the sender that was meant for the consumer. -/
def stepExecute (executor : Executor ρ α β) (call : Nat) (act : ExecuteAct) :
    Option (Executor ρ α β) :=
  match executor.executes[call]? with
  | none => none
  | some phase =>
      let goTo := executor.setExecute call
      match phase, act with
      | .entering, .readFlag raised =>
          some (if raised then
              (goTo (.returned (.error .aborted))).record
                (.execution ExecutionOutcome.aborted.label)
            else goTo .takingParts)
      | .takingParts, .proceed =>
          some { goTo (.takingSender executor.hasParts) with hasParts := false }
      | .takingSender hasParts, .proceed =>
          some { goTo (.takingReceiver hasParts executor.hasSender) with hasSender := false }
      | .takingReceiver hasParts hasSender, .proceed =>
          let taken := { executor with hasReceiver := false }
          some (if hasParts && hasSender && executor.hasReceiver then
              taken.setExecute call .starting
            else taken.abandon call hasSender)
      | .starting, .proceed =>
          some { goTo (.spawning 0) with lifecycle := executor.lifecycle.settle .running }
      | .spawning worker, .proceed =>
          match threadNamePanic? (executor.workerName worker) with
          | some panic => some { goTo (.panicked panic) with channel := executor.channel.hangUp }
          | none =>
              match executor.refuses worker with
              | some reason =>
                  some { goTo (.retreating reason) with channel := executor.channel.hangUp }
              | none =>
                  (executor.spawn worker).map (·.setExecute call
                    (if worker < executor.consumerIndex then .spawning (worker + 1)
                      else .waiting))
      | .waiting, .proceed =>
          match executor.channel.messages with
          | signal :: messages =>
              some { goTo (.judging (some signal)) with
                channel := { executor.channel with messages } }
          | [] => if executor.channel.senders = 0 then some (goTo (.judging none)) else none
      | .waiting, .timeout =>
          if executor.channel.messages.isEmpty && 0 < executor.channel.senders then
            some (goTo .checkingFlag)
          else none
      | .checkingFlag, .readFlag raised =>
          some (goTo (if raised then .settling (.error .aborted) else .checkingSlot))
      | .checkingSlot, .proceed =>
          some (goTo (match executor.failure.toExecError with
            | some error => .settling (.error error)
            | none => .waiting))
      | .judging signal, .proceed => some (goTo (.settling (executor.judge signal)))
      | .settling outcome, .proceed =>
          some { goTo (.recording outcome) with
            lifecycle := executor.lifecycle.settle (classify outcome).1 }
      | .recording outcome, .proceed =>
          some ((goTo (.returned outcome)).record (.execution (classify outcome).2.label))
      | .retreating reason, .proceed =>
          some (executor.beginShutdown.setExecute call
            (.withdrawing executor.shutdowns.length reason))
      | .withdrawing shutdown reason, .proceed =>
          if executor.shutdowns[shutdown]? = some .returned then
            some { goTo (.returned (.error (.spawn reason))) with
              lifecycle := executor.lifecycle.settle .failed }
          else none
      | _, _ => none

/-!
Shutdowns and waiting for termination.
-/

def raiseFlag (executor : Executor ρ α β) (worker : Nat) (raised : Bool) :
    Executor ρ α β :=
  if worker < executor.consumerIndex then
    { executor with
      producers := executor.producers.modify worker fun producer =>
        { producer with flag := raised } }
  else if worker = executor.consumerIndex then
    { executor with consumer := { executor.consumer with flag := raised } }
  else executor

/-- Raise the flags of all workers spawned so far. -/
def interruptWorkers (executor : Executor ρ α β) : Executor ρ α β :=
  (executor.workers.filter executor.isSpawned).foldl (·.raiseFlag · true) executor

/-- One step of `shutdown_now`: close the queue, raise the flags, set the lifecycle. -/
def stepShutdown (executor : Executor ρ α β) (call : Nat) : Option (Executor ρ α β) :=
  match executor.shutdowns[call]? with
  | some .entering =>
      (executor.stepQueue (.close (executor.shutdownCaller call))).map
        (·.setShutdown call .closing)
  | some .closing =>
      (executor.takeReply (executor.shutdownCaller call)).map
        (·.2.setShutdown call .interrupting)
  | some .interrupting =>
      if executor.workersFree then
        some (executor.interruptWorkers.setShutdown call .cancelling)
      else none
  | some .cancelling =>
      some ({ executor with lifecycle := executor.lifecycle.shutDown }.setShutdown call .returned)
  | some .returned | none => none

/-- The spawned workers whose handles nobody has taken. -/
def joinable (executor : Executor ρ α β) : List Nat :=
  executor.workers.filter fun worker =>
    executor.isSpawned worker &&
      match executor.producers[worker]? with
      | some producer => !producer.joined
      | none => !executor.consumer.joined

/-- Take the handle of a worker. -/
def takeHandle (executor : Executor ρ α β) (worker : Nat) : Executor ρ α β :=
  if worker < executor.consumerIndex then
    { executor with
      producers := executor.producers.modify worker fun producer =>
        { producer with joined := true } }
  else { executor with consumer := { executor.consumer with joined := true } }

/-- One step of `await_termination`: take the handles that are left, join their workers, set the
lifecycle. -/
def stepAwait (executor : Executor ρ α β) (call : Nat) : Option (Executor ρ α β) :=
  match executor.awaits[call]? with
  | some .collecting =>
      if executor.workersFree then
        let handles := executor.joinable
        let taken := handles.foldl takeHandle executor
        some (taken.setAwait call (.joining handles handles.length))
      else none
  | some (.joining (worker :: rest) total) =>
      if executor.hasEnded worker then some (executor.setAwait call (.joining rest total))
      else none
  | some (.joining [] total) =>
      some ({ executor with lifecycle := executor.lifecycle.afterJoining total }.setAwait
        call .returned)
  | some .returned | none => none

/-- One step, or nothing if it is not possible at this point. -/
def step (executor : Executor ρ α β) : Event ρ α β → Option (Executor ρ α β)
  | .enterQueue caller => executor.stepQueue (.enter caller)
  | .notifyQueue caller target => executor.stepQueue (.notify caller target)
  | .reportQueue caller => executor.stepQueue (.report caller)
  | .producer index act => executor.stepProducer index act
  | .consumer act => executor.stepConsumer act
  | .setFlag worker raised => some (executor.raiseFlag worker raised)
  | .execute => some { executor with executes := executor.executes ++ [.entering] }
  | .executing call act => executor.stepExecute call act
  | .shutdown => some executor.beginShutdown
  | .shuttingDown call => executor.stepShutdown call
  | .await => some { executor with awaits := executor.awaits ++ [.collecting] }
  | .awaiting call => executor.stepAwait call

/-- A sequence of steps, each of which must be possible. -/
def run (executor : Executor ρ α β) : List (Event ρ α β) → Option (Executor ρ α β)
  | [] => some executor
  | event :: rest => (executor.step event).bind (·.run rest)

end BoundedIngest.Executor

/-
Module: BoundedIngest.Executor.Progress
Purpose: What each thread in an executor does next when no callback has to decide.
Main exports:
  Executor.queueMove?, Executor.producerMove?, Executor.consumerMove?,
  Executor.executeMove?, Executor.Schedule
-/
import BoundedIngest.Executor.Step
import BoundedIngest.Queue.Line

namespace BoundedIngest.Executor

variable {ρ α β : Type}

/-- An executor together with the order in which calls wait on its queue. -/
structure Schedule (ρ α β : Type) where
  executor : Executor ρ α β
  lines : WaitLines := {}

/-- The next step of a call on the queue, seen as a step of the executor. -/
def queueMove? (schedule : Schedule ρ α β) (estimate : α → UInt64) (caller : Nat) :
    Option (Event ρ α β) :=
  match schedule.executor.shared.nextEvent? schedule.lines estimate caller with
  | some (.enter caller) => some (.enterQueue caller)
  | some (.notify caller target) => some (.notifyQueue caller target)
  | some (.report caller) => some (.reportQueue caller)
  | some (.measured caller size) => some (.producer caller (.measured size))
  | _ => none

/-- The next step of a call on the queue, or that its reply is taken. -/
def queueMoveOr (schedule : Schedule ρ α β) (estimate : α → UInt64) (caller : Nat)
    (taken : Event ρ α β) : Option (Event ρ α β) :=
  match schedule.executor.shared.reply? caller with
  | some _ => some taken
  | none => queueMove? schedule estimate caller

/-- The next step of a producer that runs no callback. -/
def producerMove? (schedule : Schedule ρ α β) (estimate : α → UInt64) (index : Nat) :
    Option (Event ρ α β) :=
  match schedule.executor.producers[index]? with
  | none => none
  | some worker =>
      match worker.phase with
      | .offering _ => some (.producer index .checkFlag)
      | .inserting => queueMoveOr schedule estimate index (.producer index .inserted)
      | .reporting _ => some (.producer index .report)
      | .failing _ => some (.producer index .recordFailure)
      | .alarmed => some (.producer index .closeQueue)
      | .closing => queueMoveOr schedule estimate index (.producer index .closed)
      | .signalling => some (.producer index .signal)
      | .marking => some (.producer index .markDone)
      | .unborn | .hooking | .sourcing _ | .transforming _ | .ended => none

/-- The next step of the consumer if it runs no callback. -/
def consumerMove? (schedule : Schedule ρ α β) (estimate : α → UInt64) :
    Option (Event ρ α β) :=
  let caller := schedule.executor.consumerIndex
  match schedule.executor.consumer.phase with
  | .pulling => queueMoveOr schedule estimate caller (.consumer .pulled)
  | .drained _ => some (.consumer .report)
  | .delivering _ => some (.consumer .deliver)
  | .failing _ => some (.consumer .recordFailure)
  | .alarmed => some (.consumer .closeQueue)
  | .closing => queueMoveOr schedule estimate caller (.consumer .closed)
  | .signalling => some (.consumer .signal)
  | .unborn | .hooking | .consuming _ | .finishing | .concluding | .ended => none

/-- The next step of a call that executes, on a thread whose flag is `raised` and whose
time to wait for a signal is over if `expired`. -/
def executeMove? (executor : Executor ρ α β) (call : Nat) (raised expired : Bool) :
    Option (Event ρ α β) :=
  match executor.executes[call]? with
  | none | some (.returned _) | some (.panicked _) => none
  | some .entering | some .checkingFlag => some (.executing call (.readFlag raised))
  | some .waiting =>
      if !executor.channel.messages.isEmpty || executor.channel.senders = 0 then
        some (.executing call .proceed)
      else if expired then some (.executing call .timeout)
      else none
  | some _ => some (.executing call .proceed)

/-- The next step of a shutdown. -/
def shutdownMove? (schedule : Schedule ρ α β) (estimate : α → UInt64) (call : Nat) :
    Option (Event ρ α β) :=
  match schedule.executor.shutdowns[call]? with
  | none | some .returned => none
  | some .closing =>
      queueMoveOr schedule estimate (schedule.executor.shutdownCaller call)
        (.shuttingDown call)
  | some _ => some (.shuttingDown call)

/-- The next step of a call that waits for termination. -/
def awaitMove? (executor : Executor ρ α β) (call : Nat) : Option (Event ρ α β) :=
  match executor.awaits[call]? with
  | none | some .returned => none
  | some _ => some (.awaiting call)

namespace Schedule

/-- The call on the queue whose place in a line a step may change. -/
def callerOf (schedule : Schedule ρ α β) : Event ρ α β → Nat
  | .enterQueue caller | .notifyQueue caller _ | .reportQueue caller => caller
  | .producer index _ => index
  | .consumer _ => schedule.executor.consumerIndex
  | .shuttingDown call => schedule.executor.shutdownCaller call
  | _ => schedule.executor.consumerIndex

/-- Take a step, if it is possible. -/
def follow? (schedule : Schedule ρ α β) (event : Event ρ α β) : Option (Schedule ρ α β) :=
  (schedule.executor.step event).map fun executor =>
    { executor
      lines := (schedule.lines.update executor.shared (schedule.callerOf event)).1 }

end Schedule

end BoundedIngest.Executor

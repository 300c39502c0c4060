/-
Module: BoundedIngest.Executor.Log
Purpose: What an executor writes to the log while it does a job.
Main exports:
  JobRun.logged
-/
import BoundedIngest.Executor.Job
import BoundedIngest.Observability.LogEvent

namespace BoundedIngest

namespace LogTarget

def executor : String := "spool_exec::executor"
def producer : String := "spool_exec::producer"
def consumer : String := "spool_exec::consumer"
def queue : String := "spool_exec::queue"

end LogTarget

namespace JobRun

variable {ρ α β : Type}

/-- A call that executes starts, spawns a worker, or is over. -/
def loggedByExecute (jobRun : JobRun ρ α β) (call : Nat) : List LogEvent :=
  match jobRun.executor.executes[call]? with
  | some .starting => [⟨LogTarget.executor, .info, "bounded executor starting",
      ["producers", "write_buffer_limit_bytes"]⟩]
  | some (.spawning worker) =>
      if (threadNamePanic? (jobRun.executor.workerName worker)).isSome then []
      else if (jobRun.executor.refuses worker).isSome then
        [⟨LogTarget.executor, .error, "failed to spawn executor worker", ["error"]⟩]
      else if worker < jobRun.executor.consumerIndex then
        [⟨LogTarget.producer, .debug, "producer started", ["worker"]⟩]
      else [⟨LogTarget.consumer, .debug, "consumer started", ["worker"]⟩]
  | some (.recording (.ok _)) =>
      [⟨LogTarget.executor, .info, "bounded executor completed", ["elapsed_us"]⟩]
  | some (.recording outcome) =>
      [⟨LogTarget.executor, .warn, "bounded executor " ++ (Executor.classify outcome).2.label,
        ["elapsed_us", "error"]⟩]
  | _ => []

/-- A producer is through with its records. -/
def loggedByReport (jobRun : JobRun ρ α β) (index : Nat) : List LogEvent :=
  match jobRun.executor.producers[index]? with
  | some { phase := .reporting none, .. } =>
      [⟨LogTarget.producer, .debug, "producer finished", ["worker", "produced"]⟩]
  | some { phase := .reporting (some .cancelled), .. } =>
      [⟨LogTarget.producer, .debug, "producer cancelled", ["worker", "produced"]⟩]
  | _ => []

/-- The last producer is marked done. -/
def loggedByMark (jobRun : JobRun ρ α β) : List LogEvent :=
  let marked := jobRun.executor.shared.queue.markDone
  if marked.producersFinished then
    [⟨LogTarget.queue, .debug, "all producers done, queue " ++ marked.status.name,
      ["buffered"]⟩]
  else []

/-- An insert folds in a measurement that changes the capacity. -/
def loggedByInsert (jobRun : JobRun ρ α β) (caller : Nat) : List LogEvent :=
  match jobRun.executor.shared.calls[caller]? with
  | some (.inserting _ (some size)) =>
      if (jobRun.executor.shared.queue.capacity.observe size).2 then
        [⟨LogTarget.queue, .trace, "queue capacity recomputed", ["avg_bytes", "capacity"]⟩]
      else []
  | _ => []

/-- A shutdown has raised all flags. -/
def loggedByShutdown (jobRun : JobRun ρ α β) (call : Nat) : List LogEvent :=
  match jobRun.executor.shutdowns[call]? with
  | some .cancelling => [⟨LogTarget.executor, .debug, "executor shutdown requested", ["workers"]⟩]
  | _ => []

/-- What is written when a step is taken. -/
def logged (jobRun : JobRun ρ α β) : Executor.Event ρ α β → List LogEvent
  | .executing call .proceed => jobRun.loggedByExecute call
  | .producer index .report => jobRun.loggedByReport index
  | .producer _ .markDone => jobRun.loggedByMark
  | .consumer .deliver =>
      [⟨LogTarget.consumer, .debug, "consumer finished", ["worker", "consumed"]⟩]
  | .enterQueue caller => jobRun.loggedByInsert caller
  | .shuttingDown call => jobRun.loggedByShutdown call
  | _ => []

end JobRun

end BoundedIngest

/-
Module: BoundedIngest.Executor.Job
Purpose: Runs in which the callbacks are settled and nobody interferes, in every order in
  which the threads may take their steps.
Main exports:
  Source, Job, JobRun, JobRun.start, JobRun.allows, JobRun.step, JobRun.run,
  JobRun.outcome?
-/
import BoundedIngest.Executor.Step

namespace BoundedIngest

/-!
An executor leaves open what its callbacks do.  A job settles it: every source offers
its records in order, the transform and the size estimate are functions, the result is
determined by the entries consumed, and no callback fails.  One call executes, and a
flag is raised only by a shutdown after that call has returned.
-/

/-- The records of one producer, and how they are fed to it. -/
structure Source (ρ : Type) where
  kind : SourceKind := .records
  records : List ρ
deriving Repr, DecidableEq

/-- What there is to do. -/
structure Job (ρ α β : Type) where
  sources : List (Source ρ)
  transform : ρ → α
  estimate : α → UInt64
  /-- The result for the entries consumed, in order. -/
  conclude : List α → β

/-- A job being done: the executor, the records that each source has yet to offer, and
the entries consumed so far, the newest first. -/
structure JobRun (ρ α β : Type) where
  job : Job ρ α β
  executor : Executor ρ α β
  left : List (List ρ)
  consumed : List α := []

namespace JobRun

variable {ρ α β : Type}

/-- A job before its first step, unless the settings are refused. -/
def start (config : ExecutorConfig) (job : Job ρ α β) : Except ConfigError (JobRun ρ α β) :=
  config.validate.map fun _ =>
    { job
      executor := Executor.create config false (job.sources.map Source.kind)
      left := job.sources.map Source.records }

/-- Has the call that executes returned? -/
def hasReturned (jobRun : JobRun ρ α β) : Bool :=
  match jobRun.executor.executes with
  | [.returned _] => true
  | _ => false

/-- The panic that ended the execution, if one did. -/
def panic? (jobRun : JobRun ρ α β) : Option Panic :=
  match jobRun.executor.executes with
  | [.panicked panic] => some panic
  | _ => none

/-- How the execution ended, if it did. -/
def outcome? (jobRun : JobRun ρ α β) : Option (Except ExecError β) :=
  match jobRun.executor.executes with
  | [.returned outcome] => some outcome
  | _ => none

/-- The result for what was consumed so far. -/
def conclusion (jobRun : JobRun ρ α β) : β := jobRun.job.conclude jobRun.consumed.reverse

/-- The record that a source offers next. -/
def nextRecord? (jobRun : JobRun ρ α β) (index : Nat) : Option ρ :=
  jobRun.left[index]?.bind List.head?

variable [DecidableEq ρ] [DecidableEq α] [DecidableEq β]

/-- May a producer take this step?  Where its callbacks have a say, they decide. -/
def allowsProducer (jobRun : JobRun ρ α β) (index : Nat) : Executor.ProducerAct ρ α → Bool
  | .offered record => jobRun.nextRecord? index = some record
  | .sourceEnded => (jobRun.nextRecord? index).isNone
  | .transformed entry =>
      match jobRun.executor.producers[index]? with
      | some { phase := .transforming record, .. } => entry = jobRun.job.transform record
      | _ => false
  | .measured size =>
      match jobRun.executor.shared.calls[index]? with
      | some (.measuring entry) => size = jobRun.job.estimate entry
      | _ => false
  | .checkFlag | .inserted | .report | .recordFailure | .closeQueue | .closed | .signal
  | .markDone => true
  | .hookReturned | .hookPanicked _ | .sourceFailed _ | .sourceHalted _ | .sourcePanicked _
  | .transformFailed _ | .transformPanicked _ | .measuringPanicked _ => false

/-- May the consumer take this step? -/
def allowsConsumer (jobRun : JobRun ρ α β) : Executor.ConsumerAct β → Bool
  | .concluded result => result = jobRun.conclusion
  | .pulled | .consumed | .report | .finished | .deliver | .recordFailure | .closeQueue
  | .closed | .signal => true
  | .hookReturned | .hookPanicked _ | .consumeFailed _ | .consumePanicked _
  | .finishFailed _ | .finishPanicked _ | .concludePanicked _ => false

/-- May this step be taken, as far as callbacks and users are concerned? -/
def allows (jobRun : JobRun ρ α β) : Executor.Event ρ α β → Bool
  | .producer index act => jobRun.allowsProducer index act
  | .consumer act => jobRun.allowsConsumer act
  | .execute => jobRun.executor.executes.isEmpty
  | .executing _ (.readFlag raised) => !raised
  | .shutdown | .await => jobRun.hasReturned
  | .setFlag _ _ => false
  | _ => true

/-- What a step changes outside the executor: a source moves on, or an entry was
consumed. -/
def account (jobRun : JobRun ρ α β) : Executor.Event ρ α β → JobRun ρ α β
  | .producer index (.offered _) => { jobRun with left := jobRun.left.modify index List.tail }
  | .consumer .consumed =>
      match jobRun.executor.consumer.phase with
      | .consuming entry => { jobRun with consumed := entry :: jobRun.consumed }
      | _ => jobRun
  | _ => jobRun

/-- One step, or nothing if it is not possible at this point. -/
def step (jobRun : JobRun ρ α β) (event : Executor.Event ρ α β) : Option (JobRun ρ α β) :=
  if jobRun.allows event then
    (jobRun.executor.step event).map fun executor => { jobRun.account event with executor }
  else none

/-- A sequence of steps, each of which must be possible. -/
def run (jobRun : JobRun ρ α β) : List (Executor.Event ρ α β) → Option (JobRun ρ α β)
  | [] => some jobRun
  | event :: rest => (jobRun.step event).bind (·.run rest)

end JobRun

end BoundedIngest

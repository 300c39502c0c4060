/-
Module: BoundedIngest.Executor.Course
Purpose: One order of steps in which a job is done to its end.
Main exports:
  Course, Course.nextEvent?, Course.step?, Course.finish, Course.complete
-/
import BoundedIngest.Executor.Log
import BoundedIngest.Executor.Progress

namespace BoundedIngest

/-!
The caller goes first, then the consumer, then the producers in order, and the user
last, who shuts the executor down and waits for it, and does both once more when it
lets go of the executor.  As the consumer comes before the producers, hardly anything
is ever buffered.
-/

/-- A job being done, the order in which calls wait on its queue, and its log so far,
the newest event first. -/
structure Course (ρ α β : Type) where
  jobRun : JobRun ρ α β
  lines : WaitLines := {}
  log : List LogEvent := []

namespace Course

variable {ρ α β : Type}

def executor (course : Course ρ α β) : Executor ρ α β := course.jobRun.executor

def schedule (course : Course ρ α β) : Executor.Schedule ρ α β :=
  { executor := course.executor, lines := course.lines }

/-- The next step of the call that executes. -/
def callerEvent? (course : Course ρ α β) : Option (Executor.Event ρ α β) :=
  if course.executor.executes.isEmpty then some .execute
  else Executor.executeMove? course.executor 0 false false

/-- The next step of the consumer. -/
def consumerEvent? (course : Course ρ α β) : Option (Executor.Event ρ α β) :=
  match course.executor.consumer.phase with
  | .consuming _ => some (.consumer .consumed)
  | .finishing => some (.consumer .finished)
  | .concluding => some (.consumer (.concluded course.jobRun.conclusion))
  | _ => Executor.consumerMove? course.schedule course.jobRun.job.estimate

/-- The next step of a producer. -/
def producerEvent? (course : Course ρ α β) (index : Nat) : Option (Executor.Event ρ α β) :=
  match course.executor.producers[index]? with
  | some { phase := .sourcing _, .. } =>
      match course.jobRun.nextRecord? index with
      | some record => some (.producer index (.offered record))
      | none => some (.producer index .sourceEnded)
  | some { phase := .transforming record, .. } =>
      some (.producer index (.transformed (course.jobRun.job.transform record)))
  | _ => Executor.producerMove? course.schedule course.jobRun.job.estimate index

/-- The next step of a call that the user has begun. -/
def begunEvent? (course : Course ρ α β) : Option (Executor.Event ρ α β) :=
  (List.range course.executor.shutdowns.length).findSome?
    (Executor.shutdownMove? course.schedule course.jobRun.job.estimate) <|>
  (List.range course.executor.awaits.length).findSome? (Executor.awaitMove? course.executor)

/-- What the user does when nothing it has begun is left to do. -/
def userEvent? (course : Course ρ α β) : Option (Executor.Event ρ α β) :=
  if course.jobRun.hasReturned then
    match course.executor.shutdowns.length + course.executor.awaits.length with
    | 0 | 2 => some .shutdown
    | 1 | 3 => some .await
    | _ => none
  else none

/-- The next step of the first thread that can take one. -/
def nextEvent? (course : Course ρ α β) : Option (Executor.Event ρ α β) :=
  course.callerEvent? <|> course.consumerEvent? <|>
  ((List.range course.executor.producers.length).findSome? course.producerEvent?) <|>
  course.begunEvent? <|> course.userEvent?

variable [DecidableEq ρ] [DecidableEq α] [DecidableEq β]

/-- Take the next step, and write to the log what it says. -/
def step? (course : Course ρ α β) : Option (Course ρ α β) := do
  let event ← course.nextEvent?
  let jobRun ← course.jobRun.step event
  pure
    { jobRun
      lines := (course.lines.update jobRun.executor.shared
        (course.schedule.callerOf event)).1
      log := (course.jobRun.logged event).reverse ++ course.log }

/-- Take at most `fuel` steps. -/
def finish (course : Course ρ α β) : Nat → Course ρ α β
  | 0 => course
  | fuel + 1 =>
      match course.step? with
      | some next => next.finish fuel
      | none => course

/-- More steps than a job takes: fewer than 20 for each record, and as many for each
worker and each call of the user. -/
def stepLimit (job : Job ρ α β) : Nat :=
  20 * ((job.sources.map fun source => source.records.length + 1).foldl (· + ·) 8)

/-- A job from its start to its end. -/
def complete (jobRun : JobRun ρ α β) : Course ρ α β :=
  { jobRun : Course ρ α β }.finish (stepLimit jobRun.job)

end Course

end BoundedIngest

/-
Module: BoundedIngest.Failure.Basic
Purpose: The ways in which a worker, a producer or a whole execution can fail.
Main exports:
  Role, Panic, WorkerError, Attempt, contain, Halt, ErrorKind, ExecError
-/

namespace BoundedIngest

/-- The part a worker plays in an execution. -/
inductive Role where
  | producer (index : Nat)
  | consumer
deriving Repr, DecidableEq

/-- How a role is named in messages. -/
def Role.name : Role → String
  | .producer index => "producer-" ++ toString index
  | .consumer => "consumer"

/-- What a panicking callback carries: a text, or a value without one. -/
inductive Panic where
  | text (message : String)
  | other
deriving Repr, DecidableEq

/-- The text of a panic. -/
def Panic.message : Panic → String
  | .text message => message
  | .other => "<non-string panic payload>"

/-- The parts of a worker within which a panic is caught. -/
inductive Stage where
  | preExecute
  | produce
  | transform
  | consume
deriving Repr, DecidableEq

def Stage.name : Stage → String
  | .preExecute => "pre_execute"
  | .produce => "produce"
  | .transform => "transform"
  | .consume => "consume"

/-- Why a worker failed.  A callback's own error is known by its text. -/
inductive WorkerError where
  | source (reason : String)
  | transform (reason : String)
  | consume (reason : String)
  | finish (reason : String)
  | panicked (stage message : String)
  /-- The queue was closed before the consumer had seen all of it. -/
  | interrupted
deriving Repr, DecidableEq

/-- How a callback ends. -/
inductive Attempt (α : Type) where
  | returned (value : α)
  | panicked (panic : Panic)
deriving Repr, DecidableEq

/-- The result of a callback run within the stage of the given name, and the number of
panics contained so far, to which a panic adds one. -/
def contain {α : Type} (stage : String) (panics : Nat) :
    Attempt α → Except WorkerError α × Nat
  | .returned value => (.ok value, panics)
  | .panicked panic => (.error (.panicked stage panic.message), panics + 1)

/-- A callback that panics within a stage: the failure that is left of it, and the number
of panics contained so far. -/
def containPanic (stage : Stage) (panics : Nat) (panic : Panic) : WorkerError × Nat :=
  match contain stage.name panics (.panicked panic : Attempt Empty) with
  | (.error error, panics) => (error, panics)

namespace WorkerError

/-- The failure that a caught panic becomes. -/
def ofPanic (stage : Stage) (panic : Panic) : WorkerError := (containPanic stage 0 panic).1

theorem ofPanic_eq (stage : Stage) (panic : Panic) :
    ofPanic stage panic = .panicked stage.name panic.message := rfl

def message : WorkerError → String
  | .source reason => "source failed: " ++ reason
  | .transform reason => "transform failed: " ++ reason
  | .consume reason => "consumer failed on record: " ++ reason
  | .finish reason => "consumer failed to finish: " ++ reason
  | .panicked stage text => "panic in stage '" ++ stage ++ "': " ++ text
  | .interrupted => "worker interrupted before the queue drained"

/-- The texts of the underlying causes, outermost first. -/
def causes : WorkerError → List String
  | .source reason | .transform reason | .consume reason | .finish reason => [reason]
  | .panicked .. | .interrupted => []

end WorkerError

/-- Text of the error of a thread whose interrupt flag is raised. -/
def interruptedMessage : String := "thread interrupted"

/-- Text of the error of an insert that a queue refuses. -/
def queueClosedMessage : String := "Queue closed"

/-- Why a producer must stop pushing records. -/
inductive Halt where
  /-- The queue is closed or the worker is interrupted: normal during shutdown. -/
  | cancelled
  | failed (error : WorkerError)
deriving Repr, DecidableEq

namespace Halt

def message : Halt → String
  | .cancelled => "producer cancelled"
  | .failed error => error.message

def causes : Halt → List String
  | .cancelled => []
  | .failed error => error.causes

end Halt

/-- Whose fault a failed execution is. -/
inductive ErrorKind where
  | cancelled
  | callback
  | misuse
  | internalBug
deriving Repr, DecidableEq

def ErrorKind.name : ErrorKind → String
  | .cancelled => "Cancelled"
  | .callback => "Callback"
  | .misuse => "Misuse"
  | .internalBug => "InternalBug"

/-- Why an execution has no result. -/
inductive ExecError where
  /-- The calling thread was interrupted. -/
  | aborted
  | failed (role : Role) (error : WorkerError)
  | alreadyStarted
  | spawn (reason : String)
deriving Repr, DecidableEq

namespace ExecError

def message : ExecError → String
  | .aborted => "Execution aborted: calling thread interrupted"
  | .failed role error => "Execution failed in " ++ role.name ++ ": " ++ error.message
  | .alreadyStarted => "Executor already started"
  | .spawn reason => "Failed to spawn worker thread: " ++ reason

def causes : ExecError → List String
  | .aborted => [interruptedMessage]
  | .failed _ error => error.message :: error.causes
  | .alreadyStarted => []
  | .spawn reason => [reason]

def kind : ExecError → ErrorKind
  | .aborted => .cancelled
  | .failed _ .interrupted => .cancelled
  | .failed _ (.panicked ..) => .internalBug
  | .failed .. => .callback
  | .alreadyStarted => .misuse
  | .spawn _ => .internalBug

/-- Did the execution end because somebody wanted it to? -/
def isCancelled (error : ExecError) : Bool := error.kind = .cancelled

end ExecError

end BoundedIngest

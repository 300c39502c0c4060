/-
Module: BoundedIngest.Callback.Basic
Purpose: What scripted callbacks do and what they leave in their log.
Main exports:
  CallbackAction, Note, PushStep, SourceItem
-/
import BoundedIngest.Failure.Basic

namespace BoundedIngest

/-- One action of a scripted callback. -/
inductive CallbackAction where
  | panic (payload : Panic)
  /-- Return an error; the actions that follow are skipped. -/
  | fail (reason : String)
  /-- Raise the flag of the own thread. -/
  | raiseOwnFlag
  /-- Look at the flag of the own thread and lower it. -/
  | takeOwnFlag
  | noteOwnFlag
  /-- Raise the flag of the thread that executes. -/
  | interruptCaller
  | shutdown
  | noteState
  | noteThread
  /-- A sleep that a raised flag ends. -/
  | sleep (milliseconds : Nat)
  /-- Wait until the queue has a length. -/
  | awaitLength (length : Nat)
  /-- Wait until the queue has the status of this name. -/
  | awaitStatus (name : String)
  /-- Wait until the script releases the callback. -/
  | park
  /-- Wait until some callback is parked. -/
  | awaitParked
  | nothing
deriving Repr, DecidableEq

/-- One entry of the log of a thread. -/
inductive Note where
  /-- The answer to a record pushed: the text of the halt, if there was one. -/
  | pushed (value : UInt64) (halt : Option String)
  | ownFlag (raised : Bool)
  | tookOwnFlag (raised : Bool)
  | state (lifecycle queue : String)
  | thread (name : String)
  /-- A sleep was not interrupted. -/
  | slept (undisturbed : Bool)
  | lengthReached (reached : Bool)
  | statusReached (reached : Bool)
deriving Repr, DecidableEq

/-- One item of a scripted source: a record, or actions in its place. -/
inductive SourceItem where
  | record (value : UInt64)
  | actions (actions : List CallbackAction)
deriving Repr, DecidableEq

/-- One step of a scripted pushing procedure. -/
inductive PushStep where
  /-- Push a record and pass a halt on. -/
  | push (value : UInt64)
  /-- Push a record, note the answer and go on. -/
  | tryPush (value : UInt64)
  /-- Push a record and turn a halt into an error of its own. -/
  | wrapPush (value : UInt64)
  /-- Push consecutive records, passing a halt on. -/
  | repeatPush (count : Nat) (first : UInt64)
  /-- End with a halt. -/
  | halt (answer : Halt)
  | actions (actions : List CallbackAction)
deriving Repr, DecidableEq

/-- A scripted producer. -/
inductive ScriptedProducer where
  | range (first : UInt64) (count : Nat)
  | endless (first : UInt64)
  /-- An iterator over records; actions in place of a record yield nothing. -/
  | items (items : List SourceItem)
  /-- An iterator over results; actions in place of a record yield an error. -/
  | results (items : List SourceItem)
  | steps (steps : List PushStep)
deriving Repr, DecidableEq

/-- The error of a result that is neither a record nor an error of its own. -/
def noRecordReason : String := "no record"

/-- The error with which a scripted procedure reports a halt as its own failure. -/
def wrappedReason (halt : Halt) : String := "wrapped: " ++ halt.message

end BoundedIngest

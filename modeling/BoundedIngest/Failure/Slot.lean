/-
Module: BoundedIngest.Failure.Slot
Purpose: The first failure of an execution.
Main exports:
  CapturedFailure, FailureSlot, FailureSlot.record
-/
import BoundedIngest.Failure.Basic

namespace BoundedIngest

/-- A failure together with the role of the worker it happened in. -/
structure CapturedFailure where
  role : Role
  error : WorkerError
deriving Repr, DecidableEq

/-- How the failure is reported to the caller. -/
def CapturedFailure.toExecError (failure : CapturedFailure) : ExecError :=
  .failed failure.role failure.error

/-- Holds the first failure recorded in it and keeps it. -/
structure FailureSlot where
  captured : Option CapturedFailure := none
deriving Repr, DecidableEq, Inhabited

namespace FailureSlot

/-- Record a failure.  The answer tells whether it is the one now held, in which case
whoever listens to the slot hears of it. -/
def record (slot : FailureSlot) (failure : CapturedFailure) : Bool × FailureSlot :=
  match slot.captured with
  | none => (true, { captured := some failure })
  | some _ => (false, slot)

def isSet (slot : FailureSlot) : Bool := slot.captured.isSome

def toExecError (slot : FailureSlot) : Option ExecError :=
  slot.captured.map CapturedFailure.toExecError

end FailureSlot

/-- What one use of a failure slot does. -/
inductive SlotAction where
  | record (failure : CapturedFailure)
  | isSet
  | get
  | toExecError
deriving Repr, DecidableEq

/-- What one use of a failure slot answers. -/
inductive SlotAnswer where
  | flag (value : Bool)
  | failure (value : Option CapturedFailure)
  | error (value : Option ExecError)
deriving Repr, DecidableEq

/-- A slot and what its listener, if it has one, has heard, in order. -/
structure ObservedSlot where
  slot : FailureSlot := {}
  listening : Bool
  heard : List CapturedFailure := []
deriving Repr, DecidableEq

namespace ObservedSlot

/-- The listener hears exactly the failure that sets the slot. -/
def perform (observed : ObservedSlot) : SlotAction → SlotAnswer × ObservedSlot
  | .record failure =>
      let (first, slot) := observed.slot.record failure
      let heard :=
        if first && observed.listening then observed.heard ++ [failure] else observed.heard
      (.flag first, { observed with slot, heard })
  | .isSet => (.flag observed.slot.isSet, observed)
  | .get => (.failure observed.slot.captured, observed)
  | .toExecError => (.error observed.slot.toExecError, observed)

end ObservedSlot

end BoundedIngest

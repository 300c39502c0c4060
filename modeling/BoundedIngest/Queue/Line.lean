/-
Module: BoundedIngest.Queue.Line
Purpose: The order in which calls wait on a queue.
Main exports:
  WaitLines, WaitLines.update
-/
import BoundedIngest.Queue.Shared

namespace BoundedIngest

/-- The calls that wait for room and those that wait for an entry, the longest waiting
first. -/
structure WaitLines where
  room : List Nat := []
  entry : List Nat := []
deriving Repr, DecidableEq, Inhabited

namespace WaitLines

/-- Bring one line up to date after a step of `caller`: those no longer waiting leave
it, and the caller joins at the back if it waits now.  The second part of the answer are
those that left. -/
def updateLine (line : List Nat) (waits : Nat → Bool) (caller : Nat) :
    List Nat × List Nat :=
  let (staying, leaving) := line.partition waits
  let joined := if waits caller && !line.contains caller then staying ++ [caller] else staying
  (joined, leaving)

/-- Does the call at a position pass a test? -/
def callIs {α : Type} (shared : SharedQueue α) (test : Call α → Bool) (caller : Nat) : Bool :=
  match shared.calls[caller]? with
  | some call => test call
  | none => false

/-- Bring both lines up to date after a step of `caller`.  The second part of the answer
are the calls that were notified, in the order in which they waited. -/
def update {α : Type} (lines : WaitLines) (shared : SharedQueue α) (caller : Nat) :
    WaitLines × List Nat :=
  let (entry, forEntry) := updateLine lines.entry (callIs shared Call.isAwaitingEntry) caller
  let (room, forRoom) := updateLine lines.room (callIs shared Call.isAwaitingRoom) caller
  ({ room, entry }, forEntry ++ forRoom)

end WaitLines

namespace SharedQueue

/-- What a call does next of its own accord, if it neither waits nor has returned.  A
notification of one waiter goes to the one that has waited longest, and `estimate` is
the size that an entry is measured to have. -/
def nextEvent? {α : Type} (shared : SharedQueue α) (lines : WaitLines)
    (estimate : α → UInt64) (caller : Nat) : Option (Event α) :=
  match shared.calls[caller]? with
  | some (.measuring entry) => some (.measured caller (estimate entry))
  | some (.inserting ..) | some (.retryingInsert _) | some .pulling | some .retryingPull =>
      some (.enter caller)
  | some (.pushed ..) => some (.notify caller lines.entry.head?)
  | some (.pulled ..) => some (.notify caller lines.room.head?)
  | some .closedRoom | some .closedEntries => some (.notify caller none)
  | some (.reportingPush ..) | some (.reportingPull ..) => some (.report caller)
  | _ => none

end SharedQueue

end BoundedIngest

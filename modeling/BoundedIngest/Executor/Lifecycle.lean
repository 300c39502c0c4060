/-
Module: BoundedIngest.Executor.Lifecycle
Purpose: The state of an executor as its users see it.
Main exports:
  Lifecycle, Lifecycle.settle, Lifecycle.shutDown, Lifecycle.afterJoining
-/

namespace BoundedIngest

inductive Lifecycle where
  | created
  | running
  | completed
  | failed
  | cancelled
  /-- Every worker has been joined. -/
  | terminated
deriving Repr, DecidableEq

namespace Lifecycle

def name : Lifecycle → String
  | .created => "CREATED"
  | .running => "RUNNING"
  | .completed => "COMPLETED"
  | .failed => "FAILED"
  | .cancelled => "CANCELLED"
  | .terminated => "TERMINATED"

/-- An execution moves on to `next`, unless everything is over already. -/
def settle (current next : Lifecycle) : Lifecycle :=
  if current = .terminated then .terminated else next

/-- A shutdown cancels what runs. -/
def shutDown (current : Lifecycle) : Lifecycle :=
  if current = .running then .cancelled else current

/-- Is everything over once `joined` workers were joined?  While an execution runs and
nobody was joined, workers may still be starting. -/
def reachesTerminated (current : Lifecycle) (joined : Nat) : Bool :=
  match current with
  | .created => false
  | .running => 0 < joined
  | .completed | .failed | .cancelled | .terminated => true

/-- After `joined` workers were joined. -/
def afterJoining (current : Lifecycle) (joined : Nat) : Lifecycle :=
  if current.reachesTerminated joined then .terminated else current

end Lifecycle

end BoundedIngest

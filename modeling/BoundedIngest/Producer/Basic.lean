/-
Module: BoundedIngest.Producer.Basic
Purpose: The three ways to feed records to a sink: an iterator over records, an iterator
  over results, and a procedure that pushes.
Main exports:
  Pulled, ProduceOutcome, drainRecords, drainResults, Pushing, Pushing.run,
  Pushing.ofRecords
-/
import BoundedIngest.Failure.Basic

namespace BoundedIngest.Producer

/-!
A sink takes one record at a time and either accepts it or answers with a halt.  It is
a function of the state of the world `ω`, in which it may leave traces, and so is each
pull of an iterator, whose own position `τ` is carried from one production to the next.
-/

/-- How a sink treats a record; no halt means that it was accepted. -/
abbrev Sink (ω ρ : Type) := ω → ρ → Option Halt × ω

/-- What one pull of an iterator gives. -/
inductive Pulled (ι : Type) where
  | item (value : ι)
  | exhausted
  | panicked (panic : Panic)
deriving Repr, DecidableEq

/-- An iterator: each pull may change its position and the world. -/
abbrev Iteration (τ ω ι : Type) := τ → ω → Pulled ι × τ × ω

/-- How one production ends. -/
inductive ProduceOutcome where
  | completed
  | halted (halt : Halt)
  | panicked (panic : Panic)
deriving Repr, DecidableEq

section Pull

variable {τ ω ρ : Type}

/-- Offer all records of an iterator until the sink halts, in at most `fuel` pulls.  The
record on which the sink halts counts as pulled. -/
def drainRecords (pull : Iteration τ ω ρ) (accept : Sink ω ρ) :
    Nat → τ → ω → Option (ProduceOutcome × τ × ω)
  | 0, _, _ => none
  | fuel + 1, position, world =>
      match pull position world with
      | (.exhausted, position, world) => some (.completed, position, world)
      | (.panicked panic, position, world) => some (.panicked panic, position, world)
      | (.item record, position, world) =>
          match accept world record with
          | (none, world) => drainRecords pull accept fuel position world
          | (some halt, world) => some (.halted halt, position, world)

/-- Offer the records of an iterator over results until the sink halts or the iterator
yields an error, which is a failure of the source. -/
def drainResults (pull : Iteration τ ω (Except String ρ)) (accept : Sink ω ρ) :
    Nat → τ → ω → Option (ProduceOutcome × τ × ω)
  | 0, _, _ => none
  | fuel + 1, position, world =>
      match pull position world with
      | (.exhausted, position, world) => some (.completed, position, world)
      | (.panicked panic, position, world) => some (.panicked panic, position, world)
      | (.item (.error reason), position, world) =>
          some (.halted (.failed (.source reason)), position, world)
      | (.item (.ok record), position, world) =>
          match accept world record with
          | (none, world) => drainResults pull accept fuel position world
          | (some halt, world) => some (.halted halt, position, world)

end Pull

/-- The error with which a pushing procedure ends early.  A halt that the sink gave it
keeps its meaning when it is passed on. -/
inductive PushError where
  | halt (answer : Halt)
  | other (reason : String)
deriving Repr, DecidableEq

/-- The halt that an error of a pushing procedure stands for: any error that is not a
halt is a failure of the source. -/
def PushError.toHalt : PushError → Halt
  | .halt answer => answer
  | .other reason => .failed (.source reason)

/-- A procedure that pushes records and may act on the answers of the sink as it
likes. -/
inductive Pushing (ω ρ : Type) where
  | finish
  | fail (error : PushError)
  | panic (payload : Panic)
  /-- Leave a trace in the world. -/
  | change (effect : ω → ω) (next : Pushing ω ρ)
  /-- Offer a record and go on according to the answer. -/
  | push (record : ρ) (next : Option Halt → Pushing ω ρ)

namespace Pushing

variable {ω ρ : Type}

def run (accept : Sink ω ρ) : Pushing ω ρ → ω → ProduceOutcome × ω
  | .finish, world => (.completed, world)
  | .fail error, world => (.halted error.toHalt, world)
  | .panic payload, world => (.panicked payload, world)
  | .change effect next, world => next.run accept (effect world)
  | .push record next, world =>
      let (answer, world) := accept world record
      (next answer).run accept world

/-- Push one record and pass a halt on. -/
def pushOrFail (record : ρ) (next : Pushing ω ρ) : Pushing ω ρ :=
  .push record fun
    | none => next
    | some halt => .fail (.halt halt)

/-- Push records in order, passing the first halt on. -/
def ofRecords : List ρ → Pushing ω ρ
  | [] => .finish
  | record :: rest => pushOrFail record (ofRecords rest)

end Pushing

/-!
Iterators over given sequences.
-/

/-- An iterator over a list, whose position is what is left of the list. -/
def ofList {ω ι : Type} : Iteration (List ι) ω ι
  | [], world => (.exhausted, [], world)
  | item :: rest, world => (.item item, rest, world)

/-- An iterator over a finite or endless sequence, whose position is the number of
items pulled.  The sequence has ended where it has no item. -/
def ofSequence {ω ι : Type} (sequence : Nat → Option ι) : Iteration Nat ω ι :=
  fun position world =>
    match sequence position with
    | some item => (.item item, position + 1, world)
    | none => (.exhausted, position, world)

end BoundedIngest.Producer

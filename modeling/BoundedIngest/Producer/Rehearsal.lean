/-
Module: BoundedIngest.Producer.Rehearsal
Purpose: A scripted producer run against a sink that halts on given records.
Main exports:
  Rehearsal.World, Rehearsal.Report, rehearse
-/
import BoundedIngest.Producer.Basic
import BoundedIngest.Callback.Basic

namespace BoundedIngest

open Producer

namespace Rehearsal

/-- What a rehearsal leaves behind: the records accepted in the current production, the
flag of the thread and its log. -/
structure World where
  accepted : Array UInt64 := #[]
  flag : Bool := false
  log : Array Note := #[]
deriving Repr, DecidableEq, Inhabited

namespace World

def note (world : World) (entry : Note) : World := { world with log := world.log.push entry }

/-- The effect of an action that neither panics nor fails.  Without an executor there is
nothing to shut down, to observe or to wait for. -/
def effect (action : CallbackAction) (world : World) : World :=
  match action with
  | .raiseOwnFlag => { world with flag := true }
  | .takeOwnFlag => { world.note (.tookOwnFlag world.flag) with flag := false }
  | .noteOwnFlag => world.note (.ownFlag world.flag)
  | .sleep _ => world.note (.slept (!world.flag))
  | _ => world

end World

/-- The sink halts on the records it was told to halt on and accepts all others. -/
def accept (halts : List (UInt64 × Halt)) : Sink World UInt64 := fun world record =>
  match halts.lookup record with
  | some halt => (some halt, world)
  | none => (none, { world with accepted := world.accepted.push record })

/-- How a list of actions ends: with an error or a panic, or with neither. -/
def perform : List CallbackAction → World → Option (Except Panic String) × World
  | [], world => (none, world)
  | .panic payload :: _, world => (some (.error payload), world)
  | .fail reason :: _, world => (some (.ok reason), world)
  | action :: rest, world => perform rest (world.effect action)

/-- Pull from an iterator over records: actions yield nothing and their errors are
dropped. -/
def pullRecord : Iteration (List SourceItem) World UInt64
  | [], world => (.exhausted, [], world)
  | .record value :: rest, world => (.item value, rest, world)
  | .actions actions :: rest, world =>
      match perform actions world with
      | (some (.error payload), world) => (.panicked payload, rest, world)
      | (_, world) => pullRecord rest world

/-- Pull from an iterator over results: actions yield their error, or the error that
there is no record. -/
def pullResult : Iteration (List SourceItem) World (Except String UInt64)
  | [], world => (.exhausted, [], world)
  | .record value :: rest, world => (.item (.ok value), rest, world)
  | .actions actions :: rest, world =>
      match perform actions world with
      | (some (.error payload), world) => (.panicked payload, rest, world)
      | (some (.ok reason), world) => (.item (.error reason), rest, world)
      | (none, world) => (.item (.error noRecordReason), rest, world)

/-- The records from `first` on, as many as `count` says, or endlessly many. -/
def consecutive (first : UInt64) (count : Option Nat) (position : Nat) : Option UInt64 :=
  let value := first + UInt64.ofNat position
  match count with
  | none => some value
  | some count => if position < count then some value else none

/-- Perform actions and then go on. -/
def actionsThen (next : Pushing World UInt64) : List CallbackAction → Pushing World UInt64
  | [] => next
  | .panic payload :: _ => .panic payload
  | .fail reason :: _ => .fail (.other reason)
  | action :: rest => .change (World.effect action) (actionsThen next rest)

/-- Push consecutive records and then go on. -/
def repeatThen (next : Pushing World UInt64) : Nat → UInt64 → Pushing World UInt64
  | 0, _ => next
  | count + 1, value =>
      .push value fun
        | none => repeatThen next count (value + 1)
        | some halt => .fail (.halt halt)

/-- The procedure that a list of steps stands for. -/
def pushing : List PushStep → Pushing World UInt64
  | [] => .finish
  | .push value :: rest => .pushOrFail value (pushing rest)
  | .tryPush value :: rest =>
      .push value fun answer =>
        .change (·.note (.pushed value (answer.map Halt.message))) (pushing rest)
  | .wrapPush value :: rest =>
      .push value fun
        | none => pushing rest
        | some halt => .fail (.other (wrappedReason halt))
  | .repeatPush count first :: rest => repeatThen (pushing rest) count first
  | .halt answer :: _ => .fail (.halt answer)
  | .actions actions :: rest => actionsThen (pushing rest) actions

/-- What was seen of one production. -/
structure Production where
  outcome : ProduceOutcome
  accepted : List UInt64
deriving Repr, DecidableEq

/-- What is left of a producer between two productions. -/
inductive Position where
  | counted (position : Nat)
  | left (items : List SourceItem)
deriving Repr, DecidableEq

/-- More pulls than any rehearsal takes. -/
def pullLimit : Nat := UInt64.size

def Position.start : ScriptedProducer → Position
  | .items items | .results items => .left items
  | _ => .counted 0

def Position.count : Position → Nat
  | .counted position => position
  | .left _ => 0

def Position.items : Position → List SourceItem
  | .counted _ => []
  | .left items => items

/-- One production, from where the last one stopped.  A pushing procedure starts from
its beginning each time. -/
def produce (producer : ScriptedProducer) (halts : List (UInt64 × Halt))
    (position : Position) (world : World) : ProduceOutcome × Position × World :=
  let counting := fun (sequence : Nat → Option UInt64) =>
    match drainRecords (ofSequence sequence) (accept halts) pullLimit position.count world with
    | some (outcome, count, world) => (outcome, .counted count, world)
    | none => (.completed, position, world)
  match producer with
  | .range first count => counting (consecutive first (some count))
  | .endless first => counting (consecutive first none)
  | .items _ =>
      match drainRecords pullRecord (accept halts) pullLimit position.items world with
      | some (outcome, items, world) => (outcome, .left items, world)
      | none => (.completed, position, world)
  | .results _ =>
      match drainResults pullResult (accept halts) pullLimit position.items world with
      | some (outcome, items, world) => (outcome, .left items, world)
      | none => (.completed, position, world)
  | .steps steps =>
      let (outcome, world) := (pushing steps).run (accept halts) world
      (outcome, position, world)

/-- Productions one after the other, each with an empty list of accepted records. -/
def productions (producer : ScriptedProducer) (halts : List (UInt64 × Halt)) :
    Nat → Position → World → List Production × World
  | 0, _, world => ([], world)
  | calls + 1, position, world =>
      let (outcome, position, world) :=
        produce producer halts position { world with accepted := #[] }
      let production := { outcome, accepted := world.accepted.toList }
      let (others, final) := productions producer halts calls position world
      (production :: others, final)

end Rehearsal

/-- Run a producer the given number of times; the answer holds each production and the
log of the thread. -/
def rehearse (producer : ScriptedProducer) (halts : List (UInt64 × Halt)) (calls : Nat) :
    List Rehearsal.Production × List Note :=
  let (productions, world) :=
    Rehearsal.productions producer halts calls (.start producer) {}
  (productions, world.log.toList)

end BoundedIngest

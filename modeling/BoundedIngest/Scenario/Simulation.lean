/-
Module: BoundedIngest.Scenario.Simulation
Purpose: A scenario in the middle of being played: the executor, what is left of every
  script, and the time.
Main exports:
  SourceState, Pause, WorkerScript, UserPhase, Simulation
-/
import BoundedIngest.Executor.Progress
import BoundedIngest.Scenario.Basic

namespace BoundedIngest

/-- What a source will do next. -/
inductive SourceState where
  | counted (next : UInt64) (left : Option Nat)
  | items (left : List SourceItem)
  | results (left : List SourceItem)
  | steps (left : List PushStep)
deriving Repr, DecidableEq

def SourceState.start : ScriptedProducer → SourceState
  | .range first count => .counted first (some count)
  | .endless first => .counted first none
  | .items list => .items list
  | .results list => .results list
  | .steps list => .steps list

/-- What a pushing procedure does with the answer to a record. -/
inductive PushMode where
  | passOn
  | note (value : UInt64)
  | wrap
deriving Repr, DecidableEq

/-- Why a callback does not go on. -/
inductive Pause where
  | sleeping (wakeAt : Nat)
  /-- Looks again at `next`, and gives up after `deadline`. -/
  | polling (deadline next : Nat)
  | parked (since : Nat)
  | shuttingDown (call : Nat)
deriving Repr, DecidableEq

/-- How a scripted callback ends. -/
inductive CallbackEnd where
  | returned
  | failed (reason : String)
  | panicked (panic : Panic)
deriving Repr, DecidableEq

/-- The callbacks of one worker. -/
structure WorkerScript where
  /-- What is left of the callback that runs. -/
  callback : Option (List CallbackAction) := none
  pause : Option Pause := none
  source : SourceState := .items []
  /-- A record was pushed, and its answer is still to be dealt with. -/
  pushed : Option PushMode := none
  log : Array Note := #[]
deriving Repr, DecidableEq, Inhabited

/-- Why the user waits for termination. -/
inductive AwaitPurpose where
  | plain
  | drop
  | final
deriving Repr, DecidableEq

/-- What the user is doing. -/
inductive UserPhase where
  | ready
  | executing (call : Nat)
  | joining (call : Nat)
  | shuttingDown (call : Nat) (next : Option AwaitPurpose)
  | awaiting (call : Nat) (purpose : AwaitPurpose)
  | polling (next : Nat)
  | finished
deriving Repr, DecidableEq

/-- A call that executes: on which thread, and until when it waits for a signal. -/
structure Caller where
  started : Bool
  deadline : Nat := 0
deriving Repr, DecidableEq

structure Simulation where
  estimator : Estimator
  consumer : ConsumerScript
  transform : TransformScript
  hook : Option HookScript
  schedule : Executor.Schedule Entry Entry (List Entry)
  /-- Time in microseconds. -/
  clock : Nat := 0
  workers : List WorkerScript
  callers : List Caller := []
  user : UserPhase := .ready
  actions : List Scenario.Action
  answers : Array Scenario.Answer := #[]
  /-- The flag of the thread of the user. -/
  ownFlag : Bool := false
  /-- The flag of the thread that was started, if there is one. -/
  startedFlag : Option Bool := none
  /-- The call that a join waits for. -/
  joinable : Option Nat := none
  dropped : Bool := false
  /-- Nobody is parked any more. -/
  gateOpen : Bool := false
  received : Nat := 0
  consumed : Array Entry := #[]
  finishCalls : Nat := 0
  resultCalls : Nat := 0
  hooks : List String := []

namespace Simulation

/-- How long a poll lasts. -/
def pollLength : Nat := 1000

def executor (sim : Simulation) : Executor Entry Entry (List Entry) := sim.schedule.executor

/-- Take a step of the executor, if it is possible. -/
def fire? (sim : Simulation) (event : Executor.Event Entry Entry (List Entry)) :
    Option Simulation :=
  (sim.schedule.follow? event).map fun schedule => { sim with schedule }

/-- Take a step of the executor that is known to be possible. -/
def fire (sim : Simulation) (event : Executor.Event Entry Entry (List Entry)) : Simulation :=
  (sim.fire? event).getD sim

def modifyWorker (sim : Simulation) (worker : Nat) (change : WorkerScript → WorkerScript) :
    Simulation :=
  { sim with workers := sim.workers.modify worker change }

def note (sim : Simulation) (worker : Nat) (entry : Note) : Simulation :=
  sim.modifyWorker worker fun script => { script with log := script.log.push entry }

def flagOf (sim : Simulation) (worker : Nat) : Bool :=
  match sim.executor.producers[worker]? with
  | some producer => producer.flag
  | none => sim.executor.consumer.flag

/-- Raise the flag of the thread that executes. -/
def interruptCaller (sim : Simulation) : Simulation :=
  match sim.startedFlag with
  | some _ => { sim with startedFlag := some true }
  | none => { sim with ownFlag := true }

/-- The flag of the thread that executes. -/
def callerFlag (sim : Simulation) : Bool := sim.startedFlag.getD sim.ownFlag

def lowerCallerFlag (sim : Simulation) : Simulation :=
  match sim.startedFlag with
  | some _ => { sim with startedFlag := some false }
  | none => { sim with ownFlag := false }

def isParked (script : WorkerScript) : Bool :=
  match script.pause with
  | some (.parked _) => true
  | _ => false

def anyParked (sim : Simulation) : Bool := sim.workers.any isParked

end Simulation

end BoundedIngest

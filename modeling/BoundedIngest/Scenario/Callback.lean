/-
Module: BoundedIngest.Scenario.Callback
Purpose: Scripted callbacks while they run, one action after the other.
Main exports:
  Simulation.stepCallback?, Simulation.runCallback?, Simulation.runHook?
-/
import BoundedIngest.Scenario.Simulation

namespace BoundedIngest

namespace Simulation

/-- How long a callback polls at most. -/
def pollLimit : Nat := 5000000

/-- A callback goes on with its next action. -/
def advance (sim : Simulation) (worker : Nat) : Simulation :=
  sim.modifyWorker worker fun script =>
    { script with callback := script.callback.map List.tail, pause := none }

def pauseWith (sim : Simulation) (worker : Nat) (pause : Pause) : Simulation :=
  sim.modifyWorker worker fun script => { script with pause := some pause }

/-- Let the callback of a worker begin. -/
def begin (sim : Simulation) (worker : Nat) (actions : List CallbackAction) : Simulation :=
  sim.modifyWorker worker fun script => { script with callback := some actions, pause := none }

/-- Does what an action waits for hold? -/
def holds (sim : Simulation) : CallbackAction → Bool
  | .awaitLength length => sim.executor.shared.queue.buffer.length = length
  | .awaitStatus name => sim.executor.shared.queue.status.name = name
  | .awaitParked => sim.anyParked
  | _ => true

/-- What is noted when an action has stopped to wait. -/
def noteWaited (sim : Simulation) (worker : Nat) (reached : Bool) : CallbackAction → Simulation
  | .awaitLength _ => sim.note worker (.lengthReached reached)
  | .awaitStatus _ => sim.note worker (.statusReached reached)
  | _ => sim

/-- An action that waits looks whether it can go on. -/
def poll (sim : Simulation) (worker : Nat) (action : CallbackAction) (deadline : Nat) :
    Simulation :=
  if sim.holds action then (sim.noteWaited worker true action).advance worker
  else if deadline ≤ sim.clock then (sim.noteWaited worker false action).advance worker
  else sim.pauseWith worker (.polling deadline (sim.clock + pollLength))

/-- A paused callback, if it can go on. -/
def resume? (sim : Simulation) (worker : Nat) (action : CallbackAction) :
    Pause → Option Simulation
  | .sleeping wakeAt =>
      if sim.flagOf worker then some ((sim.note worker (.slept false)).advance worker)
      else if wakeAt ≤ sim.clock then some ((sim.note worker (.slept true)).advance worker)
      else none
  | .polling deadline next =>
      if next ≤ sim.clock then some (sim.poll worker action deadline) else none
  | .parked _ => if sim.gateOpen then some (sim.advance worker) else none
  | .shuttingDown call =>
      if sim.executor.shutdowns[call]? = some .returned then some (sim.advance worker) else none

/-- An action that neither panics nor fails begins, and many are done at once. -/
def perform (sim : Simulation) (worker : Nat) (action : CallbackAction) : Simulation :=
  match action with
  | .raiseOwnFlag => (sim.fire (.setFlag worker true)).advance worker
  | .takeOwnFlag =>
      ((sim.note worker (.tookOwnFlag (sim.flagOf worker))).fire
        (.setFlag worker false)).advance worker
  | .noteOwnFlag => (sim.note worker (.ownFlag (sim.flagOf worker))).advance worker
  | .interruptCaller => sim.interruptCaller.advance worker
  | .shutdown =>
      (sim.fire .shutdown).pauseWith worker (.shuttingDown sim.executor.shutdowns.length)
  | .noteState =>
      (sim.note worker (.state sim.executor.lifecycle.name
        sim.executor.shared.queue.status.name)).advance worker
  | .noteThread => (sim.note worker (.thread (sim.executor.workerName worker))).advance worker
  | .sleep milliseconds =>
      sim.pauseWith worker (.sleeping (sim.clock + 1000 * milliseconds))
  | .awaitLength _ | .awaitStatus _ | .awaitParked =>
      sim.poll worker action (sim.clock + pollLimit)
  | .park =>
      if sim.gateOpen then sim.advance worker else sim.pauseWith worker (.parked sim.clock)
  | .panic _ | .fail _ | .nothing => sim.advance worker

/-- One step of the callback that runs on a worker, and how it ended if it did. -/
def stepCallback? (sim : Simulation) (worker : Nat) :
    Option (Simulation × Option CallbackEnd) := do
  let script ← sim.workers[worker]?
  let actions ← script.callback
  let left := sim.modifyWorker worker fun script => { script with callback := none, pause := none }
  match actions, script.pause with
  | [], _ => pure (left, some .returned)
  | .panic payload :: _, _ => pure (left, some (.panicked payload))
  | .fail reason :: _, _ => pure (left, some (.failed reason))
  | action :: _, none => pure (sim.perform worker action, none)
  | action :: _, some pause => (sim.resume? worker action pause).map fun sim => (sim, none)

/-- One step of a callback: its beginning, one of its actions, or its end, which is
handed on. -/
def runCallback? (sim : Simulation) (worker : Nat) (start : Unit → Simulation)
    (finish : Simulation → CallbackEnd → Simulation) : Option Simulation :=
  match sim.workers[worker]?.bind WorkerScript.callback with
  | none => some (start ())
  | some _ =>
      (sim.stepCallback? worker).map fun
        | (sim, none) => sim
        | (sim, some ended) => finish sim ended

/-- The hook runs on a worker; its error is dropped. -/
def runHook? (sim : Simulation) (worker : Nat)
    (returned : Executor.Event Entry Entry (List Entry))
    (panicked : Panic → Executor.Event Entry Entry (List Entry)) : Option Simulation :=
  let name := sim.executor.workerName worker
  let actions :=
    match sim.hook with
    | some hook => hook.actionsOn name
    | none => []
  sim.runCallback? worker
    (fun _ => { sim with hooks := name :: sim.hooks }.begin worker actions)
    (fun sim ended =>
      match ended with
      | .panicked panic => sim.fire (panicked panic)
      | .returned | .failed _ => sim.fire returned)

end Simulation

end BoundedIngest

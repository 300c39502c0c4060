/-
Module: BoundedIngest.Scenario.User
Purpose: What the user of an executor does next, and the calls that execute it.
Main exports:
  Simulation.callerStep?, Simulation.userStep?
-/
import BoundedIngest.Scenario.Callback

namespace BoundedIngest

namespace Simulation

/-!
Calls on the executor.
-/

/-- How long a call that executes waits for a signal at a time. -/
def signalWait : Nat := 20000

def isWaitingCall (sim : Simulation) (call : Nat) : Bool :=
  match sim.executor.executes[call]? with
  | some .waiting => true
  | _ => false

def callerStep? (sim : Simulation) (call : Nat) : Option Simulation := do
  let caller ← sim.callers[call]?
  let raised := if caller.started then sim.startedFlag.getD false else sim.ownFlag
  let event ←
    Executor.executeMove? sim.executor call raised (decide (caller.deadline ≤ sim.clock))
  let stepped ← sim.fire? event
  if stepped.isWaitingCall call then
    let deadline := sim.clock + signalWait
    pure { stepped with
      callers := stepped.callers.modify call fun caller => { caller with deadline } }
  else pure stepped

/-- How a call that executes ended, if it did. -/
def ending? (sim : Simulation) (call : Nat) : Option Scenario.Answer :=
  match sim.executor.executes[call]? with
  | some (.returned outcome) => some (.outcome outcome)
  | some (.panicked panic) => some (.panicked panic)
  | _ => none

/-!
The user.
-/

/-- The current action is done and has an answer. -/
def reply (sim : Simulation) (answer : Scenario.Answer) : Simulation :=
  { sim with
    user := .ready
    actions := sim.actions.tail
    answers := sim.answers.push answer }

def beginExecute (sim : Simulation) (started : Bool) : Simulation × Nat :=
  ({ sim.fire .execute with callers := sim.callers ++ [{ started }] },
    sim.executor.executes.length)

def beginShutdown (sim : Simulation) (next : Option AwaitPurpose) : Simulation :=
  { sim.fire .shutdown with user := .shuttingDown sim.executor.shutdowns.length next }

def beginAwait (sim : Simulation) (purpose : AwaitPurpose) : Simulation :=
  { sim.fire .await with user := .awaiting sim.executor.awaits.length purpose }

/-- Does what an action of the user waits for hold? -/
def userHolds (sim : Simulation) : Scenario.Action → Bool
  | .awaitLength length => sim.holds (.awaitLength length)
  | .awaitStatus name => sim.holds (.awaitStatus name)
  | .awaitParked => sim.anyParked
  | _ => true

def pollUser (sim : Simulation) (action : Scenario.Action) : Simulation :=
  if sim.userHolds action then sim.reply (.truth true)
  else { sim with user := .polling (sim.clock + pollLength) }

/-- The worker that has been parked longest. -/
def longestParked? (sim : Simulation) : Option Nat :=
  (sim.workers.zipIdx.foldl
    (fun best (script, worker) =>
      match script.pause, best with
      | some (.parked since), some (_, earliest) =>
          if since < earliest then some (worker, since) else best
      | some (.parked since), none => some (worker, since)
      | _, _ => best)
    (none : Option (Nat × Nat))).map Prod.fst

def release (sim : Simulation) : Simulation :=
  match sim.longestParked? with
  | some worker => sim.advance worker
  | none => sim

/-- The user begins an action. -/
def beginAction (sim : Simulation) (action : Scenario.Action) : Simulation :=
  let executor := sim.executor
  match action with
  | .execute =>
      let (sim, call) := sim.beginExecute false
      { sim with user := .executing call }
  | .start =>
      let (begun, call) := { sim with startedFlag := some false }.beginExecute true
      { begun with joinable := some call }.reply .nothing
  | .join =>
      match sim.joinable with
      | none => sim.reply .nothing
      | some call => { sim with joinable := none, user := .joining call }
  | .shutdown => sim.beginShutdown none
  | .await => sim.beginAwait .plain
  | .lifecycle => sim.reply (.lifecycle executor.lifecycle)
  | .remaining => sim.reply (.truth executor.shared.queue.hasRemaining)
  | .names => sim.reply (.names executor.workerNames)
  | .config => sim.reply (.config executor.config)
  | .queue => sim.reply (.queue (.of executor.shared.queue))
  | .interruptCaller => sim.interruptCaller.reply .nothing
  | .isInterrupted => sim.reply (.truth sim.callerFlag)
  | .takeFlag => sim.lowerCallerFlag.reply (.truth sim.callerFlag)
  | .awaitLength _ | .awaitStatus _ | .awaitParked => sim.pollUser action
  | .release => sim.release.reply .nothing
  | .drop => sim.beginShutdown (some .drop)
  | .unknown => sim.reply .unknown

/-- After the last action nobody stays parked, and the executor is shut down. -/
def beginEnd (sim : Simulation) : Simulation :=
  let opened := { sim with gateOpen := true }
  if sim.dropped then { opened with user := .finished }
  else opened.beginShutdown (some .final)

def userStep? (sim : Simulation) : Option Simulation :=
  match sim.user with
  | .finished => none
  | .ready =>
      match sim.actions with
      | [] => some sim.beginEnd
      | action :: _ =>
          some (if sim.dropped then sim.reply .dropped else sim.beginAction action)
  | .executing call | .joining call => (sim.ending? call).map sim.reply
  | .shuttingDown call next =>
      if sim.executor.shutdowns[call]? = some .returned then
        some (match next with
          | none => sim.reply .nothing
          | some purpose => sim.beginAwait purpose)
      else none
  | .awaiting call purpose =>
      if sim.executor.awaits[call]? = some .returned then
        some (match purpose with
          | .plain => sim.reply .nothing
          | .drop => { sim with dropped := true }.reply .nothing
          | .final => { sim with user := .finished })
      else none
  | .polling next =>
      if next ≤ sim.clock then sim.actions.head?.map sim.pollUser else none

end Simulation

end BoundedIngest

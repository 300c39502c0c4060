/-
Module: BoundedIngest.Scenario.Play
Purpose: One schedule of a scenario: all threads take turns while a clock moves on.
Main exports:
  Simulation.round, Simulation.finish, Scenario.report
-/
import BoundedIngest.Scenario.User
import BoundedIngest.Scenario.Worker

namespace BoundedIngest

/-!
The simulation chooses, among all runs of an executor, the one in which every thread
that can take a step takes one in each round.  A round lasts a few microseconds; if no
thread can take a step, the clock moves on to the next moment at which one can.
-/

namespace Simulation

/-- Length of a round in microseconds. -/
def roundLength : Nat := 4

/-- A thread of the simulation. -/
inductive Thread where
  | caller (call : Nat)
  | user
  | producer (index : Nat)
  | consumer
  | shutdown (call : Nat)
  | await (call : Nat)
deriving Repr, DecidableEq

def threads (sim : Simulation) : List Thread :=
  (List.range sim.executor.executes.length).map Thread.caller ++ [.user] ++
  (List.range sim.executor.producers.length).map Thread.producer ++ [.consumer] ++
  (List.range sim.executor.shutdowns.length).map Thread.shutdown ++
  (List.range sim.executor.awaits.length).map Thread.await

/-- One step of a thread, if it can take one. -/
def step? (sim : Simulation) : Thread → Option Simulation
  | .caller call => sim.callerStep? call
  | .user => sim.userStep?
  | .producer index => sim.producerStep? index
  | .consumer => sim.consumerStep?
  | .shutdown call =>
      (Executor.shutdownMove? sim.schedule sim.estimator.estimate call).bind sim.fire?
  | .await call => (Executor.awaitMove? sim.executor call).bind sim.fire?

/-- Every thread that can take a step takes one; the second part tells whether any
could. -/
def round (sim : Simulation) : Simulation × Bool :=
  sim.threads.foldl
    (fun (sim, moved) thread =>
      match sim.step? thread with
      | some stepped => (stepped, true)
      | none => (sim, moved))
    (sim, false)

/-- The moments at which something can go on by itself. -/
def timers (sim : Simulation) : List Nat :=
  let ofPause : Pause → Option Nat
    | .sleeping wakeAt => some wakeAt
    | .polling _ next => some next
    | .parked _ | .shuttingDown _ => none
  let ofUser :=
    match sim.user with
    | .polling next => [next]
    | _ => []
  (sim.workers.filterMap fun script => script.pause.bind ofPause) ++ ofUser ++
  (sim.callers.zipIdx.filterMap fun (caller, call) =>
    if sim.isWaitingCall call then some caller.deadline else none)

/-- Run rounds until nothing can happen any more, but at most `fuel` of them. -/
def finish (sim : Simulation) : Nat → Simulation
  | 0 => sim
  | fuel + 1 =>
      match sim.round with
      | (stepped, true) => { stepped with clock := stepped.clock + roundLength }.finish fuel
      | (stepped, false) =>
          match (stepped.timers.filter (stepped.clock < ·)).min? with
          | some clock => { stepped with clock }.finish fuel
          | none => stepped

/-- Rounds after which a scenario that still runs is given up. -/
def roundLimit : Nat := 20000000

def start (scenario : Scenario) (executor : Executor Entry Entry (List Entry))
    (consumer : ConsumerScript) (transform : TransformScript) : Simulation :=
  { estimator := scenario.estimator
    consumer, transform
    hook := scenario.hook
    schedule := { executor }
    workers :=
      (scenario.producers.map fun producer =>
        ({ source := .start producer } : WorkerScript)) ++ [{}]
    actions := scenario.actions }

/-- What is seen of a simulation. -/
def report (sim : Simulation) : Scenario.Report :=
  let executor := sim.executor
  { answers := sim.answers.toList
    final :=
      if sim.dropped then none
      else some (executor.lifecycle, executor.shared.queue.status)
    finishCalls := sim.finishCalls
    resultCalls := sim.resultCalls
    logs :=
      (sim.workers.zipIdx.filter fun (script, _) => !script.log.isEmpty).map
        fun (script, worker) => (executor.workerName worker, script.log.toList)
    hooks := sim.hooks.mergeSort fun first second => !(second < first : Bool)
    consumed := sim.consumed.toList
    metrics := executor.shared.metrics }

end Simulation

/-- Play a scenario, unless its executor cannot be built. -/
def Scenario.report (scenario : Scenario) : Except ConfigError Scenario.Report :=
  scenario.build.map fun (executor, consumer, transform) =>
    ((Simulation.start scenario executor consumer transform).finish
      Simulation.roundLimit).report

end BoundedIngest

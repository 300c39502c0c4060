/-
Module: BoundedIngest.Scenario.Worker
Purpose: What the workers of a scenario do next.
Main exports:
  Simulation.producerStep?, Simulation.consumerStep?
-/
import BoundedIngest.Scenario.Callback

namespace BoundedIngest

namespace Simulation

/-!
Producers.
-/

def setSource (sim : Simulation) (worker : Nat) (source : SourceState) : Simulation :=
  sim.modifyWorker worker fun script => { script with source }

def offer (sim : Simulation) (worker : Nat) (value : UInt64) : Simulation :=
  sim.fire (.producer worker (.offered { lane := worker, value }))

/-- A pushing procedure offers a record. -/
def push (sim : Simulation) (worker : Nat) (value : UInt64) (mode : PushMode) : Simulation :=
  (sim.modifyWorker worker fun script => { script with pushed := some mode }).offer worker value

/-- A source goes on with what comes next. -/
def stepSource (sim : Simulation) (worker : Nat) (source : SourceState) : Simulation :=
  let act (event : Executor.ProducerAct Entry Entry) := sim.fire (.producer worker event)
  match source with
  | .counted _ (some 0) => act .sourceEnded
  | .counted next left =>
      (sim.setSource worker (.counted (next + 1) (left.map (· - 1)))).offer worker next
  | .items [] | .results [] | .steps [] => act .sourceEnded
  | .items (.record value :: rest) => (sim.setSource worker (.items rest)).offer worker value
  | .items (.actions actions :: rest) =>
      (sim.setSource worker (.items rest)).begin worker actions
  | .results (.record value :: rest) =>
      (sim.setSource worker (.results rest)).offer worker value
  | .results (.actions actions :: rest) =>
      (sim.setSource worker (.results rest)).begin worker actions
  | .steps (.push value :: rest) =>
      (sim.setSource worker (.steps rest)).push worker value .passOn
  | .steps (.tryPush value :: rest) =>
      (sim.setSource worker (.steps rest)).push worker value (.note value)
  | .steps (.wrapPush value :: rest) =>
      (sim.setSource worker (.steps rest)).push worker value .wrap
  | .steps (.repeatPush 0 _ :: rest) => sim.setSource worker (.steps rest)
  | .steps (.repeatPush (count + 1) first :: rest) =>
      (sim.setSource worker (.steps (.repeatPush count (first + 1) :: rest))).push
        worker first .passOn
  | .steps (.halt answer :: _) => act (.sourceHalted answer)
  | .steps (.actions actions :: rest) =>
      (sim.setSource worker (.steps rest)).begin worker actions

/-- A pushing procedure deals with the answer to a record. -/
def dealWith (sim : Simulation) (worker : Nat) (answer : Option Halt) (mode : PushMode) :
    Simulation :=
  let sim := sim.modifyWorker worker fun script => { script with pushed := none }
  match mode, answer with
  | .passOn, some halt => sim.fire (.producer worker (.sourceHalted halt))
  | .wrap, some halt => sim.fire (.producer worker (.sourceFailed (wrappedReason halt)))
  | .note value, answer => sim.note worker (.pushed value (answer.map Halt.message))
  | .passOn, none | .wrap, none => sim

/-- What the end of actions within a source means. -/
def sourceCallbackEnded (sim : Simulation) (worker : Nat) (source : SourceState)
    (ended : CallbackEnd) : Simulation :=
  let act (event : Executor.ProducerAct Entry Entry) := sim.fire (.producer worker event)
  match ended, source with
  | .panicked panic, _ => act (.sourcePanicked panic)
  | .failed reason, .results _ | .failed reason, .steps _ => act (.sourceFailed reason)
  | .returned, .results _ => act (.sourceFailed noRecordReason)
  | .returned, _ | .failed _, _ => sim

def sourceStep? (sim : Simulation) (worker : Nat) (answer : Option Halt) :
    Option Simulation := do
  let script ← sim.workers[worker]?
  match script.callback, script.pushed with
  | some _, _ =>
      let (sim, ended) ← sim.stepCallback? worker
      match ended with
      | none => pure sim
      | some ended => pure (sim.sourceCallbackEnded worker script.source ended)
  | none, some mode => pure (sim.dealWith worker answer mode)
  | none, none => pure (sim.stepSource worker script.source)

def producerStep? (sim : Simulation) (index : Nat) : Option Simulation := do
  let producer ← sim.executor.producers[index]?
  let act (event : Executor.ProducerAct Entry Entry) := Executor.Event.producer index event
  match producer.phase with
  | .hooking => sim.runHook? index (act .hookReturned) (act <| .hookPanicked ·)
  | .sourcing answer => sim.sourceStep? index answer
  | .transforming record =>
      sim.runCallback? index
        (fun _ => sim.begin index (Rule.actionsFor sim.transform.rules record 0))
        (fun sim ended =>
          sim.fire (act (match ended with
            | .returned => .transformed (sim.transform.apply record)
            | .failed reason => .transformFailed reason
            | .panicked panic => .transformPanicked panic)))
  | _ =>
      let event ← Executor.producerMove? sim.schedule sim.estimator.estimate index
      sim.fire? event

/-!
The consumer.
-/

def consumerStep? (sim : Simulation) : Option Simulation :=
  let worker := sim.executor.consumerIndex
  let act (event : Executor.ConsumerAct (List Entry)) := Executor.Event.consumer event
  match sim.executor.consumer.phase with
  | .hooking => sim.runHook? worker (act .hookReturned) (act <| .hookPanicked ·)
  | .consuming entry =>
      sim.runCallback? worker
        (fun _ =>
          let received := sim.received + 1
          { sim with received }.begin worker
            (Rule.actionsFor sim.consumer.rules entry received))
        (fun sim ended =>
          match ended with
          | .returned =>
              { sim with consumed := sim.consumed.push entry }.fire (act .consumed)
          | .failed reason => sim.fire (act (.consumeFailed reason))
          | .panicked panic => sim.fire (act (.consumePanicked panic)))
  | .finishing =>
      if sim.consumer.defaultFinish then some (sim.fire (act .finished))
      else
        sim.runCallback? worker
          (fun _ =>
            { sim with finishCalls := sim.finishCalls + 1 }.begin worker sim.consumer.finish)
          (fun sim ended =>
            sim.fire (act (match ended with
              | .returned => .finished
              | .failed reason => .finishFailed reason
              | .panicked panic => .finishPanicked panic)))
  | .concluding =>
      sim.runCallback? worker
        (fun _ =>
          { sim with resultCalls := sim.resultCalls + 1 }.begin worker sim.consumer.result)
        (fun sim ended =>
          sim.fire (act (match ended with
            | .returned => .concluded sim.consumed.toList
            | .failed reason => .concludePanicked (.text reason)
            | .panicked panic => .concludePanicked panic)))
  | _ => (Executor.consumerMove? sim.schedule sim.estimator.estimate).bind sim.fire?

end Simulation

end BoundedIngest

/-
Module: BoundedIngest.Scenario.Basic
Purpose: An executor whose callbacks and whose user follow a script.
Main exports:
  Entry, Rule, Scenario, Scenario.ofSource, Scenario.build, Scenario.Action, Scenario.Answer,
  Scenario.Report
-/
import BoundedIngest.Callback.Basic
import BoundedIngest.Executor.State

namespace BoundedIngest

/-- A record or an entry: which producer it comes from, and its value. -/
structure Entry where
  lane : Nat
  value : UInt64
deriving Repr, DecidableEq, Inhabited

/-- Footprint of an entry: two words. -/
def Entry.footprint : UInt64 := 16

/-- Actions for those entries that have everything the rule names. -/
structure Rule where
  value : Option UInt64 := none
  lane : Option Nat := none
  /-- How many entries were received, this one included. -/
  count : Option Nat := none
  actions : List CallbackAction
deriving Repr, DecidableEq

/-- Does what a rule names equal what there is?  A rule may name nothing. -/
def Rule.agrees {α : Type} [DecidableEq α] (named : Option α) (actual : α) : Bool :=
  match named with
  | none => true
  | some expected => expected = actual

/-- The actions of all matching rules, in order. -/
def Rule.actionsFor (rules : List Rule) (entry : Entry) (count : Nat) : List CallbackAction :=
  (rules.filter fun rule =>
    Rule.agrees rule.value entry.value && Rule.agrees rule.lane entry.lane &&
      Rule.agrees rule.count count).flatMap Rule.actions

/-- A transform runs the matching rules and then maps the value linearly, as words. -/
structure TransformScript where
  factor : UInt64 := 1
  offset : UInt64 := 0
  rules : List Rule := []
deriving Repr, DecidableEq

def TransformScript.apply (script : TransformScript) (record : Entry) : Entry :=
  { record with value := record.value * script.factor + script.offset }

structure ConsumerScript where
  rules : List Rule := []
  finish : List CallbackAction := []
  result : List CallbackAction := []
  /-- The consumer has nothing of its own to do at the end. -/
  defaultFinish : Bool := false
deriving Repr, DecidableEq

/-- Which threads run the actions of a hook. -/
inductive HookTarget where
  | all
  | noneOfThem
  /-- Threads whose name ends so. -/
  | ending (name : String)
deriving Repr, DecidableEq

structure HookScript where
  target : HookTarget
  actions : List CallbackAction
deriving Repr, DecidableEq

/-- The actions that a hook runs on the thread with the given name. -/
def HookScript.actionsOn (hook : HookScript) (thread : String) : List CallbackAction :=
  match hook.target with
  | .all => hook.actions
  | .noneOfThem => []
  | .ending name => if name.toList.isSuffixOf thread.toList then hook.actions else []

/-- How the size of an entry is estimated. -/
inductive Estimator where
  | footprint
  | fixed (size : UInt64)
  | value
deriving Repr, DecidableEq

def Estimator.estimate : Estimator → Entry → UInt64
  | .footprint, _ => Entry.footprint
  | .fixed size, _ => size
  | .value, entry => entry.value

/-- How a scripted producer feeds its sink. -/
def ScriptedProducer.kind : ScriptedProducer → SourceKind
  | .range .. | .endless _ | .items _ => .records
  | .results _ => .results
  | .steps _ => .pushing

namespace Scenario

/-- One action of the user of an executor. -/
inductive Action where
  | execute
  /-- Execute on another thread. -/
  | start
  /-- Wait for that thread. -/
  | join
  | shutdown
  | await
  | lifecycle
  | remaining
  | names
  | config
  | queue
  /-- Raise the flag of the thread that executes. -/
  | interruptCaller
  | isInterrupted
  /-- Look at the flag of the thread that executes and lower it. -/
  | takeFlag
  | awaitLength (length : Nat)
  | awaitStatus (name : String)
  | awaitParked
  | release
  /-- Give the executor up. -/
  | drop
  | unknown
deriving Repr, DecidableEq

/-- What is seen of a queue from outside. -/
structure QueueView where
  status : QueueStatus
  length : Nat
  capacity : Nat
  averageBytes : Nat
  closed : Bool
deriving Repr, DecidableEq

def QueueView.of {α : Type} (queue : Queue α) : QueueView :=
  { status := queue.status
    length := queue.buffer.length
    capacity := queue.capacity.limit
    averageBytes := queue.capacity.averageBytes
    closed := queue.closed }

inductive Answer where
  | nothing
  | truth (value : Bool)
  | outcome (value : Except ExecError (List Entry))
  /-- The call panicked. -/
  | panicked (panic : Panic)
  | lifecycle (value : Lifecycle)
  | names (values : List String)
  | config (value : ExecutorConfig)
  | queue (view : QueueView)
  /-- There is no executor any more. -/
  | dropped
  | unknown

end Scenario

structure Scenario where
  config : ExecutorConfig := {}
  estimator : Estimator := .footprint
  producers : List ScriptedProducer := []
  consumer : Option ConsumerScript := none
  transform : Option TransformScript := none
  hook : Option HookScript := none
  actions : List Scenario.Action := []

namespace Scenario

/-- The short way to an executor: one source, all settings but the budget left at their defaults,
and entries taken to be as large as their footprint. -/
def ofSource (writeBufferLimitBytes : UInt64) (source : ScriptedProducer)
    (consumer : ConsumerScript) (transform : TransformScript) (hook : Option HookScript) :
    Scenario :=
  { config := .withBufferLimit writeBufferLimitBytes
    estimator := .footprint
    producers := [source]
    consumer := some consumer
    transform := some transform
    hook }

/-- The executor that the parts of a scenario make, with the scripts that it cannot do
without, or the first reason why there is none. -/
def build (scenario : Scenario) :
    Except ConfigError
      (Executor Entry Entry (List Entry) × ConsumerScript × TransformScript) := do
  scenario.config.validate
  let consumer ←
    match scenario.consumer with
    | some consumer => pure consumer
    | none => throw (.invalid .consumerMissing)
  let transform ←
    match scenario.transform with
    | some transform => pure transform
    | none => throw (.invalid .transformMissing)
  let executor := Executor.create scenario.config scenario.hook.isSome
    (scenario.producers.map ScriptedProducer.kind)
  pure (executor, consumer, transform)

/-- Values in the order in which they were consumed, by lane; only lanes that have any,
in order. -/
def lanes (entries : List Entry) : List (Nat × List UInt64) :=
  let numbers := ((entries.map Entry.lane).eraseDups).mergeSort
  numbers.map fun lane =>
    (lane, (entries.filter fun entry => entry.lane = lane).map Entry.value)

/-- What is seen of a whole scenario. -/
structure Report where
  answers : List Answer
  /-- The lifecycle and the status of the queue at the end, unless the executor was
  dropped. -/
  final : Option (Lifecycle × QueueStatus)
  finishCalls : Nat
  resultCalls : Nat
  /-- The logs of those threads that have one. -/
  logs : List (String × List Note)
  /-- The names of the threads that ran the hook, in order. -/
  hooks : List String
  /-- The entries that were consumed without an error. -/
  consumed : List Entry
  metrics : Metrics

end Scenario

end BoundedIngest

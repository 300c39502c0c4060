/-
Module: BoundedIngest.Proofs.Executor.Undisturbed
Purpose: Runs in which no callback fails and nobody interferes, and what one step of such
  a run can do.
Main exports:
  Assignment, Assignment.Permits, Undisturbed, Executor.Calm, Executor.ProducerStep,
  Executor.ConsumerStep, Executor.CallerStep
-/
import BoundedIngest.Executor.Job
import BoundedIngest.Proofs.Executor.Ledger
import BoundedIngest.Proofs.Executor.Usage

namespace BoundedIngest

/-!
An assignment says which records the sources offer and what becomes of each.  How long
callbacks take, what sizes are measured, what result the consumer gives and in which order
the threads take their steps is left open.  There is one call that executes, its flag stays
down, and nobody raises a flag or shuts the executor down.
-/

structure Assignment (ρ α : Type) where
  sources : List (Source ρ)
  /-- The entry for a record of a producer, by its position among the records. -/
  transform : Nat → Nat → ρ → α

variable {ρ α β : Type}

/-- Does a callback of the producer end well, if one ends? -/
def Executor.ProducerAct.succeeds : Executor.ProducerAct ρ α → Bool
  | .hookPanicked _ | .sourceFailed _ | .sourceHalted _ | .sourcePanicked _
  | .transformFailed _ | .transformPanicked _ | .measuringPanicked _ => false
  | _ => true

/-- Does a callback of the consumer end well, if one ends? -/
def Executor.ConsumerAct.succeeds : Executor.ConsumerAct β → Bool
  | .hookPanicked _ | .consumeFailed _ | .consumePanicked _ | .finishFailed _
  | .finishPanicked _ | .concludePanicked _ => false
  | _ => true

namespace Assignment

/-- The records of one producer. -/
def records (assignment : Assignment ρ α) (index : Nat) : List ρ :=
  (assignment.sources[index]?.map Source.records).getD []

/-- What one producer makes of its records. -/
def entries (assignment : Assignment ρ α) (index : Nat) : List α :=
  (assignment.records index).mapIdx (assignment.transform index)

/-- The entry for the record that a producer is transforming. -/
def due? (assignment : Assignment ρ α) (chronicle : Chronicle ρ α β) (index : Nat) : Option α :=
  chronicle.executor.producers[index]?.bind fun worker =>
    match worker.phase with
    | .transforming record =>
        some (assignment.transform index ((chronicle.history.offeredTo index).length - 1) record)
    | _ => none

/-- Does a producer do what it was assigned? -/
def Assigns (assignment : Assignment ρ α) (chronicle : Chronicle ρ α β) (index : Nat) :
    Executor.ProducerAct ρ α → Prop
  | .offered record =>
      (assignment.records index)[(chronicle.history.offeredTo index).length]? = some record
  | .sourceEnded =>
      (assignment.records index).length ≤ (chronicle.history.offeredTo index).length
  | .transformed entry => assignment.due? chronicle index = some entry
  | _ => True

instance [DecidableEq ρ] [DecidableEq α] (assignment : Assignment ρ α)
    (chronicle : Chronicle ρ α β) (index : Nat) (act : Executor.ProducerAct ρ α) :
    Decidable (assignment.Assigns chronicle index act) :=
  match act with
  | .offered record => inferInstanceAs (Decidable (_ = some record))
  | .sourceEnded => inferInstanceAs (Decidable (_ ≤ _))
  | .transformed entry => inferInstanceAs (Decidable (_ = some entry))
  | .hookReturned | .hookPanicked _ | .sourceFailed _ | .sourceHalted _ | .sourcePanicked _
  | .checkFlag | .transformFailed _ | .transformPanicked _ | .measured _ | .measuringPanicked _
  | .inserted | .report | .recordFailure | .closeQueue | .closed | .signal | .markDone =>
      isTrue trivial

/-- May a step be taken in an undisturbed run? -/
def Permits (assignment : Assignment ρ α) (chronicle : Chronicle ρ α β) :
    Executor.Event ρ α β → Prop
  | .enterQueue _ | .notifyQueue _ _ | .reportQueue _ => True
  | .producer index act => act.succeeds = true ∧ assignment.Assigns chronicle index act
  | .consumer act => act.succeeds = true
  | .execute => chronicle.executor.executes = []
  | .executing _ (.readFlag raised) => raised = false
  | .executing _ _ => True
  | .setFlag _ _ | .shutdown | .shuttingDown _ | .await | .awaiting _ => False

instance [DecidableEq ρ] [DecidableEq α] (assignment : Assignment ρ α)
    (chronicle : Chronicle ρ α β) (event : Executor.Event ρ α β) :
    Decidable (assignment.Permits chronicle event) :=
  match event with
  | .enterQueue _ | .notifyQueue _ _ | .reportQueue _ => isTrue trivial
  | .producer index act => inferInstanceAs (Decidable (_ ∧ assignment.Assigns chronicle index act))
  | .consumer act => inferInstanceAs (Decidable (act.succeeds = true))
  | .execute => decidable_of_iff (chronicle.executor.executes.isEmpty = true) List.isEmpty_iff
  | .executing _ (.readFlag raised) => inferInstanceAs (Decidable (raised = false))
  | .executing _ .timeout | .executing _ .proceed => isTrue trivial
  | .setFlag _ _ | .shutdown | .shuttingDown _ | .await | .awaiting _ => isFalse id

theorem due?_eq {assignment : Assignment ρ α} {chronicle : Chronicle ρ α β} {index : Nat}
    {worker : ProducerWorker ρ} {record : ρ}
    (found : chronicle.executor.producers[index]? = some worker)
    (was : worker.phase = .transforming record) :
    assignment.due? chronicle index =
      some (assignment.transform index ((chronicle.history.offeredTo index).length - 1) record) := by
  rw [due?, found, Option.bind_some, was]

/-- Is every step of a run permitted, and does the run pass a test at its end? -/
def permitsAll [DecidableEq ρ] [DecidableEq α] (assignment : Assignment ρ α)
    (chronicle : Chronicle ρ α β) (events : List (Executor.Event ρ α β))
    (test : Chronicle ρ α β → Bool) : Bool :=
  match events with
  | [] => test chronicle
  | event :: rest =>
      decide (assignment.Permits chronicle event) &&
        (chronicle.step event).any fun next => assignment.permitsAll next rest test

end Assignment

/-- The states that an undisturbed run can come to. -/
inductive Undisturbed (assignment : Assignment ρ α) (config : ExecutorConfig) (hooked : Bool) :
    Chronicle ρ α β → Prop
  | start : Undisturbed assignment config hooked
      (.start config hooked (assignment.sources.map Source.kind))
  | step {chronicle next : Chronicle ρ α β} {event : Executor.Event ρ α β}
      (undisturbed : Undisturbed assignment config hooked chronicle)
      (permitted : assignment.Permits chronicle event)
      (stepped : chronicle.step event = some next) :
      Undisturbed assignment config hooked next

theorem Undisturbed.of_permitsAll [DecidableEq ρ] [DecidableEq α] {assignment : Assignment ρ α}
    {config : ExecutorConfig} {hooked : Bool} {chronicle : Chronicle ρ α β}
    {events : List (Executor.Event ρ α β)} {test : Chronicle ρ α β → Bool}
    (undisturbed : Undisturbed assignment config hooked chronicle)
    (permits : assignment.permitsAll chronicle events test = true) :
    ∃ final, Undisturbed assignment config hooked final ∧ test final = true := by
  induction events generalizing chronicle with
  | nil => exact ⟨chronicle, undisturbed, permits⟩
  | cons event rest ih =>
    rw [Assignment.permitsAll, Bool.and_eq_true, decide_eq_true_iff, Option.any_eq_true] at permits
    obtain ⟨permitted, next, stepped, permits⟩ := permits
    exact ih (.step undisturbed permitted stepped) permits

/-! ### Calm executors -/

/-- The producer is on none of the paths that follow a failure or a halt. -/
def ProducerPhase.isCalm : ProducerPhase ρ → Bool
  | .reporting (some _) | .failing _ | .alarmed | .closing | .signalling => false
  | _ => true

def ConsumerPhase.isCalm : ConsumerPhase α β → Bool
  | .drained status => status = .done
  | .failing _ | .alarmed | .closing | .signalling => false
  | _ => true

/-- The call was not turned away. -/
def Outline.isCalm : Outline α → Bool
  | .refused => false
  | .ended status => status = .done
  | _ => true

/-- The queue is open, and nobody was turned away. -/
structure SharedQueue.Calm (shared : SharedQueue α) : Prop where
  stillOpen : shared.queue.closed = false
  calls : ∀ outline ∈ shared.outlines, outline.isCalm = true

namespace Executor

/-- The call that executes finds everything it needs, and gets only good news. -/
def Supplies (executor : Executor ρ α β) : ExecutePhase β → Prop
  | .entering | .takingParts =>
      executor.hasParts = true ∧ executor.hasSender = true ∧ executor.hasReceiver = true
  | .takingSender hasParts =>
      hasParts = true ∧ executor.hasSender = true ∧ executor.hasReceiver = true
  | .takingReceiver hasParts hasSender =>
      hasParts = true ∧ hasSender = true ∧ executor.hasReceiver = true
  | .starting | .spawning _ | .waiting | .checkingFlag | .checkingSlot | .panicked _ => True
  | .judging signal => ∃ result, signal = some (.finished result)
  | .settling outcome | .recording outcome | .returned outcome => ∃ result, outcome = .ok result
  | .retreating _ | .withdrawing .. => False

structure Calm (executor : Executor ρ α β) : Prop where
  willing : ∀ worker, executor.refuses worker = none
  queue : executor.shared.Calm
  producers : ∀ worker ∈ executor.producers,
    worker.flag = false ∧ worker.phase.isCalm = true
  consumer : executor.consumer.phase.isCalm = true
  failure : executor.failure.captured = none
  shutdowns : executor.shutdowns = []
  caller : (executor.executes = [] ∧ executor.hasParts = true ∧ executor.hasSender = true ∧
      executor.hasReceiver = true) ∨
    ∃ phase, executor.executes = [phase] ∧ executor.Supplies phase
  /-- One sender stays, and the other one until the consumer ends. -/
  connected : 1 ≤ executor.channel.senders ∧ (executor.consumer.phase ≠ .ended →
    (∀ panic, executor.executes ≠ [.panicked panic]) → 2 ≤ executor.channel.senders)
  stranded : ∀ panic, executor.executes = [.panicked panic] → executor.consumer.phase = .unborn

/-- What a producer can do in a calm executor. -/
inductive ProducerStep (executor : Executor ρ α β) (index : Nat) (worker : ProducerWorker ρ) :
    ProducerAct ρ α → Executor ρ α β → Prop
  | hooked (was : worker.phase = .hooking) :
      ProducerStep executor index worker .hookReturned
        (executor.setProducerPhase index (.sourcing none))
  | offered (answer : Option Halt) (record : ρ) (was : worker.phase = .sourcing answer) :
      ProducerStep executor index worker (.offered record)
        (executor.setProducerPhase index (.offering record))
  | exhausted (answer : Option Halt) (was : worker.phase = .sourcing answer) :
      ProducerStep executor index worker .sourceEnded
        (executor.setProducerPhase index (.reporting none))
  | checked (record : ρ) (was : worker.phase = .offering record) :
      ProducerStep executor index worker .checkFlag
        (executor.setProducerPhase index (.transforming record))
  | inserts (record : ρ) (entry : α) (shared : SharedQueue α)
      (was : worker.phase = .transforming record)
      (began : executor.shared.step (.insert index entry) = some shared) :
      ProducerStep executor index worker (.transformed entry)
        (setProducerPhase { executor with shared } index .inserting)
  | measured (size : UInt64) (shared : SharedQueue α) (was : worker.phase = .inserting)
      (folded : executor.shared.step (.measured index size) = some shared) :
      ProducerStep executor index worker (.measured size) { executor with shared }
  | accepted (shared : SharedQueue α) (was : worker.phase = .inserting)
      (replied : executor.shared.reply? index = some .inserted)
      (left : executor.shared.step (.leave index) = some shared) :
      ProducerStep executor index worker .inserted
        (setProducer { executor with shared } index
          { worker with produced := worker.produced + 1, phase := .sourcing none })
  | reported (measurement : Measurement) (was : worker.phase = .reporting none) :
      ProducerStep executor index worker .report
        ((executor.setProducerPhase index .marking).record measurement)
  | marked (was : worker.phase = .marking) :
      ProducerStep executor index worker .markDone
        (setProducerPhase { executor with shared := executor.shared.markDone } index .ended)

/-- What the consumer can do in a calm executor. -/
inductive ConsumerStep (executor : Executor ρ α β) : ConsumerAct β → Executor ρ α β → Prop
  | starts (shared : SharedQueue α) (was : executor.consumer.phase = .hooking)
      (began : executor.shared.step (.pull executor.consumerIndex) = some shared) :
      ConsumerStep executor .hookReturned
        (setConsumerPhase { executor with shared } .pulling)
  | goesOn (entry : α) (count : Nat) (shared : SharedQueue α)
      (was : executor.consumer.phase = .consuming entry)
      (began : executor.shared.step (.pull executor.consumerIndex) = some shared) :
      ConsumerStep executor .consumed
        { executor with
          shared
          consumer := { executor.consumer with consumed := count, phase := .pulling } }
  | receives (entry : α) (shared : SharedQueue α) (was : executor.consumer.phase = .pulling)
      (replied : executor.shared.reply? executor.consumerIndex = some (.entry entry))
      (left : executor.shared.step (.leave executor.consumerIndex) = some shared) :
      ConsumerStep executor .pulled (setConsumerPhase { executor with shared } (.consuming entry))
  | drains (shared : SharedQueue α) (was : executor.consumer.phase = .pulling)
      (replied : executor.shared.reply? executor.consumerIndex = some (.ended .done))
      (left : executor.shared.step (.leave executor.consumerIndex) = some shared) :
      ConsumerStep executor .pulled (setConsumerPhase { executor with shared } (.drained .done))
  | reports (measurement : Measurement) (was : executor.consumer.phase = .drained .done) :
      ConsumerStep executor .report ((executor.setConsumerPhase .finishing).record measurement)
  | finished (was : executor.consumer.phase = .finishing) :
      ConsumerStep executor .finished (executor.setConsumerPhase .concluding)
  | concluded (result : β) (was : executor.consumer.phase = .concluding) :
      ConsumerStep executor (.concluded result) (executor.setConsumerPhase (.delivering result))
  | delivers (result : β) (was : executor.consumer.phase = .delivering result) :
      ConsumerStep executor .deliver
        (endConsumer { executor with channel := executor.channel.send (.finished result) })

/-- What the call that executes can do in a calm executor, and which phase it leaves. -/
inductive CallerStep (executor : Executor ρ α β) :
    ExecutePhase β → ExecuteAct → Executor ρ α β → Prop
  | enters : CallerStep executor .entering (.readFlag false) (executor.setExecute 0 .takingParts)
  | takesParts :
      CallerStep executor .takingParts .proceed
        { executor.setExecute 0 (.takingSender true) with hasParts := false }
  | takesSender :
      CallerStep executor (.takingSender true) .proceed
        { executor.setExecute 0 (.takingReceiver true true) with hasSender := false }
  | takesReceiver :
      CallerStep executor (.takingReceiver true true) .proceed
        { executor.setExecute 0 .starting with hasReceiver := false }
  | starts (lifecycle : Lifecycle) :
      CallerStep executor .starting .proceed
        { executor.setExecute 0 (.spawning 0) with lifecycle }
  | fails (worker : Nat) (panic : Panic)
      (unnamed : threadNamePanic? (executor.workerName worker) = some panic) :
      CallerStep executor (.spawning worker) .proceed
        { executor.setExecute 0 (.panicked panic) with channel := executor.channel.hangUp }
  | spawnsProducer (worker : Nat)
      (named : threadNamePanic? (executor.workerName worker) = none)
      (inside : worker < executor.consumerIndex) :
      CallerStep executor (.spawning worker) .proceed
        ((executor.setProducerPhase worker
          (if executor.hooked then .hooking else .sourcing none)).setExecute 0
            (.spawning (worker + 1)))
  | spawnsHook (worker : Nat) (named : threadNamePanic? (executor.workerName worker) = none)
      (last : executor.consumerIndex ≤ worker) :
      CallerStep executor (.spawning worker) .proceed
        ((executor.setConsumerPhase .hooking).setExecute 0 .waiting)
  | spawnsPull (worker : Nat) (shared : SharedQueue α)
      (named : threadNamePanic? (executor.workerName worker) = none)
      (last : executor.consumerIndex ≤ worker)
      (began : executor.shared.step (.pull executor.consumerIndex) = some shared) :
      CallerStep executor (.spawning worker) .proceed
        ((setConsumerPhase { executor with shared } .pulling).setExecute 0 .waiting)
  | receives (message : Signal β) (rest : List (Signal β))
      (front : executor.channel.messages = message :: rest) :
      CallerStep executor .waiting .proceed
        { executor.setExecute 0 (.judging (some message)) with
          channel := { executor.channel with messages := rest } }
  | givesUp (empty : executor.channel.messages = []) (alone : executor.channel.senders = 0) :
      CallerStep executor .waiting .proceed (executor.setExecute 0 (.judging none))
  | timesOut (empty : executor.channel.messages = []) :
      CallerStep executor .waiting .timeout (executor.setExecute 0 .checkingFlag)
  | checksFlag :
      CallerStep executor .checkingFlag (.readFlag false) (executor.setExecute 0 .checkingSlot)
  | checksSlot : CallerStep executor .checkingSlot .proceed (executor.setExecute 0 .waiting)
  | judges (result : β) :
      CallerStep executor (.judging (some (.finished result))) .proceed
        (executor.setExecute 0 (.settling (.ok result)))
  | settles (result : β) (lifecycle : Lifecycle) :
      CallerStep executor (.settling (.ok result)) .proceed
        { executor.setExecute 0 (.recording (.ok result)) with lifecycle }
  | records (result : β) (measurement : Measurement) :
      CallerStep executor (.recording (.ok result)) .proceed
        ((executor.setExecute 0 (.returned (.ok result))).record measurement)

variable {executor next : Executor ρ α β}

/-! ### One step of a calm executor -/

theorem shared_of_takeReply {caller : Nat} {reply : Reply α}
    (taken : executor.takeReply caller = some (reply, next)) :
    ∃ shared, executor.shared.reply? caller = some reply ∧
      executor.shared.step (.leave caller) = some shared ∧ { executor with shared } = next := by
  unfold takeReply at taken
  simp only [Option.bind_eq_bind, Option.bind_eq_some_iff, Option.pure_def,
    Option.some.injEq, Prod.mk.injEq] at taken
  obtain ⟨_, replied, _, stepped, rfl, rfl⟩ := taken
  obtain ⟨shared, left, rfl⟩ := shared_of_stepQueue stepped
  exact ⟨shared, replied, left, rfl⟩

namespace Calm

theorem producerStep {index : Nat} {act : ProducerAct ρ α} (calm : executor.Calm)
    (succeeds : act.succeeds = true) (stepped : executor.stepProducer index act = some next) :
    ∃ worker, executor.producers[index]? = some worker ∧
      ProducerStep executor index worker act next := by
  unfold stepProducer at stepped
  split at stepped
  · contradiction
  rename_i worker found
  obtain ⟨lowered, phase⟩ := calm.producers worker (List.mem_of_getElem? found)
  refine ⟨worker, found, ?_⟩
  split at stepped
  · rename_i turn
    unfold turnProducer at turn
    split at turn
    all_goals rename_i was
    case h_1 =>
      cases turn
      cases stepped
      exact .hooked was
    case h_3 answer record =>
      cases turn
      cases stepped
      exact .offered answer record was
    case h_4 answer =>
      cases turn
      cases stepped
      exact .exhausted answer was
    case h_8 record =>
      rw [lowered] at turn
      cases turn
      cases stepped
      exact .checked record was
    all_goals contradiction
  · rename_i engages
    clear engages
    unfold engageProducer at stepped
    dsimp only at stepped
    split at stepped
    all_goals rename_i was
    case h_1 record entry =>
      obtain ⟨middle, inserted, rfl⟩ := Option.map_eq_some_iff.mp stepped
      obtain ⟨shared, began, rfl⟩ := shared_of_stepQueue inserted
      exact .inserts record entry shared was began
    case h_2 size =>
      obtain ⟨shared, folded, rfl⟩ := shared_of_stepQueue stepped
      exact .measured size shared was folded
    case h_4 =>
      split at stepped
      · rename_i taken
        cases stepped
        obtain ⟨shared, replied, left, rfl⟩ := shared_of_takeReply taken
        exact .accepted shared was replied left
      · rename_i taken
        obtain ⟨shared, replied, left, rfl⟩ := shared_of_takeReply taken
        have accepted := calm.queue.calls _
          (List.mem_of_getElem? (SharedQueue.outline_of_reply replied))
        contradiction
      · contradiction
    case h_5 outcome =>
      rw [was] at phase
      cases outcome with
      | none =>
        cases stepped
        exact .reported _ was
      | some halt => contradiction
    case h_10 =>
      obtain ⟨middle, marked, rfl⟩ := Option.map_eq_some_iff.mp stepped
      obtain ⟨shared, done, rfl⟩ := shared_of_stepQueue marked
      cases done
      exact .marked was
    all_goals first
      | contradiction
      | rw [was] at phase
        contradiction

theorem consumerStep {act : ConsumerAct β} (calm : executor.Calm)
    (succeeds : act.succeeds = true) (stepped : executor.stepConsumer act = some next) :
    ConsumerStep executor act next := by
  have phase := calm.consumer
  unfold stepConsumer at stepped
  split at stepped
  · rename_i turn
    unfold turnConsumer at turn
    split at turn
    all_goals rename_i was
    case h_4 =>
      cases turn
      cases stepped
      exact .finished was
    case h_7 result =>
      cases turn
      cases stepped
      exact .concluded result was
    all_goals contradiction
  · rename_i engages
    clear engages
    unfold engageConsumer at stepped
    dsimp only at stepped
    split at stepped
    all_goals rename_i was
    case h_1 =>
      obtain ⟨middle, pulled, rfl⟩ := Option.map_eq_some_iff.mp stepped
      obtain ⟨shared, began, rfl⟩ := shared_of_stepQueue pulled
      exact .starts shared was began
    case h_2 =>
      split at stepped
      · rename_i taken
        cases stepped
        obtain ⟨shared, replied, left, rfl⟩ := shared_of_takeReply taken
        exact .receives _ shared was replied left
      · rename_i status middle taken
        cases stepped
        obtain ⟨shared, replied, left, rfl⟩ := shared_of_takeReply taken
        have ended := calm.queue.calls _
          (List.mem_of_getElem? (SharedQueue.outline_of_reply replied))
        have done : status = .done := of_decide_eq_true ended
        subst done
        exact .drains shared was replied left
      · contradiction
    case h_3 entry =>
      obtain ⟨middle, pulled, rfl⟩ := Option.map_eq_some_iff.mp stepped
      obtain ⟨shared, began, rfl⟩ := shared_of_stepQueue pulled
      exact .goesOn entry _ shared was began
    case h_4 status =>
      rw [was] at phase
      have done : status = .done := of_decide_eq_true phase
      subst done
      cases stepped
      exact .reports _ was
    case h_5 result =>
      cases stepped
      exact .delivers result was
    all_goals first
      | contradiction
      | rw [was] at phase
        contradiction

theorem judge_finished {result : β} (calm : executor.Calm) :
    executor.judge (some (.finished result)) = .ok result := by
  rw [judge, FailureSlot.toExecError, calm.failure]
  rfl

/-- A call that has got as far as a worker spawns it, or panics over its name. -/
theorem spawnStep {worker : Nat} {act : ExecuteAct} (calm : executor.Calm)
    (first : executor.executes[0]? = some (.spawning worker))
    (stepped : executor.stepExecute 0 act = some next) :
    CallerStep executor (.spawning worker) act next := by
  unfold stepExecute at stepped
  rw [first] at stepped
  cases act with
  | readFlag raised => contradiction
  | timeout => contradiction
  | proceed =>
    dsimp only at stepped
    split at stepped
    · rename_i panic unnamed
      cases stepped
      exact .fails worker panic unnamed
    · rename_i named
      rw [calm.willing worker] at stepped
      obtain ⟨middle, spawned, rfl⟩ := Option.map_eq_some_iff.mp stepped
      unfold spawn at spawned
      by_cases inside : worker < executor.consumerIndex
      · rw [if_pos inside] at spawned ⊢
        cases spawned
        exact .spawnsProducer worker named inside
      · rw [if_neg inside] at spawned ⊢
        split at spawned
        · cases spawned
          exact .spawnsHook worker named (Nat.le_of_not_lt inside)
        · obtain ⟨pulling, pulled, rfl⟩ := Option.map_eq_some_iff.mp spawned
          obtain ⟨shared, began, rfl⟩ := shared_of_stepQueue pulled
          exact .spawnsPull worker shared named (Nat.le_of_not_lt inside) began

/-- A call that waits hears something, learns that nothing can come, or looks around after a
while. -/
theorem waitStep {act : ExecuteAct} (first : executor.executes[0]? = some .waiting)
    (stepped : executor.stepExecute 0 act = some next) :
    CallerStep executor .waiting act next := by
  unfold stepExecute at stepped
  rw [first] at stepped
  cases act with
  | readFlag raised => contradiction
  | timeout =>
    dsimp only at stepped
    split at stepped
    · rename_i silent
      have empty : executor.channel.messages = [] := by
        simp only [Bool.and_eq_true, List.isEmpty_iff] at silent
        exact silent.1
      cases stepped
      exact .timesOut empty
    · contradiction
  | proceed =>
    dsimp only at stepped
    split at stepped
    · rename_i message rest front
      cases stepped
      exact .receives message rest front
    · rename_i empty
      split at stepped
      · rename_i alone
        cases stepped
        exact .givesUp empty alone
      · contradiction

/-- A call that takes what it needs finds it. -/
theorem takeStep {phase : ExecutePhase β} {act : ExecuteAct}
    (first : executor.executes[0]? = some phase) (supplies : executor.Supplies phase)
    (takes : phase = .takingParts ∨ (∃ hasParts, phase = .takingSender hasParts) ∨
      ∃ hasParts hasSender, phase = .takingReceiver hasParts hasSender)
    (stepped : executor.stepExecute 0 act = some next) : CallerStep executor phase act next := by
  unfold stepExecute at stepped
  rw [first] at stepped
  rcases takes with rfl | ⟨hasParts, rfl⟩ | ⟨hasParts, hasSender, rfl⟩
  · cases act with
    | readFlag raised => contradiction
    | timeout => contradiction
    | proceed =>
      dsimp only at stepped
      rw [supplies.1] at stepped
      cases stepped
      exact .takesParts
  · obtain ⟨rfl, sender, -⟩ := supplies
    cases act with
    | readFlag raised => contradiction
    | timeout => contradiction
    | proceed =>
      dsimp only at stepped
      rw [sender] at stepped
      cases stepped
      exact .takesSender
  · obtain ⟨rfl, rfl, receiver⟩ := supplies
    have everything : (true && true && true) = true := rfl
    cases act with
    | readFlag raised => contradiction
    | timeout => contradiction
    | proceed =>
      dsimp only at stepped
      rw [receiver, if_pos everything] at stepped
      cases stepped
      exact .takesReceiver

/-- A call that looks around sees nothing. -/
theorem lookStep {phase : ExecutePhase β} {act : ExecuteAct} (calm : executor.Calm)
    (first : executor.executes[0]? = some phase)
    (lowered : ∀ raised, act = .readFlag raised → raised = false)
    (looks : phase = .entering ∨ phase = .checkingFlag ∨ phase = .checkingSlot)
    (stepped : executor.stepExecute 0 act = some next) : CallerStep executor phase act next := by
  unfold stepExecute at stepped
  rw [first] at stepped
  rcases looks with rfl | rfl | rfl
  · cases act with
    | readFlag raised =>
      cases lowered raised rfl
      cases stepped
      exact .enters
    | timeout => contradiction
    | proceed => contradiction
  · cases act with
    | readFlag raised =>
      cases lowered raised rfl
      cases stepped
      exact .checksFlag
    | timeout => contradiction
    | proceed => contradiction
  · cases act with
    | readFlag raised => contradiction
    | timeout => contradiction
    | proceed =>
      dsimp only at stepped
      rw [FailureSlot.toExecError, calm.failure] at stepped
      cases stepped
      exact .checksSlot

/-- A call that knows its outcome was told a result. -/
theorem endStep {phase : ExecutePhase β} {act : ExecuteAct} (calm : executor.Calm)
    (first : executor.executes[0]? = some phase) (supplies : executor.Supplies phase)
    (ends : (∃ signal, phase = .judging signal) ∨ (∃ outcome, phase = .settling outcome) ∨
      ∃ outcome, phase = .recording outcome)
    (stepped : executor.stepExecute 0 act = some next) : CallerStep executor phase act next := by
  unfold stepExecute at stepped
  rw [first] at stepped
  rcases ends with ⟨signal, rfl⟩ | ⟨outcome, rfl⟩ | ⟨outcome, rfl⟩
  · obtain ⟨result, rfl⟩ := supplies
    cases act with
    | readFlag raised => contradiction
    | timeout => contradiction
    | proceed =>
      dsimp only at stepped
      rw [calm.judge_finished] at stepped
      cases stepped
      exact .judges result
  · obtain ⟨result, rfl⟩ := supplies
    cases act with
    | readFlag raised => contradiction
    | timeout => contradiction
    | proceed =>
      cases stepped
      exact .settles result _
  · obtain ⟨result, rfl⟩ := supplies
    cases act with
    | readFlag raised => contradiction
    | timeout => contradiction
    | proceed =>
      cases stepped
      exact .records result _

theorem callerStep {call : Nat} {act : ExecuteAct} (calm : executor.Calm)
    (lowered : ∀ raised, act = .readFlag raised → raised = false)
    (stepped : executor.stepExecute call act = some next) :
    ∃ phase, executor.executes = [phase] ∧ call = 0 ∧
      CallerStep executor phase act next := by
  rcases calm.caller with ⟨none, -⟩ | ⟨phase, only, supplies⟩
  · rw [stepExecute, none] at stepped
    contradiction
  cases call with
  | succ call =>
    rw [stepExecute, only] at stepped
    contradiction
  | zero =>
    refine ⟨phase, only, rfl, ?_⟩
    have first : executor.executes[0]? = some phase := by
      rw [only]
      rfl
    cases phase with
    | takingParts => exact takeStep first supplies (.inl rfl) stepped
    | takingSender hasParts => exact takeStep first supplies (.inr (.inl ⟨_, rfl⟩)) stepped
    | takingReceiver hasParts hasSender =>
      exact takeStep first supplies (.inr (.inr ⟨_, _, rfl⟩)) stepped
    | spawning worker => exact calm.spawnStep first stepped
    | waiting => exact waitStep first stepped
    | judging signal => exact endStep calm first supplies (.inl ⟨_, rfl⟩) stepped
    | settling outcome => exact endStep calm first supplies (.inr (.inl ⟨_, rfl⟩)) stepped
    | recording outcome => exact endStep calm first supplies (.inr (.inr ⟨_, rfl⟩)) stepped
    | entering => exact lookStep calm first lowered (.inl rfl) stepped
    | checkingFlag => exact lookStep calm first lowered (.inr (.inl rfl)) stepped
    | checkingSlot => exact lookStep calm first lowered (.inr (.inr rfl)) stepped
    | starting =>
      rw [stepExecute, first] at stepped
      cases act with
      | readFlag raised => contradiction
      | timeout => contradiction
      | proceed =>
        cases stepped
        exact .starts _
    | retreating | withdrawing => exact supplies.elim
    | returned outcome | panicked panic =>
      rw [stepExecute, first] at stepped
      cases act <;> contradiction

end Calm

/-- What can happen in a calm executor. -/
inductive CalmStep (executor : Executor ρ α β) : Event ρ α β → Executor ρ α β → Prop
  | enters (caller : Nat) (shared : SharedQueue α)
      (stepped : executor.shared.step (.enter caller) = some shared) :
      CalmStep executor (.enterQueue caller) { executor with shared }
  | notifies (caller : Nat) (target : Option Nat) (shared : SharedQueue α)
      (stepped : executor.shared.step (.notify caller target) = some shared) :
      CalmStep executor (.notifyQueue caller target) { executor with shared }
  | reports (caller : Nat) (shared : SharedQueue α)
      (stepped : executor.shared.step (.report caller) = some shared) :
      CalmStep executor (.reportQueue caller) { executor with shared }
  | producer {index : Nat} {worker : ProducerWorker ρ} {act : ProducerAct ρ α}
      {next : Executor ρ α β} (found : executor.producers[index]? = some worker)
      (step : ProducerStep executor index worker act next) :
      CalmStep executor (.producer index act) next
  | consumer {act : ConsumerAct β} {next : Executor ρ α β}
      (step : ConsumerStep executor act next) : CalmStep executor (.consumer act) next
  | begins (none : executor.executes = []) :
      CalmStep executor .execute { executor with executes := [.entering] }
  | caller {phase : ExecutePhase β} {act : ExecuteAct} {next : Executor ρ α β}
      (only : executor.executes = [phase]) (step : CallerStep executor phase act next) :
      CalmStep executor (.executing 0 act) next

theorem Calm.step {assignment : Assignment ρ α} {chronicle : Chronicle ρ α β}
    {event : Event ρ α β} (calm : chronicle.executor.Calm)
    (permitted : assignment.Permits chronicle event)
    (stepped : chronicle.executor.step event = some next) :
    CalmStep chronicle.executor event next := by
  cases event with
  | enterQueue caller =>
    obtain ⟨shared, moved, rfl⟩ := shared_of_stepQueue stepped
    exact .enters caller shared moved
  | notifyQueue caller target =>
    obtain ⟨shared, moved, rfl⟩ := shared_of_stepQueue stepped
    exact .notifies caller target shared moved
  | reportQueue caller =>
    obtain ⟨shared, moved, rfl⟩ := shared_of_stepQueue stepped
    exact .reports caller shared moved
  | producer index act =>
    obtain ⟨worker, found, moved⟩ := calm.producerStep permitted.1 stepped
    exact .producer found moved
  | consumer act => exact .consumer (calm.consumerStep permitted stepped)
  | execute =>
    have none : chronicle.executor.executes = [] := permitted
    cases stepped
    rw [none]
    exact .begins none
  | executing call act =>
    have lowered : ∀ raised, act = .readFlag raised → raised = false := by
      rintro raised rfl
      exact permitted
    obtain ⟨phase, only, rfl, moved⟩ := calm.callerStep lowered stepped
    exact .caller only moved
  | setFlag | shutdown | shuttingDown | await | awaiting => exact permitted.elim

end Executor

end BoundedIngest

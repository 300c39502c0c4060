/-
Module: BoundedIngest.Proofs.Executor.Standstill
Purpose: Until all workers have ended, some of them can go on, whatever callbacks do and
  whoever shuts down.
Main exports:
  Executor.ProducerAnswer, Executor.ConsumerAnswer, Executor.Responsive, Executor.CanWork,
  Executor.spawns, Executor.works, Executor.no_standstill
-/
import BoundedIngest.Proofs.Executor.Sealing
import BoundedIngest.Proofs.Executor.Staffing
import BoundedIngest.Proofs.Executor.Usage
import BoundedIngest.Proofs.Queue.Waking

namespace BoundedIngest

/-!
A worker stands still only inside the queue.  Producers wait there for room and the consumer
for an entry, and since there is always room for one entry, not both can have to wait.  If
the consumer is gone, then because something has failed, and then the queue is closed, or
the worker that failed has yet to close it.
-/

variable {ρ α β : Type}

/-! ### Calls on the queue -/

namespace SharedQueue

variable {shared : SharedQueue α}

/-- A notification of one waiter is always possible. -/
theorem notifiesEntry (shared : SharedQueue α) :
    ∃ target, (shared.notifyOneEntry target).isSome = true := by
  by_cases waits : shared.calls.any Call.isAwaitingEntry = true
  · obtain ⟨call, found, awaits⟩ := List.any_eq_true.mp waits
    obtain ⟨target, here⟩ := List.mem_iff_getElem?.mp found
    refine ⟨some target, ?_⟩
    cases call with
    | awaitingEntry => simp [notifyOneEntry, here]
    | _ => contradiction
  · refine ⟨none, ?_⟩
    rw [notifyOneEntry, if_neg waits]
    rfl

theorem notifiesRoom (shared : SharedQueue α) :
    ∃ target, (shared.notifyOneRoom target).isSome = true := by
  by_cases waits : shared.calls.any Call.isAwaitingRoom = true
  · obtain ⟨call, found, awaits⟩ := List.any_eq_true.mp waits
    obtain ⟨target, here⟩ := List.mem_iff_getElem?.mp found
    refine ⟨some target, ?_⟩
    cases call with
    | awaitingRoom entry => simp [notifyOneRoom, here]
    | _ => contradiction
  · refine ⟨none, ?_⟩
    rw [notifyOneRoom, if_neg waits]
    rfl

end SharedQueue

namespace Executor

/-! ### How callbacks end -/

/-- How a callback may end that a producer runs. -/
inductive ProducerAnswer (kind : SourceKind) :
    ProducerPhase ρ → ProducerAct ρ α → Prop
  | hookReturned : ProducerAnswer kind .hooking .hookReturned
  | hookPanicked (panic : Panic) : ProducerAnswer kind .hooking (.hookPanicked panic)
  | offered (answer : Option Halt) (record : ρ) :
      ProducerAnswer kind (.sourcing answer) (.offered record)
  | sourceEnded (answer : Option Halt) : ProducerAnswer kind (.sourcing answer) .sourceEnded
  | sourceFailed (answer : Option Halt) (reason : String) (fallible : kind ≠ .records) :
      ProducerAnswer kind (.sourcing answer) (.sourceFailed reason)
  | sourceHalted (answer : Option Halt) (halt : Halt) (pushes : kind = .pushing) :
      ProducerAnswer kind (.sourcing answer) (.sourceHalted halt)
  | sourcePanicked (answer : Option Halt) (panic : Panic) :
      ProducerAnswer kind (.sourcing answer) (.sourcePanicked panic)
  | transformed (record : ρ) (entry : α) :
      ProducerAnswer kind (.transforming record) (.transformed entry)
  | transformFailed (record : ρ) (reason : String) :
      ProducerAnswer kind (.transforming record) (.transformFailed reason)
  | transformPanicked (record : ρ) (panic : Panic) :
      ProducerAnswer kind (.transforming record) (.transformPanicked panic)

/-- How a callback may end that the consumer runs. -/
inductive ConsumerAnswer : ConsumerPhase α β → ConsumerAct β → Prop
  | hookReturned : ConsumerAnswer .hooking .hookReturned
  | hookPanicked (panic : Panic) : ConsumerAnswer .hooking (.hookPanicked panic)
  | consumed (entry : α) : ConsumerAnswer (.consuming entry) .consumed
  | consumeFailed (entry : α) (reason : String) :
      ConsumerAnswer (.consuming entry) (.consumeFailed reason)
  | consumePanicked (entry : α) (panic : Panic) :
      ConsumerAnswer (.consuming entry) (.consumePanicked panic)
  | finished : ConsumerAnswer .finishing .finished
  | finishFailed (reason : String) : ConsumerAnswer .finishing (.finishFailed reason)
  | finishPanicked (panic : Panic) : ConsumerAnswer .finishing (.finishPanicked panic)
  | concluded (result : β) : ConsumerAnswer .concluding (.concluded result)
  | concludePanicked (panic : Panic) : ConsumerAnswer .concluding (.concludePanicked panic)

/-- How the measuring of an entry may end. -/
inductive EstimatorAnswer : ProducerAct ρ α → Prop
  | measured (estimate : UInt64) : EstimatorAnswer (.measured estimate)
  | panicked (panic : Panic) : EstimatorAnswer (.measuringPanicked panic)

end Executor

/-- A callback runs: the hook, the source or the transform. -/
def ProducerPhase.inCallback : ProducerPhase ρ → Bool
  | .hooking | .sourcing _ | .transforming _ => true
  | _ => false

/-- A callback runs: the hook, or one of the consumer's own. -/
def ConsumerPhase.inCallback : ConsumerPhase α β → Bool
  | .hooking | .consuming _ | .finishing | .concluding => true
  | _ => false

namespace Executor

/-- A step of a worker, or of a call on the queue. -/
def Event.isWork : Event ρ α β → Bool
  | .enterQueue _ | .notifyQueue .. | .reportQueue _ | .producer .. | .consumer _ => true
  | _ => false

/-- Is it up to a callback whether and when a producer takes the step? -/
def ProducerAct.isAnswer : ProducerAct ρ α → Bool
  | .checkFlag | .inserted | .report | .recordFailure | .closeQueue | .closed | .signal
  | .markDone => false
  | _ => true

/-- Is it up to a callback whether and when the consumer takes the step? -/
def ConsumerAct.isAnswer : ConsumerAct β → Bool
  | .pulled | .report | .deliver | .recordFailure | .closeQueue | .closed | .signal => false
  | _ => true

def Event.isAnswer : Event ρ α β → Bool
  | .producer _ act => act.isAnswer
  | .consumer act => act.isAnswer
  | _ => false

/-- The world outside forbids no step that is not its own, and every callback that runs ends
in some way. -/
structure Responsive (executor : Executor ρ α β) (permits : Event ρ α β → Prop) : Prop where
  others : ∀ event, event.isWork = true → event.isAnswer = false → permits event
  producer : ∀ index worker, executor.producers[index]? = some worker →
    worker.phase.inCallback = true →
    ∃ act, ProducerAnswer worker.kind worker.phase act ∧ permits (.producer index act)
  estimator : ∀ index entry, executor.shared.calls[index]? = some (.measuring entry) →
    ∃ act, EstimatorAnswer act ∧ permits (.producer index act)
  consumer : executor.consumer.phase.inCallback = true →
    ∃ act, ConsumerAnswer executor.consumer.phase act ∧ permits (.consumer act)

/-- Some worker, or a call on the queue, can take a step. -/
def CanWork (executor : Executor ρ α β) (permits : Event ρ α β → Prop) : Prop :=
  ∃ event next, event.isWork = true ∧ permits event ∧ executor.step event = some next

variable {executor : Executor ρ α β} {permits : Event ρ α β → Prop}

/-! ### Calls and the workers they belong to -/

/-- A producer that inserts, at the position of its call. -/
theorem inserting_worker {caller : Nat} {outline : Outline α}
    (agreement : executor.snapshot.Agreement)
    (found : executor.snapshot.outlines[caller]? = some outline)
    (insert : outline.errand = .insert) :
    ∃ worker, executor.producers[caller]? = some worker ∧
      worker.phase = .inserting := by
  have inserting := agreement.inserting found insert
  simp only [snapshot, List.getElem?_map] at inserting
  exact Option.map_eq_some_iff.mp inserting

/-- Whoever has no call on the queue may begin one. -/
theorem idle_of_nothing {caller : Nat} {outline : Outline α}
    (found : executor.snapshot.outlines[caller]? = some outline)
    (nothing : outline.errand = .nothing) :
    executor.shared.calls[caller]? = some .idle := by
  obtain ⟨call, here, same⟩ : ∃ call, executor.shared.calls[caller]? = some call ∧
      call.outline = outline := by
    simpa [snapshot, SharedQueue.outlines] using found
  rw [← same] at nothing
  rw [here]
  cases call with
  | idle => rfl
  | returned reply => cases reply <;> contradiction
  | _ => contradiction

/-- A call that has come to a worker can go on, since the consumer has no call before it is
spawned. -/
theorem spawns {producers call worker : Nat} {history : History ρ α β}
    (reached : Reached producers executor.snapshot history)
    (was : executor.executes[call]? = some (.spawning worker)) :
    (executor.stepExecute call .proceed).isSome = true := by
  have found : .spawning worker ∈ executor.snapshot.executes :=
    List.mem_of_getElem? was
  have unborn := (reached.started.frontier _ found worker rfl).1
  obtain ⟨outline, there, errand⟩ := reached.agreement.consumer_outline
  rw [unborn] at errand
  rw [length_phases] at there
  have idle := idle_of_nothing there errand
  simp only [stepExecute, was]
  split
  · rfl
  split
  · rfl
  rw [Option.isSome_map]
  unfold spawn
  split
  · rfl
  · split
    · rfl
    · simp [beginPull, stepQueue, SharedQueue.step, idle]

/-- A call that executes can go on unless it waits, was refused a worker or has ended. -/
theorem proceeds {producers call : Nat} {history : History ρ α β} {phase : ExecutePhase β}
    (reached : Reached producers executor.snapshot history)
    (was : executor.executes[call]? = some phase) (steady : phase.isRetreating = false)
    (busy : phase ≠ .waiting) (running : ∀ outcome, phase ≠ .returned outcome)
    (alive : ∀ panic, phase ≠ .panicked panic) :
    ∃ act next, (act = .readFlag false ∨ act = .proceed) ∧
      executor.step (.executing call act) = some next := by
  have goes : ∀ act : ExecuteAct, act = .readFlag false ∨ act = .proceed →
      (executor.stepExecute call act).isSome = true →
      ∃ act next, (act = .readFlag false ∨ act = .proceed) ∧
        executor.step (.executing call act) = some next := by
    intro act lowered possible
    obtain ⟨next, stepped⟩ := Option.isSome_iff_exists.mp possible
    exact ⟨act, next, lowered, stepped⟩
  cases phase with
  | retreating | withdrawing => contradiction
  | waiting => exact absurd rfl busy
  | returned outcome => exact absurd rfl (running outcome)
  | panicked panic => exact absurd rfl (alive panic)
  | entering | checkingFlag =>
    apply goes (.readFlag false) (.inl rfl)
    simp [stepExecute, was]
  | spawning worker => exact goes .proceed (.inr rfl) (spawns reached was)
  | takingParts | takingSender | takingReceiver | starting | checkingSlot | judging | settling
  | recording =>
    apply goes .proceed (.inr rfl)
    simp [stepExecute, was]

/-- Every call that is not over waits, and those that closed the queue have notified
everybody. -/
def Settled (executor : Executor ρ α β) : Prop :=
  ∀ call ∈ executor.shared.calls,
    call = .idle ∨ call.isWaiting = true ∨ call = .returned .closed

theorem Settled.quiet (settled : executor.Settled) : executor.shared.Quiet := by
  intro call found
  rcases settled call found with rfl | waits | rfl
  · exact ⟨rfl, rfl⟩
  · cases call <;> first | exact ⟨rfl, rfl⟩ | contradiction
  · exact ⟨rfl, rfl⟩

/-- What a call is in the end that somebody makes. -/
theorem Settled.call {caller : Nat} {outline : Outline α} (settled : executor.Settled)
    (found : executor.snapshot.outlines[caller]? = some outline) :
    (outline.errand = .pull → executor.shared.calls[caller]? = some .awaitingEntry) ∧
      (outline.errand = .insert →
        ∃ entry, executor.shared.calls[caller]? = some (.awaitingRoom entry)) ∧
      (outline.errand = .close →
        executor.shared.calls[caller]? = some (.returned .closed)) := by
  obtain ⟨call, here, rfl⟩ : ∃ call, executor.shared.calls[caller]? = some call ∧
      call.outline = outline := by
    simpa [snapshot, SharedQueue.outlines] using found
  rw [here]
  rcases settled call (List.mem_of_getElem? here) with rfl | waits | rfl
  · simp [Call.outline, Outline.errand]
  · cases call with
    | awaitingEntry => simp [Call.outline, Outline.errand]
    | awaitingRoom entry => simp [Call.outline, Outline.errand]
    | _ => contradiction
  · simp [Call.outline, Outline.errand]

/-! ### Who is not inside the queue can go on -/

theorem canWork_of_isSome (event : Event ρ α β) (work : event.isWork = true)
    (permitted : permits event) (possible : (executor.step event).isSome = true) :
    executor.CanWork permits := by
  obtain ⟨next, stepped⟩ := Option.isSome_iff_exists.mp possible
  exact ⟨event, next, work, permitted, stepped⟩

/-- A call that has something to do can do it. -/
theorem canWork_of_call {caller : Nat} {call : Call α} (agreement : executor.snapshot.Agreement)
    (responsive : executor.Responsive permits)
    (found : executor.shared.calls[caller]? = some call) (busy : call ≠ .idle)
    (awake : call.isWaiting = false) (unsettled : call ≠ .returned .closed) :
    executor.CanWork permits := by
  have outline : executor.snapshot.outlines[caller]? = some call.outline :=
    SharedQueue.outlines_getElem? found
  have own : ∀ event : Event ρ α β, event.isWork = true → event.isAnswer = false →
      (executor.step event).isSome = true → executor.CanWork permits :=
    fun event work decided => canWork_of_isSome event work (responsive.others event work decided)
  cases call with
  | idle => contradiction
  | awaitingRoom | awaitingEntry => contradiction
  | inserting | retryingInsert | pulling | retryingPull =>
    apply own (.enterQueue caller) rfl rfl
    simp [step, stepQueue, SharedQueue.step, SharedQueue.enter, found]
  | pushed length capacity waited =>
    obtain ⟨target, notified⟩ := executor.shared.notifiesEntry
    apply own (.notifyQueue caller target) rfl rfl
    simpa [step, stepQueue, SharedQueue.step, SharedQueue.notify, found] using notified
  | pulled entry length capacity =>
    obtain ⟨target, notified⟩ := executor.shared.notifiesRoom
    apply own (.notifyQueue caller target) rfl rfl
    simpa [step, stepQueue, SharedQueue.step, SharedQueue.notify, found] using notified
  | closedRoom | closedEntries =>
    apply own (.notifyQueue caller none) rfl rfl
    simp [step, stepQueue, SharedQueue.step, SharedQueue.notify, found]
  | reportingPush | reportingPull =>
    apply own (.reportQueue caller) rfl rfl
    simp [step, stepQueue, SharedQueue.step, SharedQueue.report, found]
  | measuring entry =>
    obtain ⟨worker, here, inserting⟩ := inserting_worker agreement outline rfl
    obtain ⟨act, answer, permitted⟩ := responsive.estimator caller entry found
    refine canWork_of_isSome (.producer caller act) rfl permitted ?_
    cases answer <;>
      simp [step, stepProducer, here, turnProducer, inserting, engageProducer, stepQueue,
        SharedQueue.step, found]
  | returned reply =>
    cases reply with
    | inserted | refused =>
      obtain ⟨worker, here, inserting⟩ := inserting_worker agreement outline rfl
      apply own (.producer caller .inserted) rfl rfl
      simp [step, stepProducer, here, turnProducer, inserting, engageProducer, takeReply,
        SharedQueue.reply?, stepQueue, SharedQueue.step, found]
    | entry value | ended status =>
      obtain ⟨rfl, pulling⟩ := agreement.pulling outline rfl
      rw [length_phases] at found
      have phase : executor.consumer.phase = .pulling := pulling
      apply own (.consumer .pulled) rfl rfl
      simp [step, stepConsumer, turnConsumer, phase, engageConsumer, takeReply,
        SharedQueue.reply?, stepQueue, SharedQueue.step, found]
    | closed => contradiction

/-- A producer that has begun and waits for no call can go on. -/
theorem canWork_of_producer {index : Nat} {worker : ProducerWorker ρ}
    (agreement : executor.snapshot.Agreement) (responsive : executor.Responsive permits)
    (settled : executor.Settled) (found : executor.producers[index]? = some worker)
    (born : worker.phase ≠ .unborn) (free : worker.phase ≠ .inserting)
    (running : worker.phase ≠ .ended) : executor.CanWork permits := by
  obtain ⟨outline, call, errand⟩ := agreement.producer_outline (phases_getElem? found)
  have own : ∀ act : ProducerAct ρ α, act.isAnswer = false →
      (executor.stepProducer index act).isSome = true → executor.CanWork permits :=
    fun act decided => canWork_of_isSome (.producer index act) rfl
      (responsive.others (.producer index act) rfl decided)
  have ends : worker.phase.inCallback = true → ∃ act, ProducerAnswer worker.kind worker.phase act ∧
      permits (.producer index act) := responsive.producer index worker found
  cases phase : worker.phase with
  | unborn | inserting | ended => contradiction
  | hooking | sourcing answer =>
    rw [phase] at ends
    obtain ⟨act, answer, permitted⟩ := ends rfl
    refine canWork_of_isSome (.producer index act) rfl permitted ?_
    cases answer <;> simp [step, stepProducer, turnProducer, *]
  | transforming record =>
    rw [phase] at ends errand
    have idle := idle_of_nothing call errand
    obtain ⟨act, answer, permitted⟩ := ends rfl
    refine canWork_of_isSome (.producer index act) rfl permitted ?_
    cases answer <;>
      simp [step, stepProducer, found, turnProducer, phase, engageProducer, stepQueue,
        SharedQueue.step, idle]
  | offering record =>
    apply own .checkFlag rfl
    simp [stepProducer, found, turnProducer, phase]
  | reporting outcome =>
    apply own .report rfl
    simp [stepProducer, found, turnProducer, phase, engageProducer]
  | failing error =>
    apply own .recordFailure rfl
    simp [stepProducer, found, turnProducer, phase, engageProducer]
  | alarmed =>
    rw [phase] at errand
    have idle := idle_of_nothing call errand
    apply own .closeQueue rfl
    simp [stepProducer, found, turnProducer, phase, engageProducer, stepQueue,
      SharedQueue.step, idle]
  | closing =>
    rw [phase] at errand
    have past := (settled.call call).2.2 errand
    apply own .closed rfl
    simp [stepProducer, found, turnProducer, phase, engageProducer, takeReply,
      SharedQueue.reply?, stepQueue, SharedQueue.step, past]
  | signalling =>
    apply own .signal rfl
    simp [stepProducer, found, turnProducer, phase, engageProducer]
  | marking =>
    apply own .markDone rfl
    simp [stepProducer, found, turnProducer, phase, engageProducer, stepQueue,
      SharedQueue.step]

/-- A consumer that has begun and does not pull can go on. -/
theorem canWork_of_consumer (agreement : executor.snapshot.Agreement)
    (responsive : executor.Responsive permits) (settled : executor.Settled)
    (born : executor.consumer.phase ≠ .unborn) (free : executor.consumer.phase ≠ .pulling)
    (running : executor.consumer.phase ≠ .ended) : executor.CanWork permits := by
  obtain ⟨outline, call, errand⟩ := agreement.consumer_outline
  rw [length_phases] at call
  have wanted : outline.errand = executor.consumer.phase.errand := errand
  have own : ∀ act : ConsumerAct β, act.isAnswer = false →
      (executor.stepConsumer act).isSome = true → executor.CanWork permits :=
    fun act decided => canWork_of_isSome (.consumer act) rfl
      (responsive.others (.consumer act) rfl decided)
  have ends := responsive.consumer
  cases phase : executor.consumer.phase with
  | unborn | pulling | ended => contradiction
  | hooking | consuming entry =>
    rw [phase] at ends wanted
    have idle : executor.shared.calls[executor.producers.length]? = some .idle :=
      idle_of_nothing call wanted
    obtain ⟨act, answer, permitted⟩ := ends rfl
    refine canWork_of_isSome (.consumer act) rfl permitted ?_
    cases answer <;>
      simp [step, stepConsumer, turnConsumer, phase, engageConsumer, beginPull, stepQueue,
        SharedQueue.step, consumerIndex, idle]
  | finishing | concluding =>
    rw [phase] at ends
    obtain ⟨act, answer, permitted⟩ := ends rfl
    refine canWork_of_isSome (.consumer act) rfl permitted ?_
    cases answer <;> simp [step, stepConsumer, turnConsumer, phase]
  | drained status =>
    apply own .report rfl
    simp [stepConsumer, turnConsumer, phase, engageConsumer]
  | delivering result =>
    apply own .deliver rfl
    simp [stepConsumer, turnConsumer, phase, engageConsumer]
  | failing error =>
    apply own .recordFailure rfl
    simp [stepConsumer, turnConsumer, phase, engageConsumer]
  | alarmed =>
    rw [phase] at wanted
    have idle := idle_of_nothing call wanted
    apply own .closeQueue rfl
    simp [stepConsumer, turnConsumer, phase, engageConsumer, stepQueue, SharedQueue.step, idle]
  | closing =>
    rw [phase] at wanted
    have past := (settled.call call).2.2 wanted
    apply own .closed rfl
    simp [stepConsumer, turnConsumer, phase, engageConsumer, takeReply, SharedQueue.reply?,
      stepQueue, SharedQueue.step, past]
  | signalling =>
    apply own .signal rfl
    simp [stepConsumer, turnConsumer, phase, engageConsumer]

/-! ### Not everybody waits -/

/-- The consumer waits for an entry only if some producer can still bring one. -/
theorem not_all_wait_of_pulling (agreement : executor.snapshot.Agreement)
    (attended : executor.shared.Attended) (settled : executor.Settled)
    (inserting : ∀ phase ∈ executor.snapshot.phases, phase = .inserting ∨ phase = .ended) :
    executor.consumer.phase ≠ .pulling := by
  intro pulling
  obtain ⟨outline, call, errand⟩ := agreement.consumer_outline
  have consumer : executor.snapshot.consumer = .pulling := pulling
  rw [consumer] at errand
  obtain ⟨-, empty, unfinished⟩ :=
    attended.empty_of_waits settled.quiet ((settled.call call).1 errand)
  have all : ∀ phase ∈ executor.snapshot.phases, phase = .ended := by
    intro phase found
    rcases inserting phase found with rfl | ended
    · obtain ⟨index, here⟩ := List.mem_iff_getElem?.mp found
      obtain ⟨outline, call, errand⟩ := agreement.producer_outline here
      obtain ⟨entry, waits⟩ := (settled.call call).2.1 errand
      obtain ⟨-, full⟩ := attended.full_of_waits settled.quiet waits
      have positive := attended.positive
      rw [empty, List.length_nil] at full
      omega
    · exact ended
  have marks : executor.shared.queue.producersDone = executor.shared.queue.producersTotal :=
    agreement.marks_of_all_ended all
  rw [Queue.producersFinished, marks] at unfinished
  simp at unfinished

/-- If the consumer has ended and the queue is open although somebody still inserts, some
producer is about to close it. -/
theorem alarmed_of_ended {producers : Nat} {history : History ρ α β}
    (reached : Reached producers executor.snapshot history)
    (stillOpen : executor.shared.queue.closed = false)
    (inserts : .inserting ∈ executor.snapshot.phases)
    (ended : executor.snapshot.consumer = .ended) : .alarmed ∈ executor.snapshot.phases := by
  have notDone : ¬executor.snapshot.Done := by
    intro done
    have past := reached.agreement.all_ended done.2.1 _ inserts
    contradiction
  rcases reached.alarm.ended ended with failed | ⟨result, sent⟩
  · rcases reached.sealed failed with closed | done | alarmed | mine
    · have shut : executor.shared.queue.closed = true := closed
      rw [stillOpen] at shut
      contradiction
    · exact absurd done notDone
    · exact alarmed
    · rw [ended] at mine
      contradiction
  · obtain ⟨-, -, requests, -⟩ := reached.consumption.delivered result sent
    refine absurd (reached.completion.finishing ?_) notDone
    simp [requests]

/-- A producer waits for room only while the consumer can still make some. -/
theorem not_all_wait_of_ended {producers : Nat} {history : History ρ α β}
    (reached : Reached producers executor.snapshot history)
    (attended : executor.shared.Attended) (settled : executor.Settled)
    (inserting : ∀ phase ∈ executor.snapshot.phases, phase = .inserting ∨ phase = .ended)
    (inserts : .inserting ∈ executor.snapshot.phases) : executor.consumer.phase ≠ .ended := by
  intro ended
  obtain ⟨index, here⟩ := List.mem_iff_getElem?.mp inserts
  obtain ⟨outline, call, errand⟩ := reached.agreement.producer_outline here
  obtain ⟨entry, awaits⟩ := (settled.call call).2.1 errand
  obtain ⟨stillOpen, -⟩ := attended.full_of_waits settled.quiet awaits
  rcases inserting _ (alarmed_of_ended reached stillOpen inserts ended) with same | same <;>
    contradiction

/-- Once everybody was spawned, somebody can go on until everybody has ended. -/
theorem works {producers : Nat} {history : History ρ α β}
    (reached : Reached producers executor.snapshot history)
    (attended : executor.shared.Attended) (responsive : executor.Responsive permits)
    (everybody : .unborn ∉ executor.snapshot.phases)
    (born : executor.consumer.phase ≠ .unborn)
    (running : (∃ phase ∈ executor.snapshot.phases, phase ≠ .ended) ∨
      executor.consumer.phase ≠ .ended) : executor.CanWork permits := by
  by_cases active : ∃ call ∈ executor.shared.calls,
      call ≠ .idle ∧ call.isWaiting = false ∧ call ≠ .returned .closed
  · obtain ⟨call, found, busy, awake, unsettled⟩ := active
    obtain ⟨caller, here⟩ := List.mem_iff_getElem?.mp found
    exact canWork_of_call reached.agreement responsive here busy awake unsettled
  have settled : executor.Settled := by
    intro call found
    by_cases idle : call = .idle
    · exact .inl idle
    by_cases waits : call.isWaiting = true
    · exact .inr (.inl waits)
    by_cases past : call = .returned .closed
    · exact .inr (.inr past)
    exact absurd ⟨call, found, idle, Bool.eq_false_iff.mpr waits, past⟩ active
  by_cases going : ∃ worker ∈ executor.producers,
      worker.phase ≠ .inserting ∧ worker.phase ≠ .ended
  · obtain ⟨worker, found, free, alive⟩ := going
    obtain ⟨index, here⟩ := List.mem_iff_getElem?.mp found
    have begun : worker.phase ≠ .unborn := by
      intro unborn
      have mem := List.mem_of_getElem? (phases_getElem? here)
      rw [unborn] at mem
      exact everybody mem
    exact canWork_of_producer reached.agreement responsive settled here begun free alive
  have inserting : ∀ phase ∈ executor.snapshot.phases, phase = .inserting ∨ phase = .ended := by
    intro phase found
    obtain ⟨worker, mem, rfl⟩ := List.mem_map.mp found
    by_cases inserts : worker.phase = .inserting
    · exact .inl inserts
    by_cases ended : worker.phase = .ended
    · exact .inr ended
    exact absurd ⟨worker, mem, inserts, ended⟩ going
  have waiting := not_all_wait_of_pulling reached.agreement attended settled inserting
  by_cases ended : executor.consumer.phase = .ended
  · obtain ⟨phase, found, alive⟩ := running.resolve_right (not_not.mpr ended)
    have inserts := (inserting phase found).resolve_right alive
    rw [inserts] at found
    exact absurd ended (not_all_wait_of_ended reached attended settled inserting found)
  · exact canWork_of_consumer reached.agreement responsive settled born waiting ended

/-! ### No standstill -/

/-- While somebody was not spawned, a call has come to a worker and can spawn it. -/
theorem spawns_next {config : ExecutorConfig} {producers somebody worker : Nat}
    {history : History ρ α β} (reached : Reached producers executor.snapshot history)
    (staffed : Staffed config executor) (spawned : executor.snapshot.Spawned somebody)
    (inside : worker ≤ executor.consumerIndex) (absent : ¬executor.snapshot.Spawned worker) :
    ∃ call newcomer next, executor.executes[call]? = some (.spawning newcomer) ∧
      executor.isSpawned newcomer = false ∧
      executor.step (.executing call .proceed) = some next ∧ next.isSpawned newcomer = true := by
  obtain ⟨newcomer, found⟩ := (staffed.everybody somebody spawned).resolve_left
    (fun all => absent (all worker inside))
  obtain ⟨call, was⟩ := List.mem_iff_getElem?.mp found
  have named : threadNamePanic? (executor.workerName newcomer) = none := by
    rw [named_iff, staffed.settings]
    exact fun unnamed => staffed.named unnamed somebody spawned
  obtain ⟨next, stepped⟩ := Option.isSome_iff_exists.mp (spawns reached was)
  refine ⟨call, newcomer, next, was, ?_, stepped, ?_⟩
  · rw [Bool.eq_false_iff, ne_eq, isSpawned_iff]
    obtain ⟨consumer, phases⟩ := reached.started.frontier _ found newcomer rfl
    rintro (⟨phase, here, alive⟩ | ⟨-, alive⟩)
    · exact alive (phases newcomer phase (Nat.le_refl _) here)
    · exact alive consumer
  · rw [isSpawned_iff]
    exact spawned_of_step stepped was named (staffed.willing.starts newcomer)
      (staffed.spawning newcomer found).1

/-- Whoever waits although no notification is on its way waits for another worker. -/
theorem waits_for_somebody {producers caller : Nat} {call : Call α} {history : History ρ α β}
    (reached : Reached producers executor.snapshot history)
    (attended : executor.shared.Attended) (quiet : executor.shared.Quiet)
    (found : executor.shared.calls[caller]? = some call) (waits : call.isWaiting = true) :
    ∃ other ∈ executor.workers, other ≠ caller ∧ executor.hasEnded other = false := by
  have agreement := reached.agreement
  have outline : executor.snapshot.outlines[caller]? = some call.outline :=
    SharedQueue.outlines_getElem? found
  have running : ∀ {index : Nat} {phase : ProducerPhase ρ},
      executor.snapshot.phases[index]? = some phase → phase ≠ .ended →
      index ∈ executor.workers ∧ executor.hasEnded index = false := by
    intro index phase here alive
    have inside := (List.getElem?_eq_some_iff.mp here).1
    refine ⟨mem_workers.mpr (Nat.le_of_lt inside), ?_⟩
    rw [Bool.eq_false_iff, ne_eq, hasEnded_iff]
    rintro (ended | ⟨rfl, -⟩)
    · rw [here] at ended
      exact alive (Option.some.inj ended)
    · exact Nat.lt_irrefl _ inside
  cases call with
  | awaitingRoom entry =>
    obtain ⟨stillOpen, -⟩ := attended.full_of_waits quiet found
    have inserting := agreement.inserting outline rfl
    have apart : executor.snapshot.phases.length ≠ caller :=
      Nat.ne_of_gt (List.getElem?_eq_some_iff.mp inserting).1
    by_cases ended : executor.snapshot.consumer = .ended
    · -- Then a producer that has failed is about to close the queue.
      obtain ⟨index, here⟩ := List.mem_iff_getElem?.mp
        (alarmed_of_ended reached stillOpen (List.mem_of_getElem? inserting) ended)
      obtain ⟨present, alive⟩ := running here (by simp)
      refine ⟨index, present, ?_, alive⟩
      rintro rfl
      cases here.symm.trans inserting
    · refine ⟨_, mem_workers.mpr (Nat.le_refl _), apart, ?_⟩
      rw [Bool.eq_false_iff, ne_eq, hasEnded_iff]
      rintro (past | ⟨-, past⟩)
      · exact Nat.lt_irrefl _ (List.getElem?_eq_some_iff.mp past).1
      · exact ended past
  | awaitingEntry =>
    obtain ⟨-, -, unfinished⟩ := attended.empty_of_waits quiet found
    obtain ⟨rfl, -⟩ := agreement.pulling outline rfl
    by_cases all : ∀ phase ∈ executor.snapshot.phases, phase = .ended
    · have marks : executor.shared.queue.producersDone = executor.shared.queue.producersTotal :=
        agreement.marks_of_all_ended all
      rw [Queue.producersFinished, marks] at unfinished
      simp at unfinished
    · push Not at all
      obtain ⟨phase, found, alive⟩ := all
      obtain ⟨index, here⟩ := List.mem_iff_getElem?.mp found
      obtain ⟨present, lasting⟩ := running here alive
      exact ⟨index, present, Nat.ne_of_lt (List.getElem?_eq_some_iff.mp here).1, lasting⟩
  | _ => contradiction

/-- Every position was spawned, so no worker is left out. -/
theorem everybody_born (all : ∀ other ≤ executor.consumerIndex, executor.snapshot.Spawned other) :
    .unborn ∉ executor.snapshot.phases ∧ executor.consumer.phase ≠ .unborn := by
  constructor
  · intro unborn
    obtain ⟨index, here⟩ := List.mem_iff_getElem?.mp unborn
    have inside := (List.getElem?_eq_some_iff.mp here).1
    rw [length_phases] at inside
    rcases all index (Nat.le_of_lt inside) with ⟨phase, found, alive⟩ | ⟨same, -⟩
    · rw [here] at found
      exact alive (Option.some.inj found).symm
    · rw [length_phases] at same
      exact Nat.ne_of_lt inside same
  · rcases all _ (Nat.le_refl _) with ⟨phase, found, -⟩ | ⟨-, alive⟩
    · have inside := (List.getElem?_eq_some_iff.mp found).1
      rw [length_phases] at inside
      exact absurd inside (Nat.lt_irrefl _)
    · exact alive

theorem running_of_not_ended {worker : Nat} (present : worker ∈ executor.workers)
    (running : executor.hasEnded worker = false) :
    (∃ phase ∈ executor.snapshot.phases, phase ≠ .ended) ∨ executor.consumer.phase ≠ .ended := by
  rw [Bool.eq_false_iff, ne_eq, hasEnded_iff] at running
  rcases Nat.lt_or_eq_of_le (mem_workers.mp present) with inside | rfl
  · have here := List.getElem?_eq_getElem inside
    refine .inl ⟨_, List.mem_of_getElem? here, fun ended => ?_⟩
    rw [ended] at here
    exact running (.inl here)
  · exact .inr fun consumer => running (.inr ⟨rfl, consumer⟩)

/-- Whatever callbacks do, as long as each of them ends in some way, and whoever shuts down:
once some worker was spawned and until all of them have ended, some worker or some call on the
queue can take a step, or a worker that is not there yet can be spawned.  And whoever waits
inside the queue although no notification is on its way waits for a worker that has not
ended. -/
theorem no_standstill {config : ExecutorConfig} {hooked : Bool} {kinds : List SourceKind}
    {events : List (Event ρ α β)} {first worker : Nat}
    (ran : (create config hooked kinds).run events = some executor)
    (responsive : executor.Responsive permits) (started : executor.isSpawned first = true)
    (present : worker ∈ executor.workers) (running : executor.hasEnded worker = false) :
    (executor.CanWork permits ∨
      ∃ call newcomer next, executor.executes[call]? = some (.spawning newcomer) ∧
        executor.isSpawned newcomer = false ∧
        executor.step (.executing call .proceed) = some next ∧
        next.isSpawned newcomer = true) ∧
      ∀ caller call, executor.shared.calls[caller]? = some call → call.isWaiting = true →
        executor.shared.Quiet →
        ∃ other ∈ executor.workers, other ≠ caller ∧ executor.hasEnded other = false := by
  obtain ⟨history, reached⟩ := reached_of_run ran
  have attended := attended_of_run (attended_create config hooked kinds) ran
  have staffed := staffed_of_run ran
  rw [isSpawned_iff] at started
  constructor
  · by_cases all : ∀ other ≤ executor.consumerIndex, executor.snapshot.Spawned other
    · left
      obtain ⟨everybody, born⟩ := everybody_born all
      exact works reached attended responsive everybody born (running_of_not_ended present running)
    · right
      push Not at all
      obtain ⟨other, inside, absent⟩ := all
      exact spawns_next reached staffed started inside absent
  · intro caller call found waits quiet
    exact waits_for_somebody reached attended quiet found waits

/-- A callback panics. -/
def Event.isPanic : Event ρ α β → Bool
  | .producer _ act => act.isPanic
  | .consumer act => act.isPanic
  | _ => false

/-- A world in which whatever callback runs panics. -/
def onlyPanics (event : Event ρ α β) : Prop := event.isAnswer = true → event.isPanic = true

theorem responsive_onlyPanics (executor : Executor ρ α β) :
    executor.Responsive onlyPanics := by
  constructor
  · intro event work decided answers
    rw [decided] at answers
    contradiction
  · intro index worker found runs
    cases phase : worker.phase with
    | hooking => exact ⟨_, .hookPanicked .other, fun _ => rfl⟩
    | sourcing answer => exact ⟨_, .sourcePanicked answer .other, fun _ => rfl⟩
    | transforming record => exact ⟨_, .transformPanicked record .other, fun _ => rfl⟩
    | _ =>
      rw [phase] at runs
      contradiction
  · exact fun index entry found => ⟨_, .panicked .other, fun _ => rfl⟩
  · intro runs
    cases phase : executor.consumer.phase with
    | hooking => exact ⟨_, .hookPanicked .other, fun _ => rfl⟩
    | consuming entry => exact ⟨_, .consumePanicked entry .other, fun _ => rfl⟩
    | finishing => exact ⟨_, .finishPanicked .other, fun _ => rfl⟩
    | concluding => exact ⟨_, .concludePanicked .other, fun _ => rfl⟩
    | _ =>
      rw [phase] at runs
      contradiction

/-- A producer waits for room while the consumer consumes. -/
def crowdedRun : List (Event Nat Nat Nat) :=
  [.execute, .executing 0 (.readFlag false), .executing 0 .proceed, .executing 0 .proceed,
    .executing 0 .proceed, .executing 0 .proceed, .executing 0 .proceed, .executing 0 .proceed,
    .enterQueue 1, .producer 0 (.offered 7), .producer 0 .checkFlag, .producer 0 (.transformed 1),
    .producer 0 (.measured 10), .enterQueue 0, .notifyQueue 0 (some 1), .reportQueue 0,
    .producer 0 .inserted, .enterQueue 1, .notifyQueue 1 none, .reportQueue 1, .consumer .pulled,
    .producer 0 (.offered 8), .producer 0 .checkFlag, .producer 0 (.transformed 2),
    .producer 0 (.measured 10), .enterQueue 0, .notifyQueue 0 none, .reportQueue 0,
    .producer 0 .inserted, .producer 0 (.offered 9), .producer 0 .checkFlag,
    .producer 0 (.transformed 3), .producer 0 (.measured 10), .enterQueue 0]

/-- No call is on its way to spawn workers. -/
def nobodySpawns (executor : Executor ρ α β) : Bool :=
  executor.executes.all fun phase => !phase.isStarting

theorem no_standstill_inhabited :
    ∃ executor : Executor Nat Nat Nat,
      (create { writeBufferLimitBytes := 10 } false [.records]).run crowdedRun = some executor ∧
        executor.shared.calls[0]? = some (.awaitingRoom 3) ∧ executor.Responsive onlyPanics ∧
        executor.isSpawned 0 = true ∧ 0 ∈ executor.workers ∧ executor.hasEnded 0 = false ∧
        executor.shared.Quiet ∧ executor.CanWork onlyPanics ∧
        ∃ other ∈ executor.workers, other ≠ 0 ∧ executor.hasEnded other = false := by
  have runs : ((create { writeBufferLimitBytes := 10 } false [.records]).run crowdedRun).map
      (fun executor => executor.nobodySpawns && executor.isSpawned 0 &&
        decide (0 ∈ executor.workers) && !executor.hasEnded 0 &&
        decide (executor.shared.calls[0]? = some (.awaitingRoom 3)) &&
        executor.shared.calls.all (fun call => !call.owesNotification && !call.wasNotified)) =
      some true := by
    decide +kernel
  obtain ⟨executor, ran, holds⟩ := Option.map_eq_some_iff.mp runs
  simp only [Bool.and_eq_true, Bool.not_eq_true', decide_eq_true_eq, List.all_eq_true] at holds
  obtain ⟨⟨⟨⟨⟨nobody, started⟩, present⟩, running⟩, waits⟩, quiet⟩ := holds
  have responsive := responsive_onlyPanics executor
  obtain ⟨progress, company⟩ := no_standstill ran responsive started present running
  refine ⟨executor, ran, waits, responsive, started, present, running, quiet, ?_,
    company 0 _ waits rfl quiet⟩
  rcases progress with works | ⟨call, newcomer, next, was, -⟩
  · exact works
  · have starting := List.all_eq_true.mp nobody _ (List.mem_of_getElem? was)
    contradiction

end Executor

end BoundedIngest

/-
Module: BoundedIngest.Proofs.Executor.Calm
Purpose: In an undisturbed run nobody fails, halts or is turned away.
Main exports:
  SharedQueue.Calm.step, Executor.Calm.stays, Undisturbed.reached, Undisturbed.calm
-/
import BoundedIngest.Proofs.Executor.Signals
import BoundedIngest.Proofs.Executor.Undisturbed

namespace BoundedIngest

variable {ρ α β : Type}

/-! ### Queues -/

namespace SharedQueue

variable {shared next : SharedQueue α} {caller : Nat}

theorem Calm.set {outline : Outline α} (calm : shared.Calm)
    (closed : next.queue.closed = shared.queue.closed)
    (outlines : next.outlines = shared.outlines.set caller outline)
    (accepted : outline.isCalm = true) : next.Calm := by
  constructor
  · rw [closed, calm.stillOpen]
  · rw [outlines]
    intro other found
    rcases List.mem_or_eq_of_mem_set found with found | rfl
    · exact calm.calls other found
    · exact accepted

theorem Calm.same (calm : shared.Calm) (closed : next.queue.closed = shared.queue.closed)
    (outlines : next.outlines = shared.outlines) : next.Calm := by
  constructor
  · rw [closed, calm.stillOpen]
  · rw [outlines]
    exact calm.calls

/-- As long as somebody inserts, nobody is turned away. -/
theorem Calm.enter (calm : shared.Calm)
    (running : ∀ entry, shared.outlines[caller]? = some (.inserting entry) →
      shared.queue.refuses = false)
    (entered : shared.enter caller = some next) : next.Calm := by
  cases entered_of_enter entered with
  | refused entry was reason contents outlines =>
    rw [running entry was] at reason
    contradiction
  | delayed contents outlines => exact calm.same (by rw [contents]) outlines
  | pushed entry was stillOpen contents outlines =>
    exact calm.set (by rw [contents]; rfl) outlines rfl
  | taken entry was stillOpen contents outlines =>
    obtain ⟨rest, front, queue⟩ := Queue.front_of_pop contents
    exact calm.set (by rw [queue]) outlines rfl
  | endedClosed was reason contents outlines =>
    rw [calm.stillOpen] at reason
    contradiction
  | endedDone was reason contents outlines => exact calm.set (by rw [contents]) outlines rfl
  | starved contents outlines => exact calm.same (by rw [contents]) outlines

theorem Calm.leave (calm : shared.Calm) (left : shared.step (.leave caller) = some next) :
    next.Calm := by
  simp only [SharedQueue.step] at left
  split at left
  · cases left
    exact calm.set rfl (outlines_setCall _) rfl
  · contradiction

theorem Calm.insert {entry : α} (calm : shared.Calm)
    (began : shared.step (.insert caller entry) = some next) : next.Calm := by
  obtain ⟨-, queue, outlines⟩ := insert_outline began
  exact calm.set (by rw [queue]) outlines rfl

theorem Calm.pull (calm : shared.Calm) (began : shared.step (.pull caller) = some next) :
    next.Calm := by
  obtain ⟨-, queue, outlines⟩ := pull_outline began
  exact calm.set (by rw [queue]) outlines rfl

theorem Calm.markDone (calm : shared.Calm) : shared.markDone.Calm := by
  have marked : shared.step .markDone = some shared.markDone := rfl
  obtain ⟨queue, outlines⟩ := markDone_outline marked
  exact calm.same (by rw [queue]; rfl) outlines

end SharedQueue

namespace Executor

variable {executor next : Executor ρ α β}

/-- A call that inserts belongs to a producer that is not done. -/
theorem Calm.running (calm : executor.Calm) (agreement : executor.snapshot.Agreement)
    {caller : Nat} {entry : α}
    (found : executor.shared.outlines[caller]? = some (.inserting entry)) :
    executor.shared.queue.refuses = false := by
  have inserting := agreement.inserting found rfl
  have unfinished : ¬ executor.snapshot.registered ≤ executor.snapshot.marks := by
    intro finished
    have ended := agreement.all_ended finished _ (List.mem_of_getElem? inserting)
    contradiction
  have running : executor.shared.queue.producersFinished = false := by
    simpa [Queue.producersFinished, snapshot] using unfinished
  rw [Queue.refuses, calm.queue.stillOpen, running]
  rfl

/-! ### Workers -/

/-- What a step of a worker that does not fail leaves alone. -/
structure SameCalls (executor next : Executor ρ α β) : Prop where
  refuses : next.refuses = executor.refuses := by rfl
  failure : next.failure = executor.failure := by rfl
  shutdowns : next.shutdowns = executor.shutdowns := by rfl
  executes : next.executes = executor.executes := by rfl
  hasParts : next.hasParts = executor.hasParts := by rfl
  hasSender : next.hasSender = executor.hasSender := by rfl
  hasReceiver : next.hasReceiver = executor.hasReceiver := by rfl

/-- A step of a worker, which the call that executes does not notice. -/
theorem Calm.work (calm : executor.Calm) (queue : next.shared.Calm)
    (producers : ∀ worker ∈ next.producers, worker.flag = false ∧ worker.phase.isCalm = true)
    (consumer : next.consumer.phase.isCalm = true)
    (unborn : executor.consumer.phase = .unborn → next.consumer.phase = .unborn)
    (same : SameCalls executor next)
    (connected : 1 ≤ next.channel.senders ∧ (next.consumer.phase ≠ .ended →
      (∀ panic, executor.executes ≠ [.panicked panic]) → 2 ≤ next.channel.senders)) :
    next.Calm := by
  refine ⟨same.refuses ▸ calm.willing, queue, producers, consumer, ?_, ?_, ?_, ?_, ?_⟩
  · rw [same.failure, calm.failure]
  · rw [same.shutdowns, calm.shutdowns]
  · rw [same.executes, same.hasParts, same.hasSender, same.hasReceiver]
    rcases calm.caller with none | ⟨phase, only, supplies⟩
    · exact .inl none
    · refine .inr ⟨phase, only, ?_⟩
      unfold Supplies at supplies ⊢
      rw [same.hasParts, same.hasSender, same.hasReceiver]
      exact supplies
  · rw [same.executes]
    exact connected
  · rw [same.executes]
    exact fun panic stranded => unborn (calm.stranded panic stranded)

/-- A step on the queue. -/
theorem Calm.withQueue {shared : SharedQueue α} (calm : executor.Calm) (queue : shared.Calm) :
    Calm { executor with shared } :=
  calm.work queue calm.producers calm.consumer id {} calm.connected

theorem Calm.setProducerPhase {index : Nat} {phase : ProducerPhase ρ} (calm : executor.Calm)
    (calmly : phase.isCalm = true) : (executor.setProducerPhase index phase).Calm := by
  refine calm.work calm.queue ?_ calm.consumer id {} calm.connected
  intro worker found
  obtain ⟨position, here⟩ := List.mem_iff_getElem?.mp found
  dsimp only [Executor.setProducerPhase] at here
  rw [List.getElem?_modify] at here
  obtain ⟨old, was, rfl⟩ := Option.map_eq_some_iff.mp here
  obtain ⟨lowered, before⟩ := calm.producers old (List.mem_of_getElem? was)
  split
  · exact ⟨lowered, calmly⟩
  · exact ⟨lowered, before⟩

theorem Calm.producer {index : Nat} {worker : ProducerWorker ρ} {act : ProducerAct ρ α}
    (calm : executor.Calm) (found : executor.producers[index]? = some worker)
    (step : ProducerStep executor index worker act next) : next.Calm := by
  cases step with
  | hooked was => exact calm.setProducerPhase rfl
  | offered answer record was => exact calm.setProducerPhase rfl
  | exhausted answer was => exact calm.setProducerPhase rfl
  | checked record was => exact calm.setProducerPhase rfl
  | inserts record entry shared was began =>
    exact (calm.withQueue (calm.queue.insert began)).setProducerPhase rfl
  | measured size shared was folded =>
    obtain ⟨queue, outlines⟩ := SharedQueue.measured_outline folded
    exact calm.withQueue (calm.queue.same (by rw [queue]) outlines)
  | accepted shared was replied left =>
    have moved : Calm { executor with shared } := calm.withQueue (calm.queue.leave left)
    refine moved.work moved.queue ?_ calm.consumer id {} calm.connected
    intro other here
    rcases List.mem_or_eq_of_mem_set here with before | rfl
    · exact calm.producers other before
    · exact ⟨(calm.producers worker (List.mem_of_getElem? found)).1, rfl⟩
  | reported measurement was =>
    have moved : (executor.setProducerPhase index .marking).Calm := calm.setProducerPhase rfl
    exact moved.withQueue (moved.queue.same rfl rfl)
  | marked was => exact (calm.withQueue calm.queue.markDone).setProducerPhase rfl

/-- The consumer goes from one phase to another, neither of them an end. -/
theorem Calm.setConsumer {consumer : ConsumerWorker α β} (calm : executor.Calm)
    (alive : executor.consumer.phase ≠ .unborn) (running : executor.consumer.phase ≠ .ended)
    (calmly : consumer.phase.isCalm = true) : Calm { executor with consumer } :=
  calm.work calm.queue calm.producers calmly (fun unborn => absurd unborn alive) {}
    ⟨calm.connected.1, fun _ => calm.connected.2 running⟩

theorem Calm.consumes {act : ConsumerAct β} (calm : executor.Calm)
    (step : ConsumerStep executor act next) : next.Calm := by
  cases step with
  | starts shared was began =>
    exact (calm.withQueue (calm.queue.pull began)).setConsumer (by simp [was]) (by simp [was]) rfl
  | goesOn entry count shared was began =>
    exact (calm.withQueue (calm.queue.pull began)).setConsumer (by simp [was]) (by simp [was]) rfl
  | receives entry shared was replied left =>
    exact (calm.withQueue (calm.queue.leave left)).setConsumer (by simp [was]) (by simp [was]) rfl
  | drains shared was replied left =>
    exact (calm.withQueue (calm.queue.leave left)).setConsumer (by simp [was]) (by simp [was]) rfl
  | reports measurement was =>
    have moved : (executor.setConsumerPhase .finishing).Calm :=
      calm.setConsumer (by simp [was]) (by simp [was]) rfl
    exact moved.withQueue (moved.queue.same rfl rfl)
  | finished was => exact calm.setConsumer (by simp [was]) (by simp [was]) rfl
  | concluded result was => exact calm.setConsumer (by simp [was]) (by simp [was]) rfl
  | delivers result was =>
    have there : ∀ panic, executor.executes ≠ [.panicked panic] := by
      intro panic stranded
      have unborn := calm.stranded panic stranded
      rw [was] at unborn
      contradiction
    have senders := calm.connected.2 (by simp [was]) there
    refine calm.work calm.queue calm.producers rfl (fun unborn => ?_) {}
      ⟨?_, fun alive => absurd rfl alive⟩
    · rw [was] at unborn
      contradiction
    · exact Nat.le_sub_one_of_lt senders

/-! ### The call that executes -/

/-- What a step of the call that executes leaves alone, unless it panics. -/
structure SameLinks (executor next : Executor ρ α β) : Prop where
  refuses : next.refuses = executor.refuses := by rfl
  failure : next.failure = executor.failure := by rfl
  shutdowns : next.shutdowns = executor.shutdowns := by rfl
  senders : next.channel.senders = executor.channel.senders := by rfl

/-- A step of the call that executes does nothing to workers. -/
structure SameWorkers (executor next : Executor ρ α β) : Prop where
  config : next.config = executor.config := by rfl
  producers : next.producers = executor.producers := by rfl
  consumer : next.consumer = executor.consumer := by rfl

theorem executes_set {old new : ExecutePhase β} (only : executor.executes = [old]) :
    executor.executes.set 0 new = [new] := by
  rw [only]
  rfl

/-- A step of the call that executes, unless it panics. -/
theorem Calm.call {old new : ExecutePhase β} (calm : executor.Calm)
    (only : executor.executes = [old]) (running : ∀ panic, old ≠ .panicked panic)
    (executes : next.executes = executor.executes.set 0 new) (supplies : next.Supplies new)
    (goesOn : ∀ panic, new ≠ .panicked panic) (queue : next.shared.Calm)
    (producers : ∀ worker ∈ next.producers, worker.flag = false ∧ worker.phase.isCalm = true)
    (consumer : next.consumer.phase.isCalm = true)
    (ended : next.consumer.phase ≠ .ended → executor.consumer.phase ≠ .ended)
    (links : SameLinks executor next) : next.Calm := by
  rw [executes_set only] at executes
  refine ⟨links.refuses ▸ calm.willing, queue, producers, consumer, ?_, ?_, ?_, ?_, ?_⟩
  · rw [links.failure, calm.failure]
  · rw [links.shutdowns, calm.shutdowns]
  · exact .inr ⟨new, executes, supplies⟩
  · rw [links.senders]
    refine ⟨calm.connected.1, fun alive _ => calm.connected.2 (ended alive) fun panic stranded => ?_⟩
    rw [only] at stranded
    exact running panic (List.singleton_inj.mp stranded)
  · intro panic stranded
    rw [executes] at stranded
    exact absurd (List.singleton_inj.mp stranded) (goesOn panic)

/-- A step in which the call that executes does nothing to workers. -/
theorem Calm.callAlone {old new : ExecutePhase β} (calm : executor.Calm)
    (only : executor.executes = [old]) (running : ∀ panic, old ≠ .panicked panic)
    (executes : next.executes = executor.executes.set 0 new) (supplies : next.Supplies new)
    (goesOn : ∀ panic, new ≠ .panicked panic) (queue : next.shared.Calm)
    (workers : SameWorkers executor next) (links : SameLinks executor next) : next.Calm := by
  refine calm.call only running executes supplies goesOn queue ?_ ?_ ?_ links
  · rw [workers.producers]
    exact calm.producers
  · rw [workers.consumer]
    exact calm.consumer
  · rw [workers.consumer]
    exact id

/-- The call that executes panics before it has spawned the consumer. -/
theorem Calm.strands {worker : Nat} {panic : Panic} (calm : executor.Calm)
    (unborn : executor.consumer.phase = .unborn)
    (only : executor.executes = [.spawning worker]) :
    Calm { executor.setExecute 0 (.panicked panic) with channel := executor.channel.hangUp } := by
  have executes : executor.executes.set 0 (.panicked panic) = [.panicked panic] :=
    executes_set only
  have two : 2 ≤ executor.channel.senders :=
    calm.connected.2 (by simp [unborn]) (by simp [only])
  refine ⟨calm.willing, calm.queue, calm.producers, calm.consumer, calm.failure, calm.shutdowns,
    .inr ⟨_, executes, trivial⟩, ⟨Nat.le_sub_one_of_lt two, fun _ there => ?_⟩, fun _ _ => unborn⟩
  exact absurd executes (there panic)

theorem Calm.supplied {phase : ExecutePhase β} (calm : executor.Calm)
    (only : executor.executes = [phase]) : executor.Supplies phase := by
  rcases calm.caller with ⟨none, -⟩ | ⟨other, same, supplies⟩
  · rw [only] at none
    contradiction
  · rw [only] at same
    cases same
    exact supplies

theorem Calm.calls {phase : ExecutePhase β} {act : ExecuteAct} (calm : executor.Calm)
    (started : executor.snapshot.Started)
    (good : ∀ signal ∈ executor.channel.messages, ∃ result, signal = .finished result)
    (only : executor.executes = [phase]) (step : CallerStep executor phase act next) :
    next.Calm := by
  have supplies := calm.supplied only
  have unborn : ∀ worker, phase = .spawning worker → executor.consumer.phase = .unborn := by
    rintro worker rfl
    exact (started.frontier (.spawning worker) (by simp [snapshot, only]) worker rfl).1
  cases step with
  | enters => exact calm.callAlone only (by simp) rfl supplies (by simp) calm.queue {} {}
  | takesParts =>
    exact calm.callAlone only (by simp) rfl ⟨rfl, supplies.2⟩ (by simp) calm.queue {} {}
  | takesSender =>
    exact calm.callAlone only (by simp) rfl ⟨rfl, rfl, supplies.2.2⟩ (by simp) calm.queue {} {}
  | takesReceiver | starts | timesOut | checksFlag | checksSlot =>
    exact calm.callAlone only (by simp) rfl trivial (by simp) calm.queue {} {}
  | fails worker panic unnamed => exact calm.strands (unborn worker rfl) only
  | spawnsProducer worker named inside =>
    have born : (if executor.hooked then .hooking else .sourcing none : ProducerPhase ρ).isCalm =
        true := by
      split
      · rfl
      · rfl
    have moved : (executor.setProducerPhase worker _).Calm := calm.setProducerPhase born
    exact moved.callAlone only (by simp) rfl trivial (by simp) calm.queue {} {}
  | spawnsHook worker named last =>
    exact calm.call only (by simp) rfl trivial (by simp) calm.queue calm.producers rfl
      (by simp [unborn worker rfl]) {}
  | spawnsPull worker shared named last began =>
    exact calm.call only (by simp) rfl trivial (by simp) (calm.queue.pull began) calm.producers rfl
      (by simp [unborn worker rfl]) {}
  | receives message rest front =>
    obtain ⟨result, rfl⟩ := good message (by simp [front])
    exact calm.callAlone only (by simp) rfl ⟨result, rfl⟩ (by simp) calm.queue {} {}
  | givesUp empty alone =>
    have some := calm.connected.1
    omega
  | judges result | settles result =>
    exact calm.callAlone only (by simp) rfl ⟨result, rfl⟩ (by simp) calm.queue {} {}
  | records result measurement =>
    exact calm.callAlone only (by simp) rfl ⟨result, rfl⟩ (by simp) (calm.queue.same rfl rfl) {} {}

theorem Calm.begins (calm : executor.Calm) (none : executor.executes = []) :
    Calm { executor with executes := [.entering] } := by
  have supplies : executor.hasParts = true ∧ executor.hasSender = true ∧
      executor.hasReceiver = true := by
    rcases calm.caller with ⟨-, supplies⟩ | ⟨phase, only, -⟩
    · exact supplies
    · rw [none] at only
      contradiction
  refine ⟨calm.willing, calm.queue, calm.producers, calm.consumer, calm.failure, calm.shutdowns,
    .inr ⟨_, rfl, supplies⟩, ⟨calm.connected.1, fun alive _ => calm.connected.2 alive ?_⟩, ?_⟩
  · simp [none]
  · simp

/-! ### All steps -/

/-- Whatever happens next in a calm executor, it stays calm. -/
theorem Calm.stays {event : Event ρ α β} (calm : executor.Calm)
    (agreement : executor.snapshot.Agreement) (started : executor.snapshot.Started)
    (good : ∀ signal ∈ executor.channel.messages, ∃ result, signal = .finished result)
    (step : CalmStep executor event next) : next.Calm := by
  cases step with
  | enters caller shared stepped =>
    exact calm.withQueue (calm.queue.enter (fun entry found => calm.running agreement found)
      stepped)
  | notifies caller target shared stepped =>
    obtain ⟨queue, outlines⟩ := SharedQueue.notify_outline stepped
    exact calm.withQueue (calm.queue.same (by rw [queue]) outlines)
  | reports caller shared stepped =>
    obtain ⟨queue, outlines⟩ := SharedQueue.report_outline stepped
    exact calm.withQueue (calm.queue.same (by rw [queue]) outlines)
  | producer found step => exact calm.producer found step
  | consumer step => exact calm.consumes step
  | begins none => exact calm.begins none
  | caller only step => exact calm.calls started good only step

theorem calm_create (config : ExecutorConfig) (hooked : Bool) (kinds : List SourceKind) :
    (create config hooked kinds : Executor ρ α β).Calm := by
  refine ⟨fun _ => rfl, ⟨rfl, ?_⟩, ?_, rfl, rfl, rfl, .inl ⟨rfl, rfl, rfl, rfl⟩,
    ⟨?_, fun _ _ => ?_⟩, ?_⟩
  · intro outline found
    simp [create, SharedQueue.start, SharedQueue.outlines, Call.outline] at found
    rw [found]
    rfl
  · intro worker found
    obtain ⟨kind, -, rfl⟩ := List.mem_map.mp found
    exact ⟨rfl, rfl⟩
  · exact Nat.le_succ 1
  · exact Nat.le_refl 2
  · simp [create]

end Executor

namespace Undisturbed

variable {assignment : Assignment ρ α} {config : ExecutorConfig} {hooked : Bool}
  {chronicle : Chronicle ρ α β}

theorem reached (undisturbed : Undisturbed assignment config hooked chronicle) :
    Reached assignment.sources.length chronicle.executor.snapshot chronicle.history := by
  induction undisturbed with
  | start =>
    rw [← List.length_map Source.kind]
    exact Chronicle.reached_start config hooked _
  | step _ _ stepped ih => exact Chronicle.reached_of_step ih stepped

/-- Nobody sends a failure as long as the slot is empty. -/
theorem good_of_reached {producers : Nat} {snapshot : Snapshot ρ α β} {history : History ρ α β}
    (reached : Reached producers snapshot history) (empty : snapshot.failure = none) :
    ∀ signal ∈ snapshot.messages, ∃ result, signal = .finished result := by
  intro signal found
  have sent := reached.carried.messages signal found
  have balance := reached.alarm.balance
  rw [empty] at balance
  cases signal with
  | finished result => exact ⟨result, rfl⟩
  | failed =>
    have counted : 0 < history.signals.countP Signal.isFailed :=
      List.countP_pos_iff.mpr ⟨_, sent, rfl⟩
    simp only [Option.isSome_none, Bool.toNat_false] at balance
    omega

theorem calm (undisturbed : Undisturbed assignment config hooked chronicle) :
    chronicle.executor.Calm := by
  induction undisturbed with
  | start => exact Executor.calm_create config hooked _
  | step undisturbed permitted stepped ih =>
    have reached := undisturbed.reached
    exact ih.stays reached.agreement reached.started (good_of_reached reached ih.failure)
      (ih.step permitted (Chronicle.executor_of_step stepped))

end Undisturbed

end BoundedIngest

/-
Module: BoundedIngest.Proofs.Executor.Moves
Purpose: Every step of an executor is a move of its snapshot.
Main exports:
  Executor.move_of_step
-/
import BoundedIngest.Proofs.Executor.Snapshot

namespace BoundedIngest.Executor

variable {ρ α β : Type} {executor next : Executor ρ α β}

/-! ### What the building blocks do to a snapshot -/

theorem map_phase_modify (producers : List (ProducerWorker ρ)) (index : Nat)
    (phase : ProducerPhase ρ) :
    (producers.modify index fun worker => { worker with phase }).map (·.phase) =
      (producers.map (·.phase)).set index phase := by
  induction producers generalizing index with
  | nil => simp
  | cons worker rest ih =>
    cases index with
    | zero => simp
    | succ index => simp [ih]

/-- A field that a modification leaves alone. -/
theorem map_modify_same {δ : Type} (producers : List (ProducerWorker ρ)) (index : Nat)
    (change : ProducerWorker ρ → ProducerWorker ρ) (field : ProducerWorker ρ → δ)
    (same : ∀ worker, field (change worker) = field worker) :
    (producers.modify index change).map field = producers.map field := by
  induction producers generalizing index with
  | nil => simp
  | cons worker rest ih =>
    cases index with
    | zero => simp [same]
    | succ index => simp [ih]

@[simp] theorem snapshot_setProducerPhase (index : Nat) (phase : ProducerPhase ρ) :
    (executor.setProducerPhase index phase).snapshot =
      executor.snapshot.setPhase index phase := by
  simp [snapshot, setProducerPhase, Snapshot.setPhase, map_phase_modify, map_modify_same]

theorem snapshot_setProducer (index : Nat) (worker : ProducerWorker ρ) :
    (executor.setProducer index worker).snapshot =
      { executor.snapshot.setPhase index worker.phase with
        produced := executor.snapshot.produced.set index worker.produced } := by
  simp [snapshot, setProducer, Snapshot.setPhase, List.map_set]

@[simp] theorem snapshot_setConsumerPhase (phase : ConsumerPhase α β) :
    (executor.setConsumerPhase phase).snapshot =
      { executor.snapshot with consumer := phase } := rfl

@[simp] theorem snapshot_setExecute (call : Nat) (phase : ExecutePhase β) :
    (executor.setExecute call phase).snapshot = executor.snapshot.setExecute call phase := rfl

@[simp] theorem snapshot_setShutdown (call : Nat) (phase : ShutdownPhase) :
    (executor.setShutdown call phase).snapshot =
      executor.snapshot.setShutdown call phase := rfl

@[simp] theorem snapshot_record (measurement : Measurement) :
    (executor.record measurement).snapshot = executor.snapshot := rfl

@[simp] theorem snapshot_containPanic (stage : Stage) (panic : Panic) :
    (executor.containPanic stage panic).snapshot = executor.snapshot :=
  rfl

@[simp] theorem snapshot_beginShutdown :
    executor.beginShutdown.snapshot =
      { executor.snapshot with
        outlines := executor.snapshot.outlines ++ [.idle]
        shutdowns := executor.snapshot.shutdowns ++ [.entering] } := by
  simp [snapshot, beginShutdown, SharedQueue.outlines, Call.outline]

theorem phases_getElem? {index : Nat} {worker : ProducerWorker ρ}
    (found : executor.producers[index]? = some worker) :
    executor.snapshot.phases[index]? = some worker.phase := by
  simp [snapshot, found]

theorem produced_getElem? {index : Nat} {worker : ProducerWorker ρ}
    (found : executor.producers[index]? = some worker) :
    executor.snapshot.produced[index]? = some worker.produced := by
  simp [snapshot, found]

@[simp] theorem length_phases : executor.snapshot.phases.length = executor.consumerIndex := by
  simp [snapshot, consumerIndex]

/-- A step of the queue that changes no outline and no contents. -/
theorem snapshot_of_same {shared : SharedQueue α}
    (contents : SharedQueue.SameContents executor.shared.queue shared.queue)
    (outlines : shared.outlines = executor.shared.outlines) :
    ({ executor with shared } : Executor ρ α β).snapshot = executor.snapshot := by
  unfold snapshot
  dsimp only
  rw [contents, outlines]

/-- A step of the queue that changes one outline and no contents. -/
theorem snapshot_of_shared {shared : SharedQueue α} {caller : Nat} {outline : Outline α}
    (contents : SharedQueue.SameContents executor.shared.queue shared.queue)
    (outlines : shared.outlines = executor.shared.outlines.set caller outline) :
    ({ executor with shared } : Executor ρ α β).snapshot =
      executor.snapshot.setOutline caller outline := by
  unfold snapshot Snapshot.setOutline
  dsimp only
  rw [contents, outlines]

theorem done_of_status (reason : executor.shared.queue.status = .done) :
    executor.snapshot.Done := by
  unfold Queue.status Queue.producersFinished at reason
  split at reason
  · contradiction
  rename_i notClosed
  split at reason
  · contradiction
  rename_i finished
  split at reason
  · rename_i empty
    exact ⟨by simpa [snapshot] using notClosed, by simpa [snapshot] using finished,
      by simpa [snapshot] using empty⟩
  · contradiction

theorem shared_of_stepQueue {event : SharedQueue.Event α}
    (stepped : executor.stepQueue event = some next) :
    ∃ shared, executor.shared.step event = some shared ∧ { executor with shared } = next :=
  Option.map_eq_some_iff.mp stepped

theorem snapshot_insert {caller : Nat} {entry : α}
    (stepped : executor.stepQueue (.insert caller entry) = some next) :
    executor.snapshot.outlines[caller]? = some .idle ∧
      next.snapshot = executor.snapshot.setOutline caller (.inserting entry) := by
  obtain ⟨shared, inserted, rfl⟩ := shared_of_stepQueue stepped
  obtain ⟨was, queue, outlines⟩ := SharedQueue.insert_outline inserted
  exact ⟨was, snapshot_of_shared (SharedQueue.sameContents_of_eq queue) outlines⟩

theorem snapshot_pull {caller : Nat} (stepped : executor.stepQueue (.pull caller) = some next) :
    executor.snapshot.outlines[caller]? = some .idle ∧
      next.snapshot = executor.snapshot.setOutline caller .pulling := by
  obtain ⟨shared, pulled, rfl⟩ := shared_of_stepQueue stepped
  obtain ⟨was, queue, outlines⟩ := SharedQueue.pull_outline pulled
  exact ⟨was, snapshot_of_shared (SharedQueue.sameContents_of_eq queue) outlines⟩

theorem snapshot_measuringPanicked {caller : Nat}
    (stepped : executor.stepQueue (.measuringPanicked caller) = some next) :
    (∃ entry, executor.snapshot.outlines[caller]? = some (.inserting entry)) ∧
      next.snapshot = executor.snapshot.setOutline caller .idle := by
  obtain ⟨shared, panicked, rfl⟩ := shared_of_stepQueue stepped
  obtain ⟨was, queue, outlines⟩ := SharedQueue.measuringPanicked_outline panicked
  exact ⟨was, snapshot_of_shared (SharedQueue.sameContents_of_eq queue) outlines⟩

theorem isOver_snapshot : executor.snapshot.isOver = !executor.shared.queue.isClosable := by
  unfold Snapshot.isOver Queue.isClosable Queue.status Queue.producersFinished snapshot
  cases executor.shared.queue.closed with
  | true => simp
  | false =>
    by_cases finished :
        executor.shared.queue.producersTotal ≤ executor.shared.queue.producersDone <;>
      cases executor.shared.queue.buffer <;> simp [finished]

theorem snapshot_close {caller : Nat}
    (stepped : executor.stepQueue (.close caller) = some next) :
    executor.snapshot.outlines[caller]? = some .idle ∧
      next.snapshot = executor.snapshot.close.setOutline caller .closing := by
  obtain ⟨shared, closed, rfl⟩ := shared_of_stepQueue stepped
  obtain ⟨was, queue, outlines⟩ := SharedQueue.close_outline closed
  refine ⟨was, ?_⟩
  rw [Snapshot.close, isOver_snapshot]
  unfold Snapshot.setOutline snapshot
  cases closable : executor.shared.queue.isClosable <;>
    simp [closable, queue, outlines, Queue.close]

theorem snapshot_markDone (stepped : executor.stepQueue .markDone = some next) :
    next.snapshot =
      { executor.snapshot with
        marks := min (executor.snapshot.marks + 1) executor.snapshot.registered } := by
  obtain ⟨shared, marked, rfl⟩ := shared_of_stepQueue stepped
  obtain ⟨queue, outlines⟩ := SharedQueue.markDone_outline marked
  simp [snapshot, queue, outlines, Queue.markDone]

theorem snapshot_takeReply {caller : Nat} {reply : Reply α}
    (taken : executor.takeReply caller = some (reply, next)) :
    executor.snapshot.outlines[caller]? = some (Call.returned reply).outline ∧
      next.snapshot = executor.snapshot.setOutline caller .idle := by
  unfold takeReply at taken
  simp only [Option.bind_eq_bind, Option.bind_eq_some_iff, Option.pure_def,
    Option.some.injEq, Prod.mk.injEq] at taken
  obtain ⟨_, replied, _, stepped, rfl, rfl⟩ := taken
  obtain ⟨shared, left, rfl⟩ := shared_of_stepQueue stepped
  obtain ⟨was, queue, outlines⟩ := SharedQueue.leave_outline replied left
  exact ⟨was, snapshot_of_shared (SharedQueue.sameContents_of_eq queue) outlines⟩

/-! ### Producers -/

@[simp] theorem isBusy_answered (kind : SourceKind) (halt : Option Halt) :
    (answered kind halt : ProducerPhase ρ).isBusy = true := by
  cases halt with
  | none => rfl
  | some halt => cases kind <;> rfl

theorem isBusy_of_turn {worker : ProducerWorker ρ} {act : ProducerAct ρ α}
    {phase : ProducerPhase ρ} (turn : turnProducer worker act = some phase) :
    worker.phase.isBusy = true ∧ phase.isBusy = true := by
  unfold turnProducer at turn
  split at turn
  all_goals rename_i before
  all_goals first
    | contradiction
    | rw [before]
      refine ⟨rfl, ?_⟩
  case h_5 => split at turn <;> cases turn; rfl
  case h_6 => split at turn <;> cases turn; rfl
  case h_8 =>
    cases turn
    split
    · exact isBusy_answered _ _
    · rfl
  case h_9 | h_10 =>
    cases turn
    exact isBusy_answered _ _
  all_goals
    cases turn
    rfl

theorem producerMove_of_engage {index : Nat} {worker : ProducerWorker ρ}
    {act : ProducerAct ρ α} (found : executor.producers[index]? = some worker)
    (engaged : executor.engageProducer index worker act = some next) :
    ProducerMove executor.snapshot index next.snapshot ∨
      next.snapshot = executor.snapshot := by
  have phase := phases_getElem? found
  unfold engageProducer at engaged
  dsimp only at engaged
  split at engaged
  all_goals rename_i before
  all_goals try rw [before] at phase
  case h_1 record entry =>
    obtain ⟨middle, inserted, rfl⟩ := Option.map_eq_some_iff.mp engaged
    obtain ⟨free, same⟩ := snapshot_insert inserted
    rw [snapshot_setProducerPhase, same]
    exact .inl (.inserts entry record phase free)
  case h_2 estimate =>
    obtain ⟨shared, measured, rfl⟩ := shared_of_stepQueue engaged
    obtain ⟨queue, outlines⟩ := SharedQueue.measured_outline measured
    exact .inr (snapshot_of_same (SharedQueue.sameContents_of_eq queue) outlines)
  case h_3 panic =>
    obtain ⟨middle, panicked, rfl⟩ := Option.map_eq_some_iff.mp engaged
    obtain ⟨⟨entry, call⟩, same⟩ := snapshot_measuringPanicked panicked
    rw [snapshot_containPanic, snapshot_setProducerPhase, same]
    exact .inl (.measuringFailed entry _ phase call)
  case h_4 =>
    split at engaged
    · rename_i middle taken
      cases engaged
      obtain ⟨call, same⟩ := snapshot_takeReply taken
      rw [snapshot_setProducer, same]
      exact .inl (.accepted worker.produced phase call (produced_getElem? found))
    · rename_i middle taken
      cases engaged
      obtain ⟨call, same⟩ := snapshot_takeReply taken
      rw [snapshot_setProducerPhase, same]
      exact .inl (.declined _ phase call (isBusy_answered _ _))
    · contradiction
  case h_5 outcome =>
    cases engaged
    rw [snapshot_record, snapshot_setProducerPhase]
    left
    cases outcome with
    | none => exact .reported (.inl phase)
    | some halt =>
      cases halt with
      | cancelled => exact .reported (.inr phase)
      | failed error => exact .turned _ (.failing error) phase rfl rfl
  case h_6 error =>
    left
    cases slot : executor.failure.captured with
    | none =>
      have moved := ProducerMove.recorded error phase slot
      rw [FailureSlot.record, slot] at engaged
      cases engaged
      rw [← snapshot_setProducerPhase] at moved
      exact moved
    | some captured =>
      have moved := ProducerMove.discarded error phase (by simp [snapshot, slot])
      rw [FailureSlot.record, slot] at engaged
      cases engaged
      rw [← snapshot_setProducerPhase] at moved
      exact moved
  case h_7 =>
    obtain ⟨middle, closed, rfl⟩ := Option.map_eq_some_iff.mp engaged
    obtain ⟨free, same⟩ := snapshot_close closed
    rw [snapshot_setProducerPhase, same]
    exact .inl (.closes phase free)
  case h_8 =>
    split at engaged
    · rename_i middle taken
      cases engaged
      obtain ⟨-, same⟩ := snapshot_takeReply taken
      rw [snapshot_setProducerPhase, same]
      exact .inl (.closed phase)
    · contradiction
  case h_9 =>
    cases engaged
    have moved := ProducerMove.signalled phase
    rw [← snapshot_setProducerPhase] at moved
    exact .inl moved
  case h_10 =>
    obtain ⟨middle, marked, rfl⟩ := Option.map_eq_some_iff.mp engaged
    rw [snapshot_setProducerPhase, snapshot_markDone marked]
    exact .inl (.marked phase)
  case h_11 => contradiction

theorem move_of_stepProducer {index : Nat} {act : ProducerAct ρ α}
    (stepped : executor.stepProducer index act = some next) :
    Move executor.snapshot (.producer index act) next.snapshot := by
  unfold stepProducer at stepped
  split at stepped
  · contradiction
  · rename_i worker found
    split at stepped
    · rename_i phase turn
      obtain ⟨busy, stays⟩ := isBusy_of_turn turn
      have moved := ProducerMove.turned worker.phase phase (phases_getElem? found) busy stays
      rw [← snapshot_setProducerPhase] at moved
      cases stepped
      split
      · exact .producer moved
      · exact .producer moved
    · rcases producerMove_of_engage found stepped with moved | same
      · exact .producer moved
      · rw [same]
        exact .still (by simp)

/-! ### The consumer -/

theorem snapshot_beginPull (began : executor.beginPull = some next) :
    executor.snapshot.outlines[executor.snapshot.phases.length]? = some .idle ∧
      next.snapshot =
        { executor.snapshot.setOutline executor.snapshot.phases.length .pulling with
          consumer := .pulling } := by
  obtain ⟨middle, pulled, rfl⟩ := Option.map_eq_some_iff.mp began
  obtain ⟨free, same⟩ := snapshot_pull pulled
  rw [length_phases, snapshot_setConsumerPhase, same]
  exact ⟨free, rfl⟩

theorem move_of_engageConsumer {act : ConsumerAct β}
    (engaged : executor.engageConsumer act = some next) :
    ConsumerMove executor.snapshot act next.snapshot := by
  unfold engageConsumer at engaged
  dsimp only at engaged
  split at engaged
  all_goals rename_i phase
  case h_1 =>
    obtain ⟨free, same⟩ := snapshot_beginPull engaged
    rw [same]
    exact .starts phase free
  case h_2 =>
    split at engaged
    · rename_i entry middle taken
      cases engaged
      obtain ⟨call, same⟩ := snapshot_takeReply taken
      rw [snapshot_setConsumerPhase, same, ← length_phases]
      exact .receives entry phase (length_phases ▸ call)
    · rename_i status middle taken
      cases engaged
      obtain ⟨call, same⟩ := snapshot_takeReply taken
      rw [snapshot_setConsumerPhase, same, ← length_phases]
      exact .drains status phase (length_phases ▸ call)
    · contradiction
  case h_3 entry =>
    obtain ⟨free, same⟩ := snapshot_beginPull engaged
    rw [same]
    exact .goesOn entry phase free
  case h_4 status =>
    cases engaged
    exact .reports status phase
  case h_5 result =>
    cases engaged
    exact .delivers result phase
  case h_6 error =>
    cases slot : executor.failure.captured with
    | none =>
      rw [FailureSlot.record, slot] at engaged
      cases engaged
      exact .recorded error phase slot
    | some captured =>
      rw [FailureSlot.record, slot] at engaged
      cases engaged
      exact .discarded error phase (by simp [snapshot, slot])
  case h_7 =>
    obtain ⟨middle, closed, rfl⟩ := Option.map_eq_some_iff.mp engaged
    obtain ⟨free, same⟩ := snapshot_close closed
    rw [snapshot_setConsumerPhase, same, ← length_phases]
    exact .closes phase (length_phases ▸ free)
  case h_8 =>
    split at engaged
    · rename_i middle taken
      cases engaged
      obtain ⟨-, same⟩ := snapshot_takeReply taken
      rw [snapshot_setConsumerPhase, same, ← length_phases]
      exact .closed phase
    · contradiction
  case h_9 =>
    cases engaged
    exact .signalled phase
  case h_10 => contradiction

theorem move_of_stepConsumer {act : ConsumerAct β}
    (stepped : executor.stepConsumer act = some next) :
    ConsumerMove executor.snapshot act next.snapshot := by
  unfold stepConsumer at stepped
  split at stepped
  · rename_i phase turn
    have moved : ConsumerMove executor.snapshot act _ := .turned act phase turn
    cases stepped
    split
    · exact moved
    · exact moved
  · exact move_of_engageConsumer stepped

/-! ### Calls that execute -/

/-- A call that goes on to a phase in which it has nothing. -/
theorem proceeds_plainly {old new : ExecutePhase β} (frontier : new.frontier? = none)
    (result : new.result? = none) : old.Proceeds new := by
  constructor
  · simp [frontier]
  · simp [result]

/-- A call that goes on to spawn, as it might before. -/
theorem proceeds_spawning {old new : ExecutePhase β} (frontier : new.frontier? = old.frontier?)
    (result : new.result? = none) : old.Proceeds new := by
  constructor
  · simp [frontier]
  · simp [result]

/-- Only the result that was received can come out of a judgement. -/
theorem proceeds_judge (signal : Option (Signal β)) :
    (ExecutePhase.judging signal).Proceeds (.settling (executor.judge signal)) := by
  constructor
  · simp [ExecutePhase.frontier?]
  · intro value judged
    cases signal with
    | none => simp [judge, ExecutePhase.result?] at judged
    | some signal =>
      cases signal with
      | finished result =>
        cases failed : executor.failure.toExecError with
        | none => simpa [judge, failed, ExecutePhase.result?] using judged
        | some error => simp [judge, failed, ExecutePhase.result?] at judged
      | failed => simp [judge, ExecutePhase.result?] at judged

/-- An outcome is carried from one phase to the next. -/
theorem proceeds_outcome {outcome : Except ExecError β} {old new : ExecutePhase β}
    (was : old = .settling outcome ∧ new = .recording outcome ∨
      old = .recording outcome ∧ new = .returned outcome) : old.Proceeds new := by
  rcases was with ⟨rfl, rfl⟩ | ⟨rfl, rfl⟩ <;>
    cases outcome <;> constructor <;> simp [ExecutePhase.frontier?, ExecutePhase.result?]

theorem callerMove_of_spawn {call worker : Nat}
    (was : executor.executes[call]? = some (.spawning worker))
    (spawned : executor.spawn worker = some next) :
    CallerMove executor.snapshot call
      (next.setExecute call
        (if worker < executor.consumerIndex then .spawning (worker + 1)
          else .waiting)).snapshot := by
  unfold spawn at spawned
  by_cases inside : worker < executor.consumerIndex
  · rw [if_pos inside] at spawned ⊢
    cases spawned
    rw [snapshot_setExecute, snapshot_setProducerPhase]
    refine .spawnsProducer worker _ was (length_phases ▸ inside) ?_
    split <;> rfl
  · rw [if_neg inside] at spawned ⊢
    have last : executor.snapshot.phases.length ≤ worker :=
      length_phases ▸ Nat.le_of_not_lt inside
    split at spawned
    · cases spawned
      exact .spawnsHook worker was last
    · obtain ⟨free, same⟩ := snapshot_beginPull spawned
      rw [snapshot_setExecute, same]
      exact .spawnsPull worker was last free

theorem move_of_stepExecute {call : Nat} {act : ExecuteAct}
    (stepped : executor.stepExecute call act = some next) :
    CallerMove executor.snapshot call next.snapshot := by
  unfold stepExecute at stepped
  split at stepped
  · contradiction
  rename_i old was
  have goesOn : ∀ {new : ExecutePhase β}, old.Proceeds new →
      CallerMove executor.snapshot call (executor.snapshot.setExecute call new) :=
    fun turn => CallerMove.proceeds old _ was turn
  dsimp only at stepped
  split at stepped
  case h_1 raised =>
    cases stepped
    split
    · exact goesOn (proceeds_plainly rfl rfl)
    · exact goesOn (proceeds_plainly rfl rfl)
  case h_2 =>
    cases stepped
    exact .takesParts was
  case h_3 hasParts =>
    cases stepped
    exact goesOn (proceeds_spawning rfl rfl)
  case h_4 hasParts hasSender =>
    cases stepped
    by_cases complete : (hasParts && hasSender && executor.hasReceiver) = true
    · rw [if_pos complete]
      refine goesOn (proceeds_spawning ?_ rfl)
      cases hasParts <;> first | rfl | simp at complete
    · rw [if_neg complete, abandon, snapshot_setExecute]
      cases hasSender <;> exact goesOn (proceeds_plainly rfl rfl)
  case h_5 =>
    cases stepped
    exact goesOn (proceeds_spawning rfl rfl)
  case h_6 worker =>
    split at stepped
    · cases stepped
      exact goesOn (proceeds_plainly rfl rfl)
    · split at stepped
      · cases stepped
        exact goesOn (proceeds_plainly rfl rfl)
      · obtain ⟨middle, spawned, rfl⟩ := Option.map_eq_some_iff.mp stepped
        exact callerMove_of_spawn was spawned
  case h_7 =>
    split at stepped
    · rename_i message rest front
      cases stepped
      exact .receives message rest was front
    · split at stepped
      · cases stepped
        exact goesOn (proceeds_plainly rfl rfl)
      · contradiction
  case h_8 =>
    split at stepped
    · cases stepped
      exact goesOn (proceeds_plainly rfl rfl)
    · contradiction
  case h_9 raised =>
    cases stepped
    cases raised <;> exact goesOn (proceeds_plainly rfl rfl)
  case h_10 =>
    cases stepped
    split <;> exact goesOn (proceeds_plainly rfl rfl)
  case h_11 signal =>
    cases stepped
    exact goesOn (proceeds_judge signal)
  case h_12 outcome =>
    cases stepped
    exact goesOn (proceeds_outcome (.inl ⟨rfl, rfl⟩))
  case h_13 outcome =>
    cases stepped
    exact goesOn (proceeds_outcome (.inr ⟨rfl, rfl⟩))
  case h_14 reason =>
    cases stepped
    rw [snapshot_setExecute, snapshot_beginShutdown]
    exact .withdraws reason was
  case h_15 shutdown reason =>
    split at stepped
    · cases stepped
      exact goesOn (proceeds_plainly rfl rfl)
    · contradiction
  case h_16 => contradiction

/-! ### Shutdowns and waiting for termination -/

/-- A change of flags and handles shows in no snapshot. -/
theorem snapshot_modify (index : Nat) (change : ProducerWorker ρ → ProducerWorker ρ)
    (phase : ∀ worker, (change worker).phase = worker.phase)
    (produced : ∀ worker, (change worker).produced = worker.produced) :
    ({ executor with producers := executor.producers.modify index change } :
      Executor ρ α β).snapshot = executor.snapshot := by
  simp [snapshot, map_modify_same, phase, produced]

theorem snapshot_raiseFlag (worker : Nat) (raised : Bool) :
    (executor.raiseFlag worker raised).snapshot = executor.snapshot := by
  unfold raiseFlag
  split
  · exact snapshot_modify _ _ (fun _ => rfl) fun _ => rfl
  · split <;> rfl

theorem snapshot_takeHandle (worker : Nat) :
    (executor.takeHandle worker).snapshot = executor.snapshot := by
  unfold takeHandle
  split
  · exact snapshot_modify _ _ (fun _ => rfl) fun _ => rfl
  · rfl

theorem snapshot_foldl (change : Executor ρ α β → Nat → Executor ρ α β)
    (same : ∀ (executor : Executor ρ α β) worker,
      (change executor worker).snapshot = executor.snapshot) (workers : List Nat) :
    (workers.foldl change executor).snapshot = executor.snapshot := by
  induction workers generalizing executor with
  | nil => rfl
  | cons worker rest ih => rw [List.foldl_cons, ih, same]

theorem snapshot_interruptWorkers :
    executor.interruptWorkers.snapshot = executor.snapshot :=
  snapshot_foldl _ (fun _ worker => snapshot_raiseFlag worker true) _

theorem move_of_stepShutdown {call : Nat} (stepped : executor.stepShutdown call = some next) :
    UserMove executor.snapshot next.snapshot := by
  have caller : executor.shutdownCaller call = executor.snapshot.phases.length + 1 + call := by
    rw [length_phases, shutdownCaller, consumerIndex]
  unfold stepShutdown at stepped
  split at stepped
  · rename_i was
    obtain ⟨middle, closed, rfl⟩ := Option.map_eq_some_iff.mp stepped
    obtain ⟨free, same⟩ := snapshot_close closed
    rw [snapshot_setShutdown, same, caller]
    exact .closes call was (caller ▸ free)
  · rename_i was
    obtain ⟨⟨reply, middle⟩, taken, rfl⟩ := Option.map_eq_some_iff.mp stepped
    obtain ⟨-, same⟩ := snapshot_takeReply taken
    rw [snapshot_setShutdown, same, caller]
    exact .closed call was
  · rename_i was
    split at stepped
    · cases stepped
      rw [snapshot_setShutdown, snapshot_interruptWorkers]
      exact .advances call _ _ was (.inl ⟨rfl, rfl⟩)
    · contradiction
  · rename_i was
    cases stepped
    exact .advances call _ _ was (.inr ⟨rfl, rfl⟩)
  · contradiction
  · contradiction

theorem snapshot_stepAwait {call : Nat} (stepped : executor.stepAwait call = some next) :
    next.snapshot = executor.snapshot := by
  unfold stepAwait at stepped
  split at stepped
  · split at stepped
    · cases stepped
      exact snapshot_foldl takeHandle (fun _ worker => snapshot_takeHandle worker) _
    · contradiction
  · split at stepped
    · cases stepped
      rfl
    · contradiction
  · cases stepped
    rfl
  · contradiction
  · contradiction

/-! ### All steps -/

theorem snapshot_enter {caller : Nat}
    (stepped : executor.stepQueue (.enter caller) = some next) :
    QueueMove executor.snapshot caller next.snapshot ∨ next.snapshot = executor.snapshot := by
  obtain ⟨shared, entered, rfl⟩ := shared_of_stepQueue stepped
  cases SharedQueue.entered_of_enter entered with
  | refused entry was reason contents outlines =>
    left
    rw [snapshot_of_shared contents outlines]
    refine .refused entry was ?_
    simpa [Queue.refuses, Queue.producersFinished, snapshot] using reason
  | delayed contents outlines => exact .inr (snapshot_of_same contents outlines)
  | pushed entry was stillOpen contents outlines =>
    left
    have moved : QueueMove executor.snapshot caller _ := .pushed entry was stillOpen
    unfold snapshot Snapshot.setOutline at moved
    unfold snapshot
    dsimp only at moved ⊢
    rw [contents, outlines]
    exact moved
  | taken entry was stillOpen contents outlines =>
    obtain ⟨rest, front, queue⟩ := Queue.front_of_pop contents
    left
    have moved : QueueMove executor.snapshot caller _ := .taken entry rest was stillOpen front
    unfold snapshot Snapshot.setOutline at moved
    unfold snapshot
    dsimp only at moved ⊢
    rw [queue, outlines]
    exact moved
  | endedClosed was reason contents outlines =>
    left
    rw [snapshot_of_shared (SharedQueue.sameContents_of_eq contents) outlines]
    exact .endedClosed was reason
  | endedDone was reason contents outlines =>
    left
    rw [snapshot_of_shared (SharedQueue.sameContents_of_eq contents) outlines]
    exact .endedDone was (done_of_status reason)
  | starved contents outlines =>
    exact .inr (snapshot_of_same (SharedQueue.sameContents_of_eq contents) outlines)

/-- Every step of an executor is a move of its snapshot. -/
theorem move_of_step {event : Event ρ α β} (stepped : executor.step event = some next) :
    Move executor.snapshot event next.snapshot := by
  cases event with
  | enterQueue caller =>
    rcases snapshot_enter stepped with moved | same
    · exact .queue moved
    · rw [same]
      exact .still (by simp)
  | notifyQueue caller target =>
    obtain ⟨shared, notified, rfl⟩ := shared_of_stepQueue stepped
    obtain ⟨queue, outlines⟩ := SharedQueue.notify_outline notified
    rw [snapshot_of_same (SharedQueue.sameContents_of_eq queue) outlines]
    exact .still (by simp)
  | reportQueue caller =>
    obtain ⟨shared, reported, rfl⟩ := shared_of_stepQueue stepped
    obtain ⟨queue, outlines⟩ := SharedQueue.report_outline reported
    rw [snapshot_of_same (SharedQueue.sameContents_of_eq queue) outlines]
    exact .still (by simp)
  | producer index act => exact move_of_stepProducer stepped
  | consumer act => exact .consumer (move_of_stepConsumer stepped)
  | setFlag worker raised =>
    cases stepped
    rw [snapshot_raiseFlag]
    exact .still (by simp)
  | execute =>
    cases stepped
    exact .user (.inl rfl) .executes
  | executing call act => exact .caller (move_of_stepExecute stepped)
  | shutdown =>
    cases stepped
    rw [snapshot_beginShutdown]
    exact .user (.inr (.inl rfl)) .begins
  | shuttingDown call =>
    exact .user (.inr (.inr ⟨call, rfl⟩)) (move_of_stepShutdown stepped)
  | await =>
    cases stepped
    exact .still (by simp)
  | awaiting call =>
    rw [snapshot_stepAwait stepped]
    exact .still (by simp)

end BoundedIngest.Executor

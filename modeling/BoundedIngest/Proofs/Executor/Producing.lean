/-
Module: BoundedIngest.Proofs.Executor.Producing
Purpose: Which step takes a producer from which phase to which.
Main exports:
  Executor.Engages, Executor.onward_of_stepProducer, Executor.failed_of_recording_producer
-/
import BoundedIngest.Proofs.Executor.Office

namespace BoundedIngest

/-!
A move of a producer, as a snapshot shows it, leaves out which callback has ended and with
what.  Here it is the other way round: what matters is the callback and the two phases, and
not what else a step changes.
-/

variable {ρ α β : Type}

namespace Executor

/-- Where a step takes a producer that uses the queue, the failure slot, the channel or the
metrics. -/
inductive Engages (kind : SourceKind) :
    ProducerPhase ρ → ProducerAct ρ α → ProducerPhase ρ → Prop
  | inserts (record : ρ) (entry : α) :
      Engages kind (.transforming record) (.transformed entry) .inserting
  | measures (estimate : UInt64) : Engages kind .inserting (.measured estimate) .inserting
  | panics (panic : Panic) :
      Engages kind .inserting (.measuringPanicked panic)
        (.reporting (some (.failed (.ofPanic .produce panic))))
  | accepted : Engages kind .inserting .inserted (answered kind none)
  | refused : Engages kind .inserting .inserted (answered kind (some .cancelled))
  | reports (outcome : Option Halt) :
      Engages kind (.reporting outcome) .report (afterReport outcome)
  | records (error : WorkerError) (first : Bool) :
      Engages kind (.failing error) .recordFailure (if first then .alarmed else .marking)
  | closes : Engages kind .alarmed .closeQueue .closing
  | closed : Engages kind .closing .closed .signalling
  | signals : Engages kind .signalling .signal .marking
  | marks : Engages kind .marking .markDone .ended

variable {executor next : Executor ρ α β} {index : Nat} {worker : ProducerWorker ρ}
  {act : ProducerAct ρ α}

theorem phases_setProducerPhase {phase : ProducerPhase ρ}
    (inside : index < executor.snapshot.phases.length) :
    (executor.setProducerPhase index phase).snapshot.phases[index]? = some phase := by
  rw [snapshot_setProducerPhase]
  exact List.getElem?_set_self inside

theorem producers_of_stepQueue {event : SharedQueue.Event α}
    (stepped : executor.stepQueue event = some next) : next.producers = executor.producers := by
  obtain ⟨shared, -, rfl⟩ := shared_of_stepQueue stepped
  rfl

theorem engages_of_engage (found : executor.producers[index]? = some worker)
    (engaged : executor.engageProducer index worker act = some next) :
    ∃ new, next.snapshot.phases[index]? = some new ∧ Engages worker.kind worker.phase act new := by
  have onto : ∀ {middle : Executor ρ α β} {new : ProducerPhase ρ},
      middle.producers = executor.producers → Engages worker.kind worker.phase act new →
      ∃ now, (middle.setProducerPhase index new).snapshot.phases[index]? = some now ∧
        Engages worker.kind worker.phase act now := by
    intro middle new same engages
    have there : middle.snapshot.phases[index]? = some worker.phase :=
      phases_getElem? (by rwa [same])
    exact ⟨new, phases_setProducerPhase (List.getElem?_eq_some_iff.mp there).1, engages⟩
  unfold engageProducer at engaged
  dsimp only at engaged
  split at engaged
  case h_11 => contradiction
  all_goals rename_i before
  all_goals rw [before] at onto ⊢
  case h_1 record entry =>
    obtain ⟨middle, began, rfl⟩ := Option.map_eq_some_iff.mp engaged
    exact onto (producers_of_stepQueue began) (.inserts record entry)
  case h_2 estimate =>
    have there : next.producers[index]? = some worker := by
      rw [producers_of_stepQueue engaged]
      exact found
    have here := phases_getElem? there
    rw [before] at here
    exact ⟨_, here, .measures estimate⟩
  case h_3 panic =>
    obtain ⟨middle, panicked, rfl⟩ := Option.map_eq_some_iff.mp engaged
    rw [snapshot_containPanic]
    exact onto (producers_of_stepQueue panicked) (.panics panic)
  case h_4 =>
    split at engaged
    · rename_i middle taken
      cases engaged
      have there : middle.producers[index]? = some worker := by
        rw [(office_takeReply taken).2]
        exact found
      have inside := (List.getElem?_eq_some_iff.mp (phases_getElem? there)).1
      rw [snapshot_setProducer]
      exact ⟨_, List.getElem?_set_self inside, .accepted⟩
    · rename_i middle taken
      cases engaged
      exact onto (office_takeReply taken).2 .refused
    · contradiction
  case h_5 outcome =>
    cases engaged
    rw [snapshot_record]
    exact onto rfl (.reports outcome)
  case h_6 error =>
    cases engaged
    exact onto rfl (.records error _)
  case h_7 =>
    obtain ⟨middle, moved, rfl⟩ := Option.map_eq_some_iff.mp engaged
    exact onto (producers_of_stepQueue moved) .closes
  case h_8 =>
    split at engaged
    · rename_i middle taken
      cases engaged
      exact onto (office_takeReply taken).2 .closed
    · contradiction
  case h_9 =>
    cases engaged
    exact onto rfl .signals
  case h_10 =>
    obtain ⟨middle, marked, rfl⟩ := Option.map_eq_some_iff.mp engaged
    exact onto (producers_of_stepQueue marked) .marks

/-- A producer that takes a step turns to something that concerns nobody else, or engages in
what does. -/
theorem onward_of_stepProducer (stepped : executor.stepProducer index act = some next) :
    ∃ worker new, executor.producers[index]? = some worker ∧
      next.snapshot.phases[index]? = some new ∧
      (turnProducer worker act = some new ∨ Engages worker.kind worker.phase act new) := by
  unfold stepProducer at stepped
  split at stepped
  · contradiction
  rename_i worker found
  split at stepped
  · rename_i phase turn
    have inside := (List.getElem?_eq_some_iff.mp (phases_getElem? found)).1
    cases stepped
    refine ⟨worker, phase, found, ?_, .inl turn⟩
    split
    · rw [snapshot_containPanic]
      exact phases_setProducerPhase inside
    · exact phases_setProducerPhase inside
  · obtain ⟨new, there, engages⟩ := engages_of_engage found stepped
    exact ⟨worker, new, found, there, .inr engages⟩

/-- A slot that something was recorded in is set. -/
theorem record_ne_none (slot : FailureSlot) (failure : CapturedFailure) :
    (slot.record failure).2.captured ≠ none := by
  unfold FailureSlot.record
  split
  · simp
  · rename_i captured set
    simp [set]

theorem failed_of_recording_producer
    (stepped : executor.stepProducer index .recordFailure = some next) :
    next.failure.captured ≠ none := by
  unfold stepProducer at stepped
  split at stepped
  · contradiction
  · rename_i worker found
    have turn : turnProducer worker (.recordFailure : ProducerAct ρ α) = none := by
      unfold turnProducer
      cases worker.phase <;> rfl
    rw [turn] at stepped
    unfold engageProducer at stepped
    dsimp only at stepped
    split at stepped <;> first | contradiction | cases stepped
    exact record_ne_none _ _

end Executor

end BoundedIngest

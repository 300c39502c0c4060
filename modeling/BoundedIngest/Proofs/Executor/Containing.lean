/-
Module: BoundedIngest.Proofs.Executor.Containing
Purpose: Whichever callbacks panic, each panic stays in its worker, is counted once, becomes that
  worker's failure, and keeps no producer from being marked done.
Main exports:
  Executor.ProducerAct.panic?, Executor.ConsumerAct.panic?, Executor.ProducerContains,
  Executor.ConsumerContains, Executor.panic_containment
-/
import BoundedIngest.Proofs.Executor.Cause
import BoundedIngest.Proofs.Executor.Leaving

namespace BoundedIngest

/-!
Panics are caught stage by stage.  One in the transform is caught inside the production, and what
is left of it is an answer to the source; so a procedure may go on, and keep the failure to
itself.  Every other panic ends the production, or the consumer.
-/

variable {ρ α β : Type}

namespace Executor

/-! ### Which stage a panic is caught in -/

/-- Whatever panics is caught in some stage. -/
theorem panic_of_isPanic {event : Event ρ α β} (panics : event.isPanic = true) :
    (∃ index act stage panic, event = .producer index act ∧ act.panic? = some (stage, panic)) ∨
      ∃ act stage panic, event = .consumer act ∧ act.panic? = some (stage, panic) := by
  cases event with
  | producer index act =>
    cases act <;> first | contradiction | exact .inl ⟨index, _, _, _, rfl, rfl⟩
  | consumer act => cases act <;> first | contradiction | exact .inr ⟨_, _, _, rfl, rfl⟩
  | _ => contradiction

variable {executor next final : Executor ρ α β} {event : Event ρ α β}
  {events first rest : List (Event ρ α β)} {index producers : Nat} {history : History ρ α β}
  {stage : Stage} {panic : Panic} {error : WorkerError} {config : ExecutorConfig}
  {hooked : Bool} {kinds : List SourceKind}

/-- A panic ends the production with a failure, unless it comes from the transform of a
procedure, which is told of it. -/
theorem caught_of_stepProducer {act : ProducerAct ρ α} (panics : act.panic? = some (stage, panic))
    (stepped : executor.stepProducer index act = some next) :
    ∃ worker phase, executor.producers[index]? = some worker ∧
      next.snapshot.phases[index]? = some phase ∧
      (phase.error? = some (.ofPanic stage panic) ∨
        worker.kind = .pushing ∧ stage = .transform ∧
          phase = .sourcing (some (.failed (.ofPanic stage panic)))) := by
  obtain ⟨worker, phase, found, there, goes⟩ := onward_of_stepProducer stepped
  refine ⟨worker, phase, found, there, ?_⟩
  rcases goes with turn | engages
  · cases act with
    | hookPanicked | sourcePanicked =>
      cases panics
      unfold turnProducer at turn
      cases was : worker.phase <;> rw [was] at turn <;> first | contradiction | cases turn
      exact .inl rfl
    | transformPanicked =>
      cases panics
      unfold turnProducer at turn
      cases was : worker.phase <;> rw [was] at turn <;> first | contradiction | cases turn
      cases kind : worker.kind with
      | records | results => exact .inl rfl
      | pushing => exact .inr ⟨rfl, rfl, rfl⟩
    | measuringPanicked =>
      unfold turnProducer at turn
      cases was : worker.phase <;> rw [was] at turn <;> contradiction
    | _ => contradiction
  · generalize worker.phase = old at engages
    cases engages with
    | panics =>
      cases panics
      exact .inl rfl
    | _ => contradiction

theorem caught_of_stepConsumer {act : ConsumerAct β} (panics : act.panic? = some (stage, panic))
    (stepped : executor.stepConsumer act = some next) :
    next.consumer.phase = .failing (.ofPanic stage panic) := by
  unfold stepConsumer at stepped
  split at stepped
  · rename_i phase turn
    have caught : phase = .failing (.ofPanic stage panic) := by
      unfold turnConsumer at turn
      split at turn <;> first | contradiction | (cases turn; cases panics; rfl)
    cases stepped
    split <;> exact caught
  · unfold engageConsumer at stepped
    dsimp only at stepped
    split at stepped <;> contradiction

/-! ### How many panics there were -/

theorem panics_of_step (stepped : executor.step event = some next) :
    next.panics = executor.panics + if event.isPanic then 1 else 0 := by
  have counted := counted_of_step stepped
  have figures : next.panics = next.figures.panics := rfl
  rw [figures]
  generalize next.figures = after at counted
  cases counted with
  | still uncounted =>
    have calm : event.isPanic = false := by
      cases event with
      | producer index act => cases act <;> first | rfl | contradiction
      | consumer act => cases act <;> first | rfl | contradiction
      | _ => rfl
    rw [calm]
    rfl
  | contained panics =>
    rw [panics]
    rfl
  | produced | consumed | reported => rfl

theorem panics_of_run (ran : executor.run events = some final) :
    final.panics = executor.panics + events.countP Event.isPanic := by
  induction events generalizing executor with
  | nil =>
    cases ran
    rfl
  | cons event rest ih =>
    obtain ⟨middle, stepped, ran⟩ := Option.bind_eq_some_iff.mp ran
    rw [ih ran, panics_of_step stepped, List.countP_cons]
    omega

/-! ### Nobody else panics -/

/-- Whose callback panics was spawned. -/
theorem spawned_of_panic (panics : event.isPanic = true)
    (stepped : executor.step event = some next) : ∃ worker, executor.snapshot.Spawned worker := by
  rcases panic_of_isPanic panics with ⟨index, act, -, -, rfl, -⟩ | ⟨act, -, -, rfl, -⟩
  · obtain ⟨worker, phase, found, there, goes⟩ := onward_of_stepProducer stepped
    refine ⟨index, .inl ⟨worker.phase, phases_getElem? found, fun unborn => ?_⟩⟩
    rw [unborn] at goes
    rcases goes with turn | engages
    · simp only [turnProducer, unborn] at turn
      contradiction
    · cases engages
  · refine ⟨_, .inr ⟨rfl, fun unborn => ?_⟩⟩
    have phase : executor.consumer.phase = .unborn := unborn
    simp only [step, stepConsumer, turnConsumer, engageConsumer, phase] at stepped
    contradiction

/-- Where a callback has panicked, no call that executes does. -/
theorem not_panicked_of_run (ran : (create config hooked kinds).run events = some executor)
    (panics : events.any Event.isPanic = true) (panic : Panic) :
    .panicked panic ∉ executor.executes := by
  intro found
  have nul := nul_of_panicked rfl (fun _ nobody => by contradiction) ran panic found
  obtain ⟨event, mem, panicked⟩ := List.any_eq_true.mp panics
  obtain ⟨before, after, rfl⟩ := List.append_of_mem mem
  obtain ⟨middle, next, ranBefore, stepped, -⟩ := run_split ran
  obtain ⟨worker, spawned⟩ := spawned_of_panic panicked stepped
  exact (staffed_of_run ranBefore).named nul worker spawned

end Executor

/-! ### What becomes of the consumer's failure -/

/-- Nobody but the consumer itself and the call that spawns it moves the consumer. -/
theorem Move.consumer_kept {snapshot next : Snapshot ρ α β} {event : Executor.Event ρ α β}
    (move : Move snapshot event next) (started : snapshot.Started)
    (others : ∀ act, event ≠ .consumer act) (alive : snapshot.consumer ≠ .unborn) :
    next.consumer = snapshot.consumer := by
  cases move with
  | queue move => exact move.frame.consumer
  | producer move => exact move.frame.consumer
  | consumer move => exact absurd rfl (others _)
  | caller move =>
    rcases move.frame.consumer with same | ⟨⟨worker, found⟩, -⟩
    · exact same
    · exact absurd (started.frontier _ found worker rfl).1 alive
  | user mine move => exact move.frame.consumer
  | still => rfl

namespace Executor

variable {executor next final : Executor ρ α β} {event : Event ρ α β}
  {events first rest : List (Event ρ α β)} {index producers : Nat} {history : History ρ α β}
  {stage : Stage} {panic : Panic} {error : WorkerError} {config : ExecutorConfig}
  {hooked : Bool} {kinds : List SourceKind}

/-- A consumer that fails does nothing but record it. -/
theorem consumer_records_of_failing {act : ConsumerAct β}
    (stepped : executor.stepConsumer act = some next)
    (failing : executor.consumer.phase = .failing error) : act = .recordFailure := by
  unfold stepConsumer at stepped
  have turn : turnConsumer executor.consumer.phase act = none := by
    rw [failing]
    rfl
  rw [turn] at stepped
  unfold engageConsumer at stepped
  rw [failing] at stepped
  cases act <;> first | rfl | contradiction

theorem consumer_offered_of_run (reached : Reached producers executor.snapshot history)
    (ran : executor.run events = some final) (failing : executor.consumer.phase = .failing error) :
    final.consumer.phase = .failing error ∨
      executor.Offers events { role := .consumer, error } := by
  induction events generalizing executor history with
  | nil =>
    cases ran
    exact .inl failing
  | cons event rest ih =>
    obtain ⟨middle, stepped, ran⟩ := Option.bind_eq_some_iff.mp ran
    by_cases own : ∃ act, event = .consumer act
    · obtain ⟨act, rfl⟩ := own
      cases consumer_records_of_failing stepped failing
      refine .inr ⟨[], _, rest, executor, rfl, rfl, ?_⟩
      simp [recorded?, failing]
    · have others : ∀ act, event ≠ .consumer act := fun act mine => own ⟨act, mine⟩
      have alive : executor.snapshot.consumer ≠ .unborn := by
        simp [snapshot, failing]
      have same : middle.consumer.phase = executor.consumer.phase :=
        (move_of_step stepped).consumer_kept reached.started others alive
      exact (ih (.move reached (move_of_step stepped)) ran (same.trans failing)).imp_right
        fun offers => offers.cons stepped

/-- A consumer that fails can record it at once. -/
theorem consumer_can_record (failing : executor.consumer.phase = .failing error) :
    ∃ next, executor.step (.consumer .recordFailure) = some next := by
  refine Option.isSome_iff_exists.mp ?_
  simp [step, stepConsumer, turnConsumer, engageConsumer, failing]

/-! ### Every panic -/

/-- What becomes of a panic of a producer that was in this state right after it, over the steps
that follow and up to the state they lead to. -/
structure ProducerContains (kinds : List SourceKind) (index : Nat) (stage : Stage)
    (error : WorkerError) (hit : Executor ρ α β) (after : List (Event ρ α β))
    (final : Executor ρ α β) : Prop where
  /-- The panic has become the failure of the producer, or the answer to a procedure. -/
  caught : ∃ phase, hit.snapshot.phases[index]? = some phase ∧
    (phase.error? = some error ∨ kinds[index]? = some .pushing ∧ stage = .transform ∧
      phase = .sourcing (some (.failed error)))
  /-- The failure is recorded, or is going to be, unless a procedure never returns it. -/
  offered : hit.Offers after { role := .producer index, error } ∨
    (∃ phase, final.snapshot.phases[index]? = some phase ∧ phase.error? = some error) ∨
      kinds[index]? = some .pushing ∧ stage = .transform ∧
        .producer index (.sourceHalted (.failed error)) ∉ after
  /-- The producer ends by being marked done. -/
  marked : final.snapshot.phases[index]? = some .ended → .producer index .markDone ∈ after
  /-- The producer comes to its end without having to wait for anybody, unless a procedure
  still runs. -/
  leaves : final.Departs index 8 ∨ kinds[index]? = some .pushing ∧ stage = .transform ∧
    ∃ phase, final.snapshot.phases[index]? = some phase ∧ phase.progress = 2

/-- What becomes of a panic of the consumer. -/
structure ConsumerContains (error : WorkerError) (hit : Executor ρ α β)
    (after : List (Event ρ α β)) (final : Executor ρ α β) : Prop where
  caught : hit.consumer.phase = .failing error
  offered : hit.Offers after { role := .consumer, error } ∨
    final.consumer.phase = .failing error ∧
      ∃ next, final.step (.consumer .recordFailure) = some next

/-- The kind that an executor was given for a producer is the one it has. -/
theorem kind_of_run {worker : ProducerWorker ρ}
    (ran : (create config hooked kinds).run events = some executor)
    (found : executor.producers[index]? = some worker) : kinds[index]? = some worker.kind := by
  have begins : (Chronicle.start config hooked kinds).executor.run events = some executor := ran
  obtain ⟨history, recorded⟩ := Chronicle.run_of_executor begins
  exact Chronicle.kind_of_worker ((Chronicle.kinds_of_run recorded).trans Chronicle.kinds_start)
    found

/-- A procedure that returns the failure it was told of hands it in. -/
theorem offered_of_halted (reached : Reached producers executor.snapshot history)
    (ran : executor.run events = some final)
    (halted : .producer index (.sourceHalted (.failed error)) ∈ events) :
    (∃ phase, final.snapshot.phases[index]? = some phase ∧ phase.error? = some error) ∨
      executor.Offers events { role := .producer index, error } := by
  obtain ⟨before, after, rfl⟩ := List.append_of_mem halted
  obtain ⟨middle, next, ranBefore, stepped, ranAfter⟩ := run_split ran
  obtain ⟨later, onMiddle⟩ := reached_after reached ranBefore
  obtain ⟨worker, phase, found, there, goes⟩ := onward_of_stepProducer stepped
  have errs : phase.error? = some error := by
    rcases goes with turn | engages
    · unfold turnProducer at turn
      cases was : worker.phase <;> rw [was] at turn <;> dsimp only at turn <;>
        first | contradiction | (split at turn <;> first | contradiction | (cases turn; rfl))
    · generalize worker.phase = old at engages
      cases engages
  refine (offered_of_run (.move onMiddle (move_of_step stepped)) ranAfter there errs).imp_right ?_
  exact fun offers => (offers.cons stepped).append ranBefore

theorem producer_contains {act : ProducerAct ρ α} {before after : List (Event ρ α β)}
    (ran : (create config hooked kinds).run (before ++ .producer index act :: after) =
      some executor)
    (panics : act.panic? = some (stage, panic)) :
    ∃ hit, (create config hooked kinds).run (before ++ [.producer index act]) = some hit ∧
      hit.run after = some executor ∧
      ProducerContains kinds index stage (.panicked stage.name panic.message) hit after
        executor := by
  obtain ⟨middle, hit, ranBefore, stepped, ranAfter⟩ := run_split ran
  have ranHit : (create config hooked kinds).run (before ++ [.producer index act]) = some hit := by
    rw [run_append, ranBefore]
    simp [run, stepped]
  obtain ⟨history, reached⟩ := reached_of_run ranHit
  obtain ⟨worker, phase, found, there, caught⟩ := caught_of_stepProducer panics stepped
  have kind : kinds[index]? = some worker.kind := kind_of_run ranBefore found
  have running : phase ≠ .ended := by
    rintro rfl
    rcases caught with errs | ⟨-, -, same⟩ <;> contradiction
  obtain ⟨last, now, further⟩ := progress_of_run reached ranAfter there
  obtain ⟨later, onFinal⟩ := reached_after reached ranAfter
  refine ⟨hit, ranHit, ranAfter, ?_, ?_, marked_of_run reached ranAfter there running, ?_⟩
  · exact ⟨phase, there, caught.imp_right fun told => ⟨kind.trans (congrArg some told.1), told.2⟩⟩
  · rcases caught with errs | ⟨pushes, inside, -⟩
    · exact (offered_of_run reached ranAfter there errs).elim (fun still => .inr (.inl still)) .inl
    · by_cases halted : .producer index (.sourceHalted (.failed (.ofPanic stage panic))) ∈ after
      · exact (offered_of_halted reached ranAfter halted).elim
          (fun still => .inr (.inl still)) .inl
      · exact .inr (.inr ⟨kind.trans (congrArg some pushes), inside, halted⟩)
  · rcases caught with errs | ⟨pushes, inside, rfl⟩
    · rw [ProducerPhase.progress_of_isLeaving (ProducerPhase.isLeaving_of_error errs)] at further
      exact .inl (departs_of_phase onFinal now further)
    · rcases Nat.lt_or_ge 2 last.progress with far | near
      · exact .inl (departs_of_phase onFinal now far)
      · exact .inr ⟨kind.trans (congrArg some pushes), inside, last, now,
          Nat.le_antisymm near further⟩

theorem consumer_contains {act : ConsumerAct β} {before after : List (Event ρ α β)}
    (ran : (create config hooked kinds).run (before ++ .consumer act :: after) = some executor)
    (panics : act.panic? = some (stage, panic)) :
    ∃ hit, (create config hooked kinds).run (before ++ [.consumer act]) = some hit ∧
      hit.run after = some executor ∧
      ConsumerContains (.panicked stage.name panic.message) hit after executor := by
  obtain ⟨middle, hit, ranBefore, stepped, ranAfter⟩ := run_split ran
  have ranHit : (create config hooked kinds).run (before ++ [.consumer act]) = some hit := by
    rw [run_append, ranBefore]
    simp [run, stepped]
  obtain ⟨history, reached⟩ := reached_of_run ranHit
  have caught := caught_of_stepConsumer panics stepped
  refine ⟨hit, ranHit, ranAfter, caught, ?_⟩
  rcases consumer_offered_of_run reached ranAfter caught with still | offers
  · exact .inr ⟨still, consumer_can_record still⟩
  · exact .inl offers

/-- Whichever callbacks panic, of whatever workers and however their steps interleave: the counter
of panics shows how many there were.  No call that executes has panicked.  The queue takes exactly
those producers to be done that have ended.  And every panic has become a failure of the worker
whose callback it was, with the stage it was caught in; this failure is recorded, and the producer
comes to its end and is marked done. -/
theorem panic_containment (ran : (create config hooked kinds).run events = some executor) :
    executor.panics = events.countP Event.isPanic ∧
    (events.any Event.isPanic = true → ∀ panic, .panicked panic ∉ executor.executes) ∧
    executor.shared.queue.producersDone =
      executor.producers.countP (fun worker => worker.phase.isEnded) ∧
    (∀ before after index act stage panic, events = before ++ .producer index act :: after →
      act.panic? = some (stage, panic) →
      ∃ hit, (create config hooked kinds).run (before ++ [.producer index act]) = some hit ∧
        hit.run after = some executor ∧
        ProducerContains kinds index stage (.panicked stage.name panic.message) hit after
          executor) ∧
    ∀ before after act stage panic, events = before ++ .consumer act :: after →
      act.panic? = some (stage, panic) →
      ∃ hit, (create config hooked kinds).run (before ++ [.consumer act]) = some hit ∧
        hit.run after = some executor ∧
        ConsumerContains (.panicked stage.name panic.message) hit after executor := by
  obtain ⟨history, reached⟩ := reached_of_run ran
  refine ⟨?_, not_panicked_of_run ran, ?_, ?_, ?_⟩
  · have counted := panics_of_run ran
    rwa [create, Nat.zero_add] at counted
  · have marks := reached.agreement.marks
    rwa [snapshot, List.countP_map] at marks
  · rintro before after index act stage panic rfl panics
    exact producer_contains ran panics
  · rintro before after act stage panic rfl panics
    exact consumer_contains ran panics

/-- A procedure swallows a panic of the transform, and the consumer and the other producer panic
as well. -/
def panickyRun : List (Event Nat Nat Nat) :=
  [.execute, .executing 0 (.readFlag false), .executing 0 .proceed, .executing 0 .proceed,
    .executing 0 .proceed, .executing 0 .proceed, .executing 0 .proceed, .executing 0 .proceed,
    .executing 0 .proceed, .producer 0 (.offered 7), .producer 0 .checkFlag,
    .producer 0 (.transformed 1), .producer 0 (.measured 10), .enterQueue 0, .notifyQueue 0 none,
    .reportQueue 0, .producer 0 .inserted, .producer 1 (.offered 8), .producer 1 .checkFlag,
    .producer 1 (.transformPanicked (.text "bad record")), .enterQueue 2, .notifyQueue 2 none,
    .reportQueue 2, .consumer .pulled, .consumer (.consumePanicked .other),
    .consumer .recordFailure]

/-- The last panic, and how both producers end. -/
def brokenRest : List (Event Nat Nat Nat) :=
  [.producer 0 .report, .producer 0 .recordFailure, .producer 0 .markDone,
    .producer 1 .sourceEnded, .producer 1 .report, .producer 1 .markDone]

theorem panic_containment_inhabited :
    ∃ executor hit : Executor Nat Nat Nat,
      (create {} false [.records, .pushing]).run
          (panickyRun ++ .producer 0 (.sourcePanicked (.text "disk")) :: brokenRest) =
        some executor ∧
      executor.panics = 3 ∧ (∀ panic, .panicked panic ∉ executor.executes) ∧
      hit.run brokenRest = some executor ∧
      ProducerContains [.records, .pushing] 0 .produce (.panicked "produce" "disk") hit brokenRest
        executor := by
  have ends : ((create {} false [.records, .pushing]).run
      (panickyRun ++ .producer 0 (.sourcePanicked (.text "disk")) :: brokenRest)).isSome =
        true := by
    decide +kernel
  obtain ⟨executor, ran⟩ := Option.isSome_iff_exists.mp ends
  obtain ⟨counted, nobody, -, contains, -⟩ := panic_containment ran
  obtain ⟨hit, -, goesOn, contained⟩ := contains panickyRun brokenRest 0 _ _ _ rfl rfl
  exact ⟨executor, hit, ran, counted, nobody rfl, goesOn, contained⟩

end Executor

end BoundedIngest

/-
Module: BoundedIngest.Proofs.Executor.Listening
Purpose: What a step does to the failure slot, and who runs the listener of the slot.
Main exports:
  Snapshot.Owes, Snapshot.Summons, Reached.liable, Executor.recorded?, Event.alarm?,
  Executor.slot_of_step, Executor.summons_of_alarm, Executor.summons_of_record,
  Executor.summons_iff, Executor.listens_of_summons
-/
import BoundedIngest.Proofs.Executor.Cause

namespace BoundedIngest

/-!
The worker that sets the failure slot runs the listener of the slot, which closes the queue and
signals failure.  From the moment it has set the slot until it has sent the signal this worker
does nothing else, and nobody else does the same.
-/

variable {ρ α β : Type}

/-! ### Who runs the listener -/

namespace Snapshot

/-- The worker with that role has set the slot and still owes the signal. -/
def Owes (snapshot : Snapshot ρ α β) : Role → Prop
  | .producer index => ∃ phase, snapshot.phases[index]? = some phase ∧ phase.isAlarmed = true
  | .consumer => snapshot.consumer.isAlarmed = true

/-- The worker with that role is about to run the listener. -/
def Summons (snapshot : Snapshot ρ α β) : Role → Prop
  | .producer index => snapshot.phases[index]? = some .alarmed
  | .consumer => snapshot.consumer = .alarmed

/-- Whoever owes a signal is the one whose failure the slot holds. -/
def Liable (snapshot : Snapshot ρ α β) : Prop :=
  ∀ role, snapshot.Owes role → ∃ failure, snapshot.failure = some failure ∧ failure.role = role

variable {snapshot next : Snapshot ρ α β} {role : Role} {event : Executor.Event ρ α β}

theorem Summons.owes (summons : snapshot.Summons role) : snapshot.Owes role := by
  cases role with
  | producer index => exact ⟨.alarmed, summons, rfl⟩
  | consumer =>
    rw [Owes, show snapshot.consumer = .alarmed from summons]
    rfl

/-- Nobody comes to owe a signal but by setting the slot. -/
theorem owes_before (move : Move snapshot event next) (owes : next.Owes role) :
    snapshot.Owes role ∨ ∃ failure, next.failure = some failure ∧ failure.role = role := by
  have workers : next.phases = snapshot.phases →
      (next.consumer.isAlarmed = true → snapshot.consumer.isAlarmed = true) →
      snapshot.Owes role := by
    intro phases consumer
    cases role with
    | producer index =>
      obtain ⟨phase, found, alarmed⟩ := owes
      exact ⟨phase, phases ▸ found, alarmed⟩
    | consumer => exact consumer owes
  have goesOn : ∀ {index : Nat} {old new : ProducerPhase ρ},
      snapshot.phases[index]? = some old → next.phases = snapshot.phases.set index new →
      next.consumer = snapshot.consumer → (new.isAlarmed = true → old.isAlarmed = true) →
      snapshot.Owes role := by
    intro index old new was phases consumer keeps
    cases role with
    | producer place =>
      obtain ⟨phase, found, alarmed⟩ := owes
      rw [phases] at found
      by_cases here : index = place
      · subst here
        rw [List.getElem?_set_self (List.getElem?_eq_some_iff.mp was).1] at found
        cases found
        exact ⟨old, was, keeps alarmed⟩
      · exact ⟨phase, (List.getElem?_set_ne here).symm.trans found, alarmed⟩
    | consumer => exact (congrArg ConsumerPhase.isAlarmed consumer).symm.trans owes
  have busy : ∀ {old new : ProducerPhase ρ}, new.isBusy = true →
      new.isAlarmed = true → old.isAlarmed = true := by
    intro old new stays alarmed
    rw [ProducerPhase.not_isAlarmed_of_isBusy stays] at alarmed
    contradiction
  cases move with
  | queue move => exact .inl (workers move.frame.phases (move.frame.consumer ▸ id))
  | producer move =>
    cases move with
    | recorded error was first =>
      rename_i index act
      cases role with
      | producer place =>
        by_cases here : index = place
        · exact .inr ⟨_, rfl, congrArg Role.producer here⟩
        · obtain ⟨phase, found, alarmed⟩ := owes
          exact .inl ⟨phase, (List.getElem?_set_ne here).symm.trans found, alarmed⟩
      | consumer => exact .inl owes
    | turned old new was before stays => exact .inl (goesOn was rfl rfl (busy stays))
    | declined new was call stays => exact .inl (goesOn was rfl rfl (busy stays))
    | reported was =>
      rcases was with was | was
      · exact .inl (goesOn was rfl rfl id)
      · exact .inl (goesOn was rfl rfl id)
    | inserts _ _ was | measuringFailed _ _ was | accepted _ was | discarded _ was | closes was
    | closed was | signalled was | marked was =>
      exact .inl (goesOn was rfl rfl (by simp [ProducerPhase.isAlarmed]))
  | consumer move =>
    cases move with
    | recorded error was first =>
      cases role with
      | producer index => exact .inl owes
      | consumer => exact .inr ⟨_, rfl, rfl⟩
    | turned act new turn =>
      refine .inl (workers rfl ?_)
      rcases Executor.cases_of_turn turn with ⟨error, rfl⟩ | ⟨-, -, rfl⟩ | ⟨result, -, -, rfl⟩ <;>
        simp [ConsumerPhase.isAlarmed]
    | reports status was =>
      refine .inl (workers rfl ?_)
      cases status <;> simp [Executor.afterDrained, ConsumerPhase.isAlarmed]
    | starts was | goesOn _ was | receives _ was | drains _ was | delivers _ was | discarded _ was
    | closes was | closed was | signalled was =>
      exact .inl (workers rfl (by simp [was, ConsumerPhase.isAlarmed]))
  | caller move =>
    cases move with
    | spawnsProducer worker new was inside born =>
      exact .inl (goesOn (List.getElem?_eq_getElem inside) rfl rfl (busy born))
    | spawnsHook | spawnsPull =>
      exact .inl (workers rfl (by simp [ConsumerPhase.isAlarmed]))
    | takesParts | receives | withdraws | proceeds => exact .inl (workers rfl id)
  | user mine move => exact .inl (workers move.frame.phases (move.frame.consumer ▸ id))
  | still others => exact .inl owes

theorem Liable.move (liable : snapshot.Liable) (move : Move snapshot event next) :
    next.Liable := by
  intro role owes
  rcases owes_before move owes with before | now
  · obtain ⟨failure, captured, mine⟩ := liable role before
    exact ⟨failure, move.failure captured, mine⟩
  · exact now

theorem liable_start (producers : Nat) : (start producers : Snapshot ρ α β).Liable := by
  intro role owes
  cases role with
  | producer index =>
    obtain ⟨phase, found, alarmed⟩ := owes
    rw [(List.mem_replicate.mp (List.mem_of_getElem? found)).2] at alarmed
    contradiction
  | consumer => contradiction

end Snapshot

theorem Reached.liable {producers : Nat} {snapshot : Snapshot ρ α β} {history : History ρ α β}
    (reached : Reached producers snapshot history) : snapshot.Liable := by
  induction reached with
  | start => exact Snapshot.liable_start producers
  | move _ move ih => exact ih.move move

/-! ### What a step does to the slot -/

namespace Executor

/-- The failure that a step records. -/
def recorded? (executor : Executor ρ α β) : Event ρ α β → Option CapturedFailure
  | .producer index .recordFailure =>
      match executor.snapshot.phases[index]? with
      | some (.failing error) => some { role := .producer index, error }
      | _ => none
  | .consumer .recordFailure =>
      match executor.consumer.phase with
      | .failing error => some { role := .consumer, error }
      | _ => none
  | _ => none

/-- Who runs the listener in a step. -/
def Event.alarm? : Event ρ α β → Option Role
  | .producer index .closeQueue => some (.producer index)
  | .consumer .closeQueue => some .consumer
  | _ => none

variable {executor next : Executor ρ α β} {event : Event ρ α β} {index : Nat} {role : Role}
  {failure : CapturedFailure}

theorem record_of_empty {slot : FailureSlot} (empty : slot.captured = none) :
    slot.record failure = (true, { captured := some failure }) := by
  simp [FailureSlot.record, empty]

theorem record_of_set {slot : FailureSlot} (set : slot.captured ≠ none) :
    slot.record failure = (false, slot) := by
  unfold FailureSlot.record
  split
  · rename_i empty
    exact absurd empty set
  · rfl

theorem slot_of_captured {slot other : FailureSlot} (same : slot.captured = other.captured) :
    slot = other := by
  cases slot
  cases other
  exact congrArg FailureSlot.mk same

/-- What a producer records goes to the slot, and if it comes first, the producer runs the
listener next. -/
theorem recording_producer (stepped : executor.stepProducer index .recordFailure = some next) :
    ∃ error, executor.snapshot.phases[index]? = some (.failing error) ∧
      next.failure = (executor.failure.record { role := .producer index, error }).2 ∧
      (executor.failure.captured = none → next.snapshot.Summons (.producer index)) := by
  unfold stepProducer at stepped
  split at stepped
  · contradiction
  · rename_i worker found
    have turn : turnProducer worker (.recordFailure : ProducerAct ρ α) = none := by
      unfold turnProducer
      cases worker.phase <;> rfl
    rw [turn] at stepped
    unfold engageProducer at stepped
    dsimp only at stepped
    split at stepped <;> first | contradiction | cases stepped
    rename_i error failing _
    have here := phases_getElem? found
    rw [failing] at here
    refine ⟨error, here, rfl, fun empty => ?_⟩
    rw [record_of_empty empty]
    exact phases_setProducerPhase (List.getElem?_eq_some_iff.mp here).1

/-- A producer that fails does nothing but record it. -/
theorem records_of_failing {act : ProducerAct ρ α} {error : WorkerError}
    (stepped : executor.stepProducer index act = some next)
    (failing : executor.snapshot.phases[index]? = some (.failing error)) :
    act = .recordFailure := by
  obtain ⟨worker, new, found, -, goes⟩ := onward_of_stepProducer stepped
  have phase : worker.phase = .failing error :=
    Option.some.inj ((phases_getElem? found).symm.trans failing)
  rw [phase] at goes
  rcases goes with turn | engages
  · unfold turnProducer at turn
    rw [phase] at turn
    cases act <;> contradiction
  · cases engages
    rfl

/-- A producer that is about to run the listener does nothing else first. -/
theorem closes_iff_alarmed {act : ProducerAct ρ α}
    (stepped : executor.stepProducer index act = some next) :
    executor.snapshot.phases[index]? = some .alarmed ↔ act = .closeQueue := by
  obtain ⟨worker, new, found, -, goes⟩ := onward_of_stepProducer stepped
  rw [phases_getElem? found, Option.some.injEq]
  constructor
  · intro alarmed
    rw [alarmed] at goes
    rcases goes with turn | engages
    · unfold turnProducer at turn
      rw [alarmed] at turn
      cases act <;> contradiction
    · cases engages
      rfl
  · rintro rfl
    rcases goes with turn | engages
    · unfold turnProducer at turn
      cases phase : worker.phase <;> rw [phase] at turn <;> contradiction
    · generalize worker.phase = old at engages
      cases engages
      rfl

/-- Nothing but a recorded failure touches the slot. -/
theorem slot_of_step (stepped : executor.step event = some next) :
    next.failure = (executor.recorded? event).elim executor.failure
      fun failure => (executor.failure.record failure).2 := by
  by_cases records : ∃ index, event = .producer index .recordFailure
  · obtain ⟨index, rfl⟩ := records
    obtain ⟨error, failing, slot, -⟩ := recording_producer stepped
    rw [slot, recorded?, failing]
    rfl
  have kept : next.snapshot.failure = executor.snapshot.failure →
      (∀ act, event ≠ .consumer act) ∨ event ≠ .consumer .recordFailure →
      next.failure = (executor.recorded? event).elim executor.failure
        fun failure => (executor.failure.record failure).2 := by
    intro same aside
    have nothing : executor.recorded? event = none := by
      unfold recorded?
      split <;> first | rfl | simp_all
    rw [nothing]
    exact slot_of_captured same
  have move := move_of_step stepped
  generalize seen : next.snapshot = after at move
  rw [seen] at kept
  cases move with
  | queue move => exact kept move.frame.failure (.inl (by simp))
  | producer move =>
    rename_i index act
    refine kept ?_ (.inl (by simp))
    cases move with
    | recorded error was first =>
      exact absurd ⟨index, congrArg _ (records_of_failing stepped was)⟩ records
    | turned | inserts | measuringFailed | accepted | declined | reported | discarded
    | closes | closed | signalled | marked => rfl
  | consumer move =>
    rename_i act
    cases move with
    | recorded error was first =>
      have failing : executor.consumer.phase = .failing error := was
      rw [recorded?, failing]
      dsimp only [Option.elim_some]
      rw [record_of_empty first]
      exact slot_of_captured (congrArg Snapshot.failure seen)
    | discarded error was late =>
      have failing : executor.consumer.phase = .failing error := was
      rw [recorded?, failing]
      dsimp only [Option.elim_some]
      rw [record_of_set late]
      exact slot_of_captured (congrArg Snapshot.failure seen)
    | turned act new turn =>
      refine kept rfl (.inr ?_)
      rintro ⟨⟩
      cases phase : executor.snapshot.consumer <;> rw [phase] at turn <;> contradiction
    | starts | goesOn | receives | drains | reports | delivers | closes | closed | signalled =>
      exact kept rfl (.inr (by simp))
  | caller move => exact kept move.frame.failure (.inl (by simp))
  | user mine move =>
    refine kept move.frame.failure (.inl ?_)
    rcases mine with rfl | rfl | ⟨call, rfl⟩ <;> simp
  | still others => exact kept rfl (.inl others)

/-! ### What a step does to the one who runs the listener -/

/-- Whoever runs the listener was about to, and is no longer. -/
theorem summons_of_alarm (stepped : executor.step event = some next)
    (runs : event.alarm? = some role) :
    executor.snapshot.Summons role ∧ ¬ next.snapshot.Summons role := by
  unfold Event.alarm? at runs
  split at runs
  · rename_i index
    cases runs
    refine ⟨(closes_iff_alarmed stepped).mpr rfl, fun still => ?_⟩
    obtain ⟨worker, new, -, here, turn | engages⟩ := onward_of_stepProducer stepped
    · unfold turnProducer at turn
      cases phase : worker.phase <;> rw [phase] at turn <;> contradiction
    · generalize worker.phase = old at engages
      cases engages
      cases here.symm.trans still
  · cases runs
    have move := move_of_step stepped
    generalize seen : next.snapshot = after at move
    cases move with
    | consumer move =>
      cases move with
      | closes was free => exact ⟨was, by simp [Snapshot.Summons]⟩
      | turned act new turn =>
        cases phase : executor.snapshot.consumer <;> rw [phase] at turn <;> contradiction
    | user mine move => rcases mine with h | h | ⟨call, h⟩ <;> contradiction
    | still others => exact absurd rfl (others _)
  · contradiction

/-- Whoever sets the slot runs the listener next. -/
theorem summons_of_record (stepped : executor.step event = some next)
    (empty : executor.failure.captured = none)
    (records : executor.recorded? event = some failure) : next.snapshot.Summons failure.role := by
  unfold recorded? at records
  split at records
  · obtain ⟨error, failing, -, summons⟩ := recording_producer stepped
    rw [failing] at records
    cases records
    exact summons empty
  · have move := move_of_step stepped
    generalize seen : next.snapshot = after at move
    split at records
    · rename_i error failing
      cases records
      cases move with
      | consumer move =>
        cases move with
        | recorded error was first => rfl
        | discarded error was late => exact absurd empty late
        | turned act new turn =>
          cases phase : executor.snapshot.consumer <;> rw [phase] at turn <;> contradiction
      | user mine move => rcases mine with h | h | ⟨call, h⟩ <;> contradiction
      | still others => exact absurd rfl (others _)
    · contradiction
  · contradiction

theorem summons_of_same {after : Snapshot ρ α β}
    (phases : after.phases = executor.snapshot.phases)
    (consumer : after.consumer = executor.snapshot.consumer) :
    after.Summons role ↔ executor.snapshot.Summons role := by
  cases role with
  | producer index => rw [Snapshot.Summons, Snapshot.Summons, phases]
  | consumer => rw [Snapshot.Summons, Snapshot.Summons, consumer]

/-- A producer that neither comes to the listener nor leaves it. -/
theorem summons_of_set {old new : ProducerPhase ρ} {after : Snapshot ρ α β}
    (was : executor.snapshot.phases[index]? = some old) (before : old ≠ .alarmed)
    (later : new ≠ .alarmed) (phases : after.phases = executor.snapshot.phases.set index new)
    (consumer : after.consumer = executor.snapshot.consumer) :
    after.Summons role ↔ executor.snapshot.Summons role := by
  cases role with
  | producer place =>
    rw [Snapshot.Summons, Snapshot.Summons, phases]
    by_cases here : index = place
    · subst here
      rw [List.getElem?_set_self (List.getElem?_eq_some_iff.mp was).1, was]
      simp [before, later]
    · rw [List.getElem?_set_ne here]
  | consumer => rw [Snapshot.Summons, Snapshot.Summons, consumer]

theorem not_alarmed_of_isBusy {phase : ProducerPhase ρ} (busy : phase.isBusy = true) :
    phase ≠ .alarmed := by
  rintro rfl
  contradiction

theorem summons_of_producer {after : Snapshot ρ α β}
    (move : ProducerMove executor.snapshot index after)
    (failed : executor.failure.captured ≠ none)
    (calm : executor.snapshot.phases[index]? ≠ some .alarmed) :
    after.Summons role ↔ executor.snapshot.Summons role := by
  have before : ∀ {old}, executor.snapshot.phases[index]? = some old → old ≠ .alarmed := by
    rintro old was rfl
    exact calm was
  cases move with
  | recorded error was first => exact absurd first failed
  | turned old new was _ stays =>
    exact summons_of_set was (before was) (not_alarmed_of_isBusy stays) rfl rfl
  | declined new was call stays =>
    exact summons_of_set was (before was) (not_alarmed_of_isBusy stays) rfl rfl
  | closes was free => exact absurd was calm
  | reported was =>
    rcases was with was | was
    · exact summons_of_set was (before was) (by simp) rfl rfl
    · exact summons_of_set was (before was) (by simp) rfl rfl
  | inserts _ _ was | measuringFailed _ _ was | accepted _ was | discarded _ was | closed was
  | signalled was | marked was => exact summons_of_set was (before was) (by simp) rfl rfl

theorem summons_of_consumer {act : ConsumerAct β} {after : Snapshot ρ α β}
    (move : ConsumerMove executor.snapshot act after) (failed : executor.failure.captured ≠ none)
    (aside : act ≠ .closeQueue) : after.Summons role ↔ executor.snapshot.Summons role := by
  have keeps : ∀ {after : Snapshot ρ α β}, executor.snapshot.consumer ≠ .alarmed →
      after.consumer ≠ .alarmed → after.phases = executor.snapshot.phases →
      (after.Summons role ↔ executor.snapshot.Summons role) := by
    intro after before later phases
    cases role with
    | producer index => rw [Snapshot.Summons, Snapshot.Summons, phases]
    | consumer => simp [Snapshot.Summons, before, later]
  cases move with
  | recorded error was first => exact absurd first failed
  | closes was free => contradiction
  | turned act new turn =>
    refine keeps ?_ ?_ rfl
    · intro alarmed
      have calm := (ConsumerPhase.calm_of_turn turn).1
      rw [alarmed] at calm
      contradiction
    · rcases cases_of_turn turn with ⟨error, rfl⟩ | ⟨-, -, rfl⟩ | ⟨result, -, -, rfl⟩ <;> simp
  | reports status was =>
    refine keeps (by simp [was]) ?_ rfl
    cases status <;> simp [afterDrained]
  | starts was | goesOn _ was | receives _ was | drains _ was | delivers _ was
  | discarded _ was | closed was | signalled was =>
    exact keeps (by simp [was]) (by simp) rfl

/-- Nobody who is spawned runs the listener at once. -/
theorem summons_of_caller {call : Nat} {after : Snapshot ρ α β}
    (started : executor.snapshot.Started) (move : CallerMove executor.snapshot call after) :
    after.Summons role ↔ executor.snapshot.Summons role := by
  have unborn : ∀ {call worker : Nat}, executor.snapshot.executes[call]? =
      some (.spawning worker) → executor.snapshot.Unborn worker :=
    fun was => started.frontier _ (List.mem_of_getElem? was) _ rfl
  cases move with
  | spawnsProducer worker new was inside born =>
    have found := List.getElem?_eq_getElem inside
    have fresh := (unborn was).2 worker _ (Nat.le_refl _) found
    exact summons_of_set found (by simp [fresh]) (not_alarmed_of_isBusy born) rfl rfl
  | spawnsHook worker was last | spawnsPull worker was last free =>
    cases role with
    | producer index => rfl
    | consumer => simp [Snapshot.Summons, (unborn was).1]
  | takesParts | receives | withdraws | proceeds => exact summons_of_same rfl rfl

/-- Once the slot is set, nobody else comes to run the listener, and nobody gets out of it. -/
theorem summons_iff (started : executor.snapshot.Started)
    (stepped : executor.step event = some next) (failed : executor.failure.captured ≠ none)
    (aside : event.alarm? = none) :
    next.snapshot.Summons role ↔ executor.snapshot.Summons role := by
  have move := move_of_step stepped
  generalize seen : next.snapshot = after at move
  cases move with
  | queue move => exact summons_of_same move.frame.phases move.frame.consumer
  | producer move =>
    apply summons_of_producer move failed
    intro alarmed
    obtain rfl := (closes_iff_alarmed stepped).mp alarmed
    contradiction
  | consumer move =>
    apply summons_of_consumer move failed
    rintro rfl
    contradiction
  | caller move => exact summons_of_caller started move
  | user mine move => exact summons_of_same move.frame.phases move.frame.consumer
  | still others => exact Iff.rfl

/-- Whoever is about to run the listener can do so at once. -/
theorem listens_of_summons (agreement : executor.snapshot.Agreement)
    (summons : executor.snapshot.Summons role) :
    ∃ event next, event.alarm? = some role ∧ executor.step event = some next := by
  cases role with
  | producer index =>
    have alarmed : executor.snapshot.phases[index]? = some .alarmed := summons
    obtain ⟨outline, call, errand⟩ := agreement.producer_outline alarmed
    have idle := idle_of_nothing call errand
    obtain ⟨worker, found, phase⟩ : ∃ worker, executor.producers[index]? = some worker ∧
        worker.phase = .alarmed := by
      simpa [snapshot] using alarmed
    have possible : (executor.step (.producer index .closeQueue)).isSome = true := by
      simp [step, stepProducer, found, turnProducer, phase, engageProducer, stepQueue,
        SharedQueue.step, idle]
    obtain ⟨next, stepped⟩ := Option.isSome_iff_exists.mp possible
    exact ⟨_, next, rfl, stepped⟩
  | consumer =>
    have phase : executor.consumer.phase = .alarmed := summons
    obtain ⟨outline, call, errand⟩ := agreement.consumer_outline
    rw [length_phases] at call
    have idle := idle_of_nothing call (errand.trans (congrArg ConsumerPhase.errand phase))
    have possible : (executor.step (.consumer .closeQueue)).isSome = true := by
      simp [step, stepConsumer, turnConsumer, phase, engageConsumer, stepQueue,
        SharedQueue.step, idle]
    obtain ⟨next, stepped⟩ := Option.isSome_iff_exists.mp possible
    exact ⟨_, next, rfl, stepped⟩

end Executor

end BoundedIngest

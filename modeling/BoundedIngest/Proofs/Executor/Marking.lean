/-
Module: BoundedIngest.Proofs.Executor.Marking
Purpose: Every producer is marked done once, as the last thing it does, and after whatever it
  recorded.
Main exports:
  ProducerPhase.toReturn, Executor.Event.marks, Executor.Event.isMark, Executor.marksBy_of_run,
  Executor.marks_of_run, Executor.nothing_after_end, Executor.returns_of_run, Executor.LastAct,
  Executor.marked_once_at_the_end
-/
import BoundedIngest.Proofs.Executor.Leaving

namespace BoundedIngest

/-!
The mark is the one way out of a producer, whichever way its production came to its end.  So the
producers that are marked are those that have ended, and the queue, which counts the marks, never
counts more than there are.  A producer that records a failure before anybody else runs the listener
of the slot as part of that, and it gets to its mark only behind the listener's last step.
-/

variable {ρ α β : Type}

/-- What a producer that runs the listener of the slot has still to do until the record returns. -/
def ProducerPhase.toReturn : ProducerPhase ρ → List (Executor.ProducerAct ρ α)
  | .alarmed => [.closeQueue, .closed, .signal]
  | .closing => [.closed, .signal]
  | .signalling => [.signal]
  | _ => []

namespace Executor

/-- The producer at this position is marked done. -/
def Event.marks (index : Nat) : Event ρ α β → Bool
  | .producer other .markDone => other == index
  | _ => false

/-- Some producer is marked done. -/
def Event.isMark : Event ρ α β → Bool
  | .producer _ .markDone => true
  | _ => false

variable {executor next final : Executor ρ α β} {event : Event ρ α β}
  {events first rest : List (Event ρ α β)} {index producers : Nat} {history : History ρ α β}
  {kind : SourceKind} {worker : ProducerWorker ρ} {act : ProducerAct ρ α}
  {old new phase : ProducerPhase ρ} {config : ExecutorConfig} {hooked : Bool}
  {kinds : List SourceKind}

/-! ### The mark ends a producer -/

theorem marks_of_others (others : ∀ act, event ≠ .producer index act) :
    event.marks index = false := by
  rw [Bool.eq_false_iff]
  intro marks
  cases event with
  | producer other act =>
    cases act with
    | markDone => exact others _ (by rw [beq_iff_eq.mp marks])
    | _ => contradiction
  | _ => contradiction

/-- A producer that turns to something by itself has not ended, and does not end. -/
theorem running_of_turn (index : Nat) (turn : turnProducer worker act = some new) :
    worker.phase.isEnded = false ∧ new.isEnded = false ∧
      Event.marks index (.producer index act : Event ρ α β) = false := by
  obtain ⟨onward, near⟩ := progress_of_turn turn
  have running : ∀ phase : ProducerPhase ρ, phase.progress ≤ 3 → phase.isEnded = false := by
    intro phase early
    cases phase <;> first | rfl | simp [ProducerPhase.progress] at early
  refine ⟨running _ (onward.trans near), running _ near, ?_⟩
  cases act with
  | markDone =>
    unfold turnProducer at turn
    cases phase : worker.phase <;> rw [phase] at turn <;> contradiction
  | _ => rfl

/-- A producer that engages in something has not ended, and it ends exactly if it is marked. -/
theorem ends_of_engages (index : Nat) (engages : Engages kind old act new) :
    old.isEnded = false ∧ new.isEnded = Event.marks index (.producer index act : Event ρ α β) := by
  cases engages with
  | marks => exact ⟨rfl, (beq_self_eq_true index).symm⟩
  | accepted | refused => cases kind <;> exact ⟨rfl, rfl⟩
  | reports outcome =>
    cases outcome with
    | none => exact ⟨rfl, rfl⟩
    | some halt => cases halt <;> exact ⟨rfl, rfl⟩
  | records error first => cases first <;> exact ⟨rfl, rfl⟩
  | inserts | measures | panics | closes | closed | signals => exact ⟨rfl, rfl⟩

/-- A step marks a producer exactly if the producer ends in it. -/
theorem ends_of_steps (steps : Steps index worker event new) :
    new.isEnded.toNat = worker.phase.isEnded.toNat + (event.marks index).toNat := by
  cases steps with
  | stays others => rw [marks_of_others others, Bool.toNat_false, Nat.add_zero]
  | born others unborn first =>
    rw [marks_of_others others, unborn]
    rcases first with rfl | rfl <;> rfl
  | turns turn =>
    obtain ⟨before, after, unmarked⟩ := running_of_turn (β := β) index turn
    rw [before, after, unmarked]
    rfl
  | engages engages =>
    obtain ⟨before, after⟩ := ends_of_engages (β := β) index engages
    rw [before, after, Bool.toNat_false, Nat.zero_add]

/-- A producer has been marked as often as it has ended: once, or not yet. -/
theorem marksBy_of_run (reached : Reached producers executor.snapshot history)
    (ran : executor.run events = some final)
    (found : executor.snapshot.phases[index]? = some old)
    (there : final.snapshot.phases[index]? = some new) :
    new.isEnded.toNat = old.isEnded.toNat + events.countP (Event.marks index) := by
  induction events generalizing executor history old with
  | nil =>
    cases ran
    cases found.symm.trans there
    rfl
  | cons event rest ih =>
    obtain ⟨middle, stepped, ran⟩ := Option.bind_eq_some_iff.mp ran
    obtain ⟨between, here⟩ := phase_after reached found stepped
    obtain ⟨worker, worked, rfl⟩ := worker_of_phase found
    have first := ends_of_steps (steps_of_step reached.started stepped worked here)
    have onward := ih (.move reached (move_of_step stepped)) ran here
    rw [countP_cons_toNat]
    omega

/-! ### The queue counts the marks -/

/-- A step of a producer changes no phase but its own. -/
theorem phases_of_stepProducer (stepped : executor.step (.producer index act) = some next)
    (there : next.snapshot.phases[index]? = some new) :
    next.snapshot.phases = executor.snapshot.phases.set index new := by
  have move := move_of_step stepped
  generalize next.snapshot = after at move there ⊢
  cases move with
  | producer move =>
    obtain ⟨old, now, was, -, -, phases⟩ := move.frame.phases
    rw [phases, List.getElem?_set_self (List.getElem?_eq_some_iff.mp was).1] at there
    rw [phases, Option.some.inj there]
  | user mine => simp at mine
  | still => exact (set_eq_self there).symm

/-- What is not a step of a producer marks nobody. -/
theorem marks_of_move {snapshot after : Snapshot ρ α β} (move : Move snapshot event after)
    (others : ∀ index act, event ≠ .producer index act) : after.marks = snapshot.marks := by
  cases move with
  | queue move => exact move.frame.marks
  | producer move => exact absurd rfl (others _ _)
  | consumer move => exact move.frame.marks
  | caller move => exact move.frame.marks
  | user mine move => exact move.frame.marks
  | still => rfl

theorem marks_of_step (reached : Reached producers executor.snapshot history)
    (stepped : executor.step event = some next) :
    next.snapshot.marks = executor.snapshot.marks + event.isMark.toNat := by
  by_cases own : ∃ index act, event = .producer index act
  · obtain ⟨index, act, rfl⟩ := own
    have after : Reached producers next.snapshot _ := .move reached (move_of_step stepped)
    obtain ⟨worker, new, found, there, goes⟩ := onward_of_stepProducer stepped
    have steps : Steps index worker (.producer index act : Event ρ α β) new :=
      goes.elim .turns .engages
    have ends := ends_of_steps steps
    have same : Event.marks index (.producer index act : Event ρ α β) =
        Event.isMark (.producer index act : Event ρ α β) := by
      cases act <;> first | rfl | exact beq_self_eq_true index
    have counted := countP_set_add ProducerPhase.isEnded new (phases_getElem? found)
    rw [← phases_of_stepProducer stepped there, ← after.agreement.marks,
      ← reached.agreement.marks, ends, same] at counted
    omega
  · have others : ∀ index act, event ≠ .producer index act :=
      fun index act mine => own ⟨index, act, mine⟩
    have unmarked : event.isMark = false := by
      cases event with
      | producer index act => exact absurd rfl (others index act)
      | _ => rfl
    rw [marks_of_move (move_of_step stepped) others, unmarked, Bool.toNat_false, Nat.add_zero]

/-- The queue has counted every mark. -/
theorem marks_of_run (reached : Reached producers executor.snapshot history)
    (ran : executor.run events = some final) :
    final.snapshot.marks = executor.snapshot.marks + events.countP Event.isMark := by
  induction events generalizing executor history with
  | nil =>
    cases ran
    rfl
  | cons event rest ih =>
    obtain ⟨middle, stepped, ran⟩ := Option.bind_eq_some_iff.mp ran
    rw [ih (.move reached (move_of_step stepped)) ran, marks_of_step reached stepped,
      countP_cons_toNat]
    omega

/-! ### Nothing comes before the mark that is not over, and nothing after it -/

/-- A producer that is marked has nothing else left to do, and it ends. -/
theorem ended_of_mark (stepped : executor.step (.producer index .markDone) = some next) :
    executor.snapshot.phases[index]? = some .marking ∧
      next.snapshot.phases[index]? = some .ended := by
  obtain ⟨worker, new, found, there, goes⟩ := onward_of_stepProducer stepped
  rw [phases_getElem? found, there]
  rcases goes with turn | engages
  · have unmarked := (running_of_turn (β := β) index turn).2.2
    exact absurd (beq_self_eq_true index) (Bool.eq_false_iff.mp unmarked)
  · generalize worker.phase = old at engages ⊢
    cases engages
    exact ⟨rfl, rfl⟩

/-- A producer with no call of its own takes no step inside the queue. -/
theorem not_isOf_of_idle (others : ∀ act, event ≠ .producer index act)
    (stepped : executor.step event = some next)
    (idle : executor.shared.calls[index]? = some .idle) : event.isOf index = false := by
  rw [Bool.eq_false_iff]
  intro own
  cases event with
  | enterQueue caller =>
    cases beq_iff_eq.mp own
    obtain ⟨shared, entered, -⟩ := shared_of_stepQueue stepped
    simp [SharedQueue.step, SharedQueue.enter, idle] at entered
  | notifyQueue caller target =>
    cases beq_iff_eq.mp own
    obtain ⟨shared, notified, -⟩ := shared_of_stepQueue stepped
    simp [SharedQueue.step, SharedQueue.notify, idle] at notified
  | reportQueue caller =>
    cases beq_iff_eq.mp own
    obtain ⟨shared, reported, -⟩ := shared_of_stepQueue stepped
    simp [SharedQueue.step, SharedQueue.report, idle] at reported
  | producer other act =>
    cases beq_iff_eq.mp own
    exact others act rfl
  | _ => contradiction

/-- A producer that wants nothing of the queue has no call there. -/
theorem idle_of_phase (agreement : executor.snapshot.Agreement)
    (found : executor.snapshot.phases[index]? = some phase) (nothing : phase.errand = .nothing) :
    executor.shared.calls[index]? = some .idle := by
  obtain ⟨outline, call, errand⟩ := agreement.producer_outline found
  exact idle_of_nothing call (errand.trans nothing)

/-- A producer that has ended does nothing any more. -/
theorem not_isOf_of_ended (agreement : executor.snapshot.Agreement)
    (stepped : executor.step event = some next)
    (ended : executor.snapshot.phases[index]? = some .ended) : event.isOf index = false := by
  by_cases own : ∃ act, event = .producer index act
  · obtain ⟨act, rfl⟩ := own
    obtain ⟨worker, new, found, -, goes⟩ := onward_of_stepProducer stepped
    have running : worker.phase.isEnded = false := by
      rcases goes with turn | engages
      · exact (running_of_turn (β := β) index turn).1
      · exact (ends_of_engages (β := β) index engages).1
    rw [Option.some.inj ((phases_getElem? found).symm.trans ended)] at running
    contradiction
  · exact not_isOf_of_idle (fun act mine => own ⟨act, mine⟩) stepped
      (idle_of_phase agreement ended rfl)

theorem nothing_after_end (reached : Reached producers executor.snapshot history)
    (ran : executor.run events = some final)
    (ended : executor.snapshot.phases[index]? = some .ended) :
    ∀ event ∈ events, event.isOf index = false := by
  induction events generalizing executor history with
  | nil => exact List.forall_mem_nil _
  | cons event rest ih =>
    obtain ⟨middle, stepped, ran⟩ := Option.bind_eq_some_iff.mp ran
    have one : executor.run [event] = some middle := by rw [run, stepped]; rfl
    exact List.forall_mem_cons.mpr ⟨not_isOf_of_ended reached.agreement stepped ended,
      ih (.move reached (move_of_step stepped)) ran (ended_of_run reached one ended)⟩

/-- What a producer still has to do for its record to return, it does next or later. -/
theorem returns_of_steps (steps : Steps index worker event new) :
    (worker.phase.toReturn.map (Event.producer index)).Sublist
      (event :: new.toReturn.map (Event.producer index)) := by
  cases steps with
  | stays others => exact List.sublist_cons_self _ _
  | born others unborn first =>
    rw [unborn]
    exact List.nil_sublist _
  | turns turn =>
    have stays : worker.phase.isLeaving = false := by
      by_contra leaves
      rw [turn_of_isLeaving (Bool.not_eq_false _ ▸ leaves)] at turn
      contradiction
    cases phase : worker.phase <;> rw [phase] at stays <;>
      first | exact List.nil_sublist _ | contradiction
  | engages engages =>
    generalize worker.phase = old at engages ⊢
    cases engages with
    | closes | closed | signals => exact List.Sublist.refl _
    | inserts | measures | panics | accepted | refused | reports | records | marks =>
      exact List.nil_sublist _

theorem returns_of_run (reached : Reached producers executor.snapshot history)
    (ran : executor.run events = some final)
    (found : executor.snapshot.phases[index]? = some old)
    (there : final.snapshot.phases[index]? = some new) :
    (old.toReturn.map (Event.producer index)).Sublist
      (events ++ new.toReturn.map (Event.producer index)) := by
  induction events generalizing executor history old with
  | nil =>
    cases ran
    cases found.symm.trans there
    exact List.Sublist.refl _
  | cons event rest ih =>
    obtain ⟨middle, stepped, ran⟩ := Option.bind_eq_some_iff.mp ran
    obtain ⟨between, here⟩ := phase_after reached found stepped
    obtain ⟨worker, worked, rfl⟩ := worker_of_phase found
    have first := returns_of_steps (steps_of_step reached.started stepped worked here)
    exact first.trans ((ih (.move reached (move_of_step stepped)) ran here).cons_cons event)

/-! ### The mark -/

/-- What holds where a producer is marked done, between what came before and what comes after. -/
structure LastAct (start : Executor ρ α β) (index : Nat) (before after : List (Event ρ α β))
    (executor : Executor ρ α β) : Prop where
  /-- The queue has not counted all its producers yet. -/
  expected : executor.shared.queue.producersDone < executor.shared.queue.producersTotal
  /-- Its last insert has returned, and it has no other call on the queue. -/
  returned : executor.shared.calls[index]? = some .idle
  /-- If it was the first to record a failure, the listener has run to its end. -/
  recorded : ∀ first rest middle, before = first ++ .producer index .recordFailure :: rest →
    start.run first = some middle → middle.failure.captured = none →
    ([.producer index .closeQueue, .producer index .closed, .producer index .signal] :
      List (Event ρ α β)).Sublist rest
  /-- It takes no other step from then on. -/
  last : ∀ event ∈ after, event.isOf index = false

theorem recorded_before_mark {start middle : Executor ρ α β}
    (reached : Reached producers start.snapshot history)
    (ran : start.run (first ++ .producer index .recordFailure :: rest) = some executor)
    (ranFirst : start.run first = some middle) (empty : middle.failure.captured = none)
    (marking : executor.snapshot.phases[index]? = some .marking) :
    ([.producer index .closeQueue, .producer index .closed, .producer index .signal] :
      List (Event ρ α β)).Sublist rest := by
  obtain ⟨same, next, ranBefore, stepped, ranRest⟩ := run_split ran
  cases ranFirst.symm.trans ranBefore
  obtain ⟨past, here⟩ := reached_after reached ranFirst
  obtain ⟨error, -, -, alarmed⟩ := recording_producer stepped
  have returns := returns_of_run (.move here (move_of_step stepped)) ranRest (alarmed empty) marking
  simpa [ProducerPhase.toReturn] using returns

/-- Whoever is about to be marked is not counted yet. -/
theorem expected_of_marking (agreement : executor.snapshot.Agreement)
    (marking : executor.snapshot.phases[index]? = some .marking) :
    executor.snapshot.marks < executor.snapshot.registered := by
  rw [agreement.marks, agreement.registered]
  refine Nat.lt_of_le_of_ne List.countP_le_length fun all => ?_
  have ended := List.countP_eq_length.mp all _ (List.mem_of_getElem? marking)
  contradiction

theorem lastAct_of_mark {before after : List (Event ρ α β)} {start : Executor ρ α β}
    (reached : Reached producers start.snapshot history)
    (ran : start.run (before ++ .producer index .markDone :: after) = some final) :
    ∃ executor, start.run before = some executor ∧
      LastAct start index before after executor := by
  obtain ⟨executor, next, ranBefore, stepped, ranAfter⟩ := run_split ran
  obtain ⟨past, here⟩ := reached_after reached ranBefore
  obtain ⟨marking, ended⟩ := ended_of_mark stepped
  refine ⟨executor, ranBefore, expected_of_marking here.agreement marking,
    idle_of_phase here.agreement marking rfl, ?_,
    nothing_after_end (.move here (move_of_step stepped)) ranAfter ended⟩
  rintro first rest middle rfl ranFirst empty
  exact recorded_before_mark reached ranBefore ranFirst empty marking

/-- Whichever way the producers come to the end of their production, and however their steps
interleave: each of them is marked done once and only once, and this is the last thing it does.  Its
calls on the queue have returned by then, and so has what it recorded, listener included.  So the
queue has counted as many producers as have got to their mark, never more than there are, and at no
mark does it expect nobody any more.  And a producer whose production is over always gets to its
mark. -/
theorem marked_once_at_the_end (ran : (create config hooked kinds).run events = some executor) :
    executor.shared.queue.producersTotal = kinds.length ∧
    executor.shared.queue.producersDone = events.countP Event.isMark ∧
    executor.shared.queue.producersDone =
      executor.producers.countP (fun worker => worker.phase.isEnded) ∧
    executor.shared.queue.producersDone ≤ executor.shared.queue.producersTotal ∧
    (∀ before after index, events = before ++ .producer index .markDone :: after →
      ∃ middle, (create config hooked kinds).run before = some middle ∧
        LastAct (create config hooked kinds) index before after middle) ∧
    ∀ index phase, executor.snapshot.phases[index]? = some phase →
      events.countP (Event.marks index) = phase.isEnded.toNat ∧
      (3 ≤ phase.progress → executor.Departs index 8) := by
  obtain ⟨history, reached⟩ := reached_of_run ran
  have created : Reached kinds.length (create config hooked kinds : Executor ρ α β).snapshot {} :=
    Chronicle.reached_start config hooked kinds
  have total : executor.snapshot.registered = kinds.length := by
    rw [reached.agreement.registered, reached.length_phases]
  have counted := marks_of_run created ran
  have ended : executor.snapshot.marks =
      executor.producers.countP (fun worker => worker.phase.isEnded) := by
    rw [reached.agreement.marks, snapshot, List.countP_map]
    rfl
  have most : executor.snapshot.marks ≤ executor.snapshot.registered := by
    rw [reached.agreement.marks, reached.agreement.registered]
    exact List.countP_le_length
  refine ⟨total, counted.trans (Nat.zero_add _), ended, most, ?_, fun index phase found => ⟨?_, ?_⟩⟩
  · rintro before after index rfl
    exact lastAct_of_mark created ran
  · have inside := (List.getElem?_eq_some_iff.mp found).1
    rw [reached.length_phases] at inside
    have unborn : (create config hooked kinds : Executor ρ α β).snapshot.phases[index]? =
        some .unborn := by
      rw [snapshot_create]
      simp [Snapshot.start, inside]
    have marks := marksBy_of_run created ran unborn found
    rw [marks]
    exact (Nat.zero_add _).symm
  · exact departs_of_phase reached found

/-- The hook of one producer panics and the source of the other fails.  The first to record its
failure runs the listener, and the other is told so. -/
def failedRun : List (Event Nat Nat Nat) :=
  [.execute, .executing 0 (.readFlag false), .executing 0 .proceed, .executing 0 .proceed,
    .executing 0 .proceed, .executing 0 .proceed, .executing 0 .proceed, .executing 0 .proceed,
    .executing 0 .proceed, .producer 0 (.hookPanicked .other), .producer 1 .hookReturned,
    .producer 1 (.sourceFailed "disk"), .producer 1 .report, .producer 0 .recordFailure,
    .producer 1 .recordFailure, .producer 0 .closeQueue, .notifyQueue 0 none,
    .notifyQueue 0 none, .producer 0 .closed, .producer 0 .signal]

theorem marked_once_at_the_end_inhabited :
    ∃ executor middle : Executor Nat Nat Nat,
      (create {} true [.results, .results]).run
          (failedRun ++ .producer 0 .markDone :: [.producer 1 .markDone]) = some executor ∧
      executor.shared.queue.producersDone = 2 ∧ executor.shared.queue.producersTotal = 2 ∧
      (create {} true [.results, .results]).run failedRun = some middle ∧
      LastAct (create {} true [.results, .results]) 0 failedRun [.producer 1 .markDone] middle := by
  have ends : ((create {} true [.results, .results]).run
      (failedRun ++ .producer 0 .markDone :: [.producer 1 .markDone])).isSome = true := by
    decide +kernel
  obtain ⟨executor, ran⟩ := Option.isSome_iff_exists.mp ends
  obtain ⟨total, counted, -, -, last, -⟩ := marked_once_at_the_end ran
  obtain ⟨middle, ranBefore, act⟩ := last failedRun [.producer 1 .markDone] 0 rfl
  exact ⟨executor, middle, ran, counted, total, ranBefore, act⟩

end Executor

end BoundedIngest

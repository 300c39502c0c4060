/-
Module: BoundedIngest.Proofs.Executor.Leaving
Purpose: A producer whose production is over hands in the failure it has, is never held up, and is
  marked done after a few steps of its own.
Main exports:
  ProducerPhase.progress, Executor.progress_of_run, Executor.marked_of_run, Executor.Offers,
  Executor.offered_of_run, Executor.Leaving, Executor.Departs, Executor.Leaving.departs
-/
import BoundedIngest.Proofs.Executor.Blame
import BoundedIngest.Proofs.Executor.Figures
import BoundedIngest.Proofs.Executor.Listening
import BoundedIngest.Proofs.Queue.Closing

namespace BoundedIngest

/-!
A producer goes one way only: it is spawned, it may run a hook, it produces, it leaves, and it has
ended.  On its way out it does at most eight things, and none of them has to wait for anybody: it
records its count and its failure, closes the queue and notifies those who wait there, signals
the failure, and is marked done.
-/

variable {ρ α β : Type}

/-! ### How far a producer has come -/

/-- How far a producer has come: its production lies between two and three. -/
def ProducerPhase.progress : ProducerPhase ρ → Nat
  | .unborn => 0
  | .hooking => 1
  | .sourcing _ | .offering _ | .transforming _ | .inserting => 2
  | .reporting _ | .failing _ | .alarmed | .closing | .signalling | .marking => 3
  | .ended => 4

/-- Production is over, and the producer has not ended. -/
def ProducerPhase.isLeaving : ProducerPhase ρ → Bool
  | .reporting _ | .failing _ | .alarmed | .closing | .signalling | .marking => true
  | _ => false

/-- How many steps a producer whose production is over has yet to take, its notifications
apart. -/
def ProducerPhase.toGo : ProducerPhase ρ → Nat
  | .reporting _ => 8
  | .failing _ => 7
  | .alarmed => 6
  | .closing => 3
  | .signalling => 2
  | .marking => 1
  | _ => 0

theorem ProducerPhase.isLeaving_of_error {phase : ProducerPhase ρ} {error : WorkerError}
    (errs : phase.error? = some error) : phase.isLeaving = true := by
  cases phase <;> first | rfl | contradiction

theorem ProducerPhase.progress_of_isLeaving {phase : ProducerPhase ρ}
    (leaves : phase.isLeaving = true) : phase.progress = 3 := by
  cases phase <;> first | rfl | contradiction

theorem ProducerPhase.leaving_or_ended {phase : ProducerPhase ρ} (far : 3 ≤ phase.progress) :
    phase.isLeaving = true ∨ phase = .ended := by
  cases phase <;> first | exact .inl rfl | exact .inr rfl | simp [progress] at far

namespace Executor

variable {executor middle next final : Executor ρ α β} {event : Event ρ α β}
  {events first rest : List (Event ρ α β)} {index producers : Nat} {history : History ρ α β}
  {kind : SourceKind} {worker : ProducerWorker ρ} {act : ProducerAct ρ α}
  {old new phase : ProducerPhase ρ} {error : WorkerError}

theorem run_split (ran : executor.run (first ++ event :: rest) = some final) :
    ∃ middle next, executor.run first = some middle ∧ middle.step event = some next ∧
      next.run rest = some final := by
  rw [run_append] at ran
  obtain ⟨middle, ranFirst, ranRest⟩ := Option.bind_eq_some_iff.mp ran
  obtain ⟨next, stepped, ranRest⟩ := Option.bind_eq_some_iff.mp ranRest
  exact ⟨middle, next, ranFirst, stepped, ranRest⟩

/-- What was reached stays reached. -/
theorem reached_after (reached : Reached producers executor.snapshot history)
    (ran : executor.run events = some final) : ∃ later, Reached producers final.snapshot later := by
  induction events generalizing executor history with
  | nil =>
    cases ran
    exact ⟨history, reached⟩
  | cons event rest ih =>
    obtain ⟨middle, stepped, ran⟩ := Option.bind_eq_some_iff.mp ran
    exact ih (.move reached (move_of_step stepped)) ran

theorem progress_answered (kind : SourceKind) (answer : Option Halt) :
    2 ≤ (answered kind answer : ProducerPhase ρ).progress ∧
      (answered kind answer : ProducerPhase ρ).progress ≤ 3 := by
  cases answer with
  | none => simp [answered, ProducerPhase.progress]
  | some halt => cases kind <;> simp [answered, ProducerPhase.progress]

/-- Whatever a producer turns to, it does not go back. -/
theorem progress_of_turn (turn : turnProducer worker act = some new) :
    worker.phase.progress ≤ new.progress ∧ new.progress ≤ 3 := by
  unfold turnProducer at turn
  split at turn
  case h_11 => contradiction
  case h_8 was =>
    cases turn
    rw [was]
    split
    · exact progress_answered _ _
    · simp [ProducerPhase.progress]
  case h_9 was | h_10 was =>
    cases turn
    rw [was]
    exact progress_answered _ _
  case h_5 was | h_6 was =>
    split at turn
    all_goals first
      | contradiction
      | cases turn
        rw [was]
        simp [ProducerPhase.progress]
  all_goals
    rename_i was
    cases turn
    rw [was]
    simp [ProducerPhase.progress]

/-- A producer on its way out has nothing to do by itself. -/
theorem turn_of_isLeaving (leaves : worker.phase.isLeaving = true) :
    turnProducer worker act = none := by
  unfold turnProducer
  cases phase : worker.phase <;> rw [phase] at leaves <;> contradiction

theorem progress_of_engages (engages : Engages kind old act new) :
    old.progress ≤ new.progress := by
  cases engages with
  | accepted | refused => exact (progress_answered kind _).1
  | reports outcome =>
    cases outcome with
    | none => exact le_rfl
    | some halt => cases halt <;> exact le_rfl
  | records error first => cases first <;> exact le_rfl
  | inserts | measures | panics | closes | closed | signals | marks =>
    simp [ProducerPhase.progress]

theorem marks_of_engages (engages : Engages kind old act new) (ended : new = .ended) :
    act = .markDone := by
  cases engages with
  | marks => rfl
  | accepted | refused => cases kind <;> contradiction
  | reports outcome =>
    cases outcome with
    | none => contradiction
    | some halt => cases halt <;> contradiction
  | records error first => cases first <;> contradiction
  | inserts | measures | panics | closes | closed | signals => contradiction

theorem progress_of_steps (steps : Steps index worker event new) :
    worker.phase.progress ≤ new.progress := by
  cases steps with
  | stays others => exact le_rfl
  | born others unborn first =>
    rw [unborn]
    exact Nat.zero_le _
  | turns turn => exact (progress_of_turn turn).1
  | engages engages => exact progress_of_engages engages

/-- Nothing but the mark ends a producer. -/
theorem marks_of_steps (steps : Steps index worker event new) (running : worker.phase ≠ .ended)
    (ended : new = .ended) : event = .producer index .markDone := by
  cases steps with
  | stays others => exact absurd ended running
  | born others unborn first =>
    rw [ended] at first
    rcases first with first | first <;> contradiction
  | turns turn =>
    have near := (progress_of_turn turn).2
    simp [ended, ProducerPhase.progress] at near
  | engages engages => rw [marks_of_engages engages ended]

theorem worker_of_phase (found : executor.snapshot.phases[index]? = some phase) :
    ∃ worker, executor.producers[index]? = some worker ∧ worker.phase = phase := by
  simpa [snapshot] using found

theorem phase_after (reached : Reached producers executor.snapshot history)
    (found : executor.snapshot.phases[index]? = some phase)
    (stepped : executor.step event = some next) :
    ∃ new, next.snapshot.phases[index]? = some new := by
  have inside := (List.getElem?_eq_some_iff.mp found).1
  rw [reached.length_phases] at inside
  have after : Reached producers next.snapshot _ := .move reached (move_of_step stepped)
  rw [← after.length_phases] at inside
  exact ⟨_, List.getElem?_eq_getElem inside⟩

/-- A producer never goes back. -/
theorem progress_of_run (reached : Reached producers executor.snapshot history)
    (ran : executor.run events = some final)
    (found : executor.snapshot.phases[index]? = some phase) :
    ∃ new, final.snapshot.phases[index]? = some new ∧ phase.progress ≤ new.progress := by
  induction events generalizing executor history phase with
  | nil =>
    cases ran
    exact ⟨phase, found, le_rfl⟩
  | cons event rest ih =>
    obtain ⟨middle, stepped, ran⟩ := Option.bind_eq_some_iff.mp ran
    obtain ⟨between, there⟩ := phase_after reached found stepped
    obtain ⟨worker, here, rfl⟩ := worker_of_phase found
    have onward := progress_of_steps (steps_of_step reached.started stepped here there)
    obtain ⟨new, at_, further⟩ := ih (.move reached (move_of_step stepped)) ran there
    exact ⟨new, at_, onward.trans further⟩

/-- A producer that has ended in a run was marked done in it. -/
theorem marked_of_run (reached : Reached producers executor.snapshot history)
    (ran : executor.run events = some final)
    (found : executor.snapshot.phases[index]? = some phase) (running : phase ≠ .ended)
    (ended : final.snapshot.phases[index]? = some .ended) :
    .producer index .markDone ∈ events := by
  induction events generalizing executor history phase with
  | nil =>
    cases ran
    exact absurd (Option.some.inj (found.symm.trans ended)) running
  | cons event rest ih =>
    obtain ⟨middle, stepped, ran⟩ := Option.bind_eq_some_iff.mp ran
    obtain ⟨between, there⟩ := phase_after reached found stepped
    by_cases past : between = .ended
    · obtain ⟨worker, here, rfl⟩ := worker_of_phase found
      rw [marks_of_steps (steps_of_step reached.started stepped here there) running past]
      exact List.mem_cons_self
    · exact List.mem_cons_of_mem _ (ih (.move reached (move_of_step stepped)) ran there past)

/-! ### What a producer hands in -/

/-- In these steps a failure is recorded. -/
def Offers (executor : Executor ρ α β) (events : List (Event ρ α β))
    (failure : CapturedFailure) : Prop :=
  ∃ first event rest middle, events = first ++ event :: rest ∧
    executor.run first = some middle ∧ middle.recorded? event = some failure

theorem Offers.cons {failure : CapturedFailure} (offers : next.Offers rest failure)
    (stepped : executor.step event = some next) : executor.Offers (event :: rest) failure := by
  obtain ⟨first, recording, others, middle, rfl, ran, records⟩ := offers
  refine ⟨event :: first, recording, others, middle, rfl, ?_, records⟩
  rw [run, stepped, Option.bind_some, ran]

theorem Offers.append {failure : CapturedFailure} (offers : middle.Offers rest failure)
    (ran : executor.run first = some middle) : executor.Offers (first ++ rest) failure := by
  induction first generalizing executor with
  | nil =>
    cases ran
    exact offers
  | cons event others ih =>
    obtain ⟨next, stepped, ran⟩ := Option.bind_eq_some_iff.mp ran
    exact (ih ran).cons stepped

/-- A producer keeps the failure it has until it hands it in. -/
theorem kept_or_offered (reached : Reached producers executor.snapshot history)
    (stepped : executor.step event = some next)
    (found : executor.snapshot.phases[index]? = some phase) (errs : phase.error? = some error) :
    (∃ new, next.snapshot.phases[index]? = some new ∧ new.error? = some error) ∨
      executor.recorded? event = some { role := .producer index, error } := by
  by_cases own : ∃ act, event = .producer index act
  · obtain ⟨act, rfl⟩ := own
    obtain ⟨worker, new, here, there, goes⟩ := onward_of_stepProducer stepped
    cases (phases_getElem? here).symm.trans found
    rcases goes with turn | engages
    · rw [turn_of_isLeaving (ProducerPhase.isLeaving_of_error errs)] at turn
      contradiction
    · generalize worker.phase = old at engages errs found
      cases engages with
      | reports outcome =>
        cases outcome with
        | none => contradiction
        | some halt =>
          cases halt with
          | cancelled => contradiction
          | failed other => exact .inl ⟨_, there, errs⟩
      | records other first =>
        cases errs
        right
        simp [recorded?, found]
      | inserts | measures | panics | accepted | refused | closes | closed | signals | marks =>
        contradiction
  · have others : ∀ act, event ≠ .producer index act := fun act mine => own ⟨act, mine⟩
    have alive : phase ≠ .unborn := by
      rintro rfl
      contradiction
    exact .inl ⟨phase, (move_of_step stepped).phase reached.started others alive found, errs⟩

theorem offered_of_run (reached : Reached producers executor.snapshot history)
    (ran : executor.run events = some final)
    (found : executor.snapshot.phases[index]? = some phase) (errs : phase.error? = some error) :
    (∃ new, final.snapshot.phases[index]? = some new ∧ new.error? = some error) ∨
      executor.Offers events { role := .producer index, error } := by
  induction events generalizing executor history phase with
  | nil =>
    cases ran
    exact .inl ⟨phase, found, errs⟩
  | cons event rest ih =>
    obtain ⟨middle, stepped, ran⟩ := Option.bind_eq_some_iff.mp ran
    rcases kept_or_offered reached stepped found errs with ⟨new, there, still⟩ | records
    · exact (ih (.move reached (move_of_step stepped)) ran there still).imp_right
        fun offers => offers.cons stepped
    · exact .inr ⟨[], event, rest, executor, rfl, rfl, records⟩

/-! ### The way out -/

/-- A step that a producer takes itself, be it inside the queue. -/
def Event.isOf (index : Nat) : Event ρ α β → Bool
  | .enterQueue caller | .notifyQueue caller _ | .reportQueue caller | .producer caller _ =>
      caller == index
  | _ => false

/-- A producer is on its way out, with so many steps to take at most. -/
def Leaving (executor : Executor ρ α β) (index steps : Nat) : Prop :=
  ∃ phase call, executor.snapshot.phases[index]? = some phase ∧
    executor.shared.calls[index]? = some call ∧ phase.isLeaving = true ∧
    phase.toGo + call.toSend ≤ steps

/-- The call of a producer is there for what the producer is about. -/
theorem call_of_phase (agreement : executor.snapshot.Agreement)
    (found : executor.snapshot.phases[index]? = some phase) :
    ∃ call, executor.shared.calls[index]? = some call ∧ call.outline.errand = phase.errand := by
  obtain ⟨outline, here, errand⟩ := agreement.producer_outline found
  obtain ⟨call, there, rfl⟩ : ∃ call, executor.shared.calls[index]? = some call ∧
      call.outline = outline := by
    simpa [snapshot, SharedQueue.outlines] using here
  exact ⟨call, there, errand⟩

/-- Only a producer that closes the queue has notifications to send. -/
theorem toSend_of_errand {call : Call α} (errand : call.outline.errand = phase.errand)
    (apart : phase ≠ .closing) : call.toSend = 0 := by
  refine Call.toSend_of_outline fun closing => ?_
  rw [closing] at errand
  cases phase <;> first | exact apart rfl | contradiction

theorem closing_of_errand {outline : Outline α} (errand : outline.errand = .close) :
    outline = .closing := by
  cases outline <;> first | rfl | contradiction

/-- A producer on its way out begins with all it has to do. -/
theorem leaving_of_phase (agreement : executor.snapshot.Agreement)
    (found : executor.snapshot.phases[index]? = some phase) (leaves : phase.isLeaving = true) :
    executor.Leaving index 8 := by
  obtain ⟨call, here, errand⟩ := call_of_phase agreement found
  refine ⟨phase, call, found, here, leaves, ?_⟩
  have most := call.toSend_le
  have nothing : phase ≠ .closing → call.toSend = 0 := toSend_of_errand errand
  cases phase <;> first | contradiction | (simp [ProducerPhase.toGo] at nothing ⊢; omega)

/-- Every step of its own takes a producer further on its way out. -/
theorem toGo_of_engages {call : Call α} (engages : Engages kind old act new)
    (leaves : old.isLeaving = true) (errand : call.outline.errand = new.errand) :
    new = .ended ∨ (new.isLeaving = true ∧ new.toGo + call.toSend < old.toGo) := by
  have most := call.toSend_le
  have nothing : new ≠ .closing → call.toSend = 0 := toSend_of_errand errand
  cases engages with
  | marks => exact .inl rfl
  | reports outcome =>
    right
    cases outcome with
    | none => simp [afterReport, ProducerPhase.isLeaving, ProducerPhase.toGo] at nothing ⊢; omega
    | some halt =>
      cases halt <;>
        simp [afterReport, ProducerPhase.isLeaving, ProducerPhase.toGo] at nothing ⊢ <;> omega
  | records error first =>
    right
    cases first <;> simp [ProducerPhase.isLeaving, ProducerPhase.toGo] at nothing ⊢ <;> omega
  | closes | closed | signals =>
    right
    simp [ProducerPhase.isLeaving, ProducerPhase.toGo] at nothing ⊢
    omega
  | inserts | measures | panics | accepted | refused => contradiction

/-- Whatever happens to the queue, a call that closes it gets no more to send. -/
theorem toSend_of_used {shared after : SharedQueue α} {call later : Call α}
    (used : shared.Used after) (found : shared.calls[index]? = some call)
    (closing : call.outline = .closing) (there : after.calls[index]? = some later)
    (still : later.outline = .closing) : later.toSend ≤ call.toSend := by
  cases used with
  | untouched queue calls =>
    rw [calls, found] at there
    cases there
    exact le_rfl
  | stepped event middle moved queue calls =>
    rw [calls] at there
    exact SharedQueue.toSend_of_step found closing moved there still
  | joined queue calls =>
    rw [calls, List.getElem?_append_left (List.getElem?_eq_some_iff.mp found).1, found] at there
    cases there
    exact le_rfl

/-- Inside the queue, a producer on its way out does nothing but notify. -/
theorem sends_of_isOf {call later : Call α} (own : event.isOf index = true)
    (others : ∀ act, event ≠ .producer index act) (stepped : executor.step event = some next)
    (found : executor.shared.calls[index]? = some call)
    (errand : call.outline.errand = phase.errand) (leaves : phase.isLeaving = true)
    (there : next.shared.calls[index]? = some later) : later.toSend < call.toSend := by
  have idleOrClosing : call.outline = .idle ∨ call.outline = .closing := by
    cases outline : call.outline <;> rw [outline] at errand <;>
      first
        | exact .inl rfl
        | exact .inr rfl
        | (cases phase <;> contradiction)
  cases event with
  | enterQueue caller =>
    cases beq_iff_eq.mp own
    obtain ⟨shared, entered, rfl⟩ := shared_of_stepQueue stepped
    simp only [SharedQueue.step, SharedQueue.enter, found] at entered
    cases call <;> first | contradiction | (rcases idleOrClosing with same | same <;> cases same)
  | reportQueue caller =>
    cases beq_iff_eq.mp own
    obtain ⟨shared, reported, rfl⟩ := shared_of_stepQueue stepped
    simp only [SharedQueue.step, SharedQueue.report, found] at reported
    cases call <;> first | contradiction | (rcases idleOrClosing with same | same <;> cases same)
  | notifyQueue caller target =>
    cases beq_iff_eq.mp own
    obtain ⟨shared, notified, rfl⟩ := shared_of_stepQueue stepped
    rcases idleOrClosing with idle | closing
    · simp only [SharedQueue.step, SharedQueue.notify, found] at notified
      cases call <;> contradiction
    · exact SharedQueue.toSend_of_notify found closing notified there
  | producer other act =>
    cases beq_iff_eq.mp own
    exact absurd rfl (others act)
  | _ => contradiction

/-- Whoever takes a step, a producer on its way out comes no less close to its end, and closer by
a step of its own. -/
theorem Leaving.step {steps : Nat} (reached : Reached producers executor.snapshot history)
    (leaving : executor.Leaving index steps) (stepped : executor.step event = some next) :
    next.snapshot.phases[index]? = some .ended ∨
      ∃ fewer, next.Leaving index fewer ∧ fewer + (if event.isOf index then 1 else 0) ≤ steps := by
  obtain ⟨phase, call, found, here, leaves, bound⟩ := leaving
  have after : Reached producers next.snapshot _ := .move reached (move_of_step stepped)
  by_cases own : ∃ act, event = .producer index act
  · obtain ⟨act, rfl⟩ := own
    obtain ⟨worker, new, there, now, goes⟩ := onward_of_stepProducer stepped
    cases (phases_getElem? there).symm.trans found
    obtain ⟨later, calls, errand⟩ := call_of_phase after.agreement now
    rcases goes with turn | engages
    · rw [turn_of_isLeaving leaves] at turn
      contradiction
    · rcases toGo_of_engages engages leaves errand with rfl | ⟨leavesNow, closer⟩
      · exact .inl now
      · refine .inr ⟨_, ⟨new, later, now, calls, leavesNow, le_rfl⟩, ?_⟩
        simp only [Event.isOf, beq_self_eq_true, if_true]
        omega
  · right
    have others : ∀ act, event ≠ .producer index act := fun act mine => own ⟨act, mine⟩
    have alive : phase ≠ .unborn := by
      rintro rfl
      contradiction
    have now := (move_of_step stepped).phase reached.started others alive found
    obtain ⟨later, calls, errand⟩ := call_of_phase after.agreement now
    obtain ⟨same, before, errandBefore⟩ := call_of_phase reached.agreement found
    cases before.symm.trans here
    refine ⟨_, ⟨phase, later, now, calls, leaves, le_rfl⟩, ?_⟩
    split
    · rename_i mine
      have sent := sends_of_isOf mine others stepped here errandBefore leaves calls
      omega
    · have most : later.toSend ≤ call.toSend := by
        by_cases closing : phase = .closing
        · rw [closing] at errand errandBefore
          exact toSend_of_used (used_of_step stepped) here (closing_of_errand errandBefore) calls
            (closing_of_errand errand)
        · rw [toSend_of_errand errand closing]
          exact Nat.zero_le _
      omega

/-- A producer on its way out is never held up. -/
theorem Leaving.goesOn {steps : Nat} (agreement : executor.snapshot.Agreement)
    (leaving : executor.Leaving index steps) :
    ∃ event next, event.isOf index = true ∧ executor.step event = some next := by
  obtain ⟨phase, call, was, here, leaves, -⟩ := leaving
  obtain ⟨worker, found, phase⟩ := worker_of_phase was
  obtain ⟨same, there, errand⟩ := call_of_phase agreement was
  cases there.symm.trans here
  have own : ∀ event : Event ρ α β, event.isOf index = true →
      (executor.step event).isSome = true →
      ∃ event next, event.isOf index = true ∧ executor.step event = some next := by
    intro event mine possible
    obtain ⟨next, stepped⟩ := Option.isSome_iff_exists.mp possible
    exact ⟨event, next, mine, stepped⟩
  have acts : ∀ act : ProducerAct ρ α, (executor.stepProducer index act).isSome = true →
      ∃ event next, event.isOf index = true ∧ executor.step event = some next :=
    fun act possible => own (.producer index act) (by simp [Event.isOf]) possible
  subst phase
  cases phase : worker.phase with
  | unborn | hooking | sourcing | offering | transforming | inserting | ended =>
    rw [phase] at leaves
    contradiction
  | reporting outcome =>
    apply acts .report
    simp [stepProducer, found, turnProducer, phase, engageProducer]
  | failing error =>
    apply acts .recordFailure
    simp [stepProducer, found, turnProducer, phase, engageProducer]
  | alarmed =>
    rw [phase] at errand
    have idle := idle_of_nothing (SharedQueue.outlines_getElem? here) errand
    apply acts .closeQueue
    simp [stepProducer, found, turnProducer, phase, engageProducer, stepQueue,
      SharedQueue.step, idle]
  | closing =>
    rw [phase] at errand
    have closing := closing_of_errand errand
    cases call with
    | closedRoom | closedEntries =>
      apply own (.notifyQueue index none) (by simp [Event.isOf])
      simp [Executor.step, stepQueue, SharedQueue.step, SharedQueue.notify, here]
    | returned reply =>
      apply acts .closed
      simp [stepProducer, found, turnProducer, phase, engageProducer, takeReply,
        SharedQueue.reply?, stepQueue, SharedQueue.step, here]
    | _ => contradiction
  | signalling =>
    apply acts .signal
    simp [stepProducer, found, turnProducer, phase, engageProducer]
  | marking =>
    apply acts .markDone
    simp [stepProducer, found, turnProducer, phase, engageProducer, stepQueue, SharedQueue.step]

/-- Whatever happens from now on, the producer ends after so many steps of its own at most, and
is never held up before. -/
def Departs (executor : Executor ρ α β) (index steps : Nat) : Prop :=
  ∀ rest final, executor.run rest = some final →
    final.snapshot.phases[index]? = some .ended ∨
      (rest.countP (Event.isOf index) < steps ∧
        ∃ event next, event.isOf index = true ∧ final.step event = some next)

theorem ended_of_run (reached : Reached producers executor.snapshot history)
    (ran : executor.run events = some final)
    (ended : executor.snapshot.phases[index]? = some .ended) :
    final.snapshot.phases[index]? = some .ended := by
  obtain ⟨new, there, far⟩ := progress_of_run reached ran ended
  have same : new = .ended := by
    cases new <;> first | rfl | simp [ProducerPhase.progress] at far
  rwa [same] at there

theorem Leaving.departs {steps : Nat} (reached : Reached producers executor.snapshot history)
    (leaving : executor.Leaving index steps) : executor.Departs index steps := by
  intro rest final ran
  induction rest generalizing executor history steps with
  | nil =>
    cases ran
    refine .inr ⟨?_, leaving.goesOn reached.agreement⟩
    obtain ⟨phase, call, -, -, leaves, bound⟩ := leaving
    rw [List.countP_nil]
    cases phase <;> first | contradiction | (simp only [ProducerPhase.toGo] at bound; omega)
  | cons event rest ih =>
    obtain ⟨middle, stepped, ran⟩ := Option.bind_eq_some_iff.mp ran
    have after : Reached producers middle.snapshot _ := .move reached (move_of_step stepped)
    rcases leaving.step reached stepped with ended | ⟨fewer, leaves, closer⟩
    · exact .inl (ended_of_run after ran ended)
    · refine (ih after leaves ran).imp_right fun ⟨few, goesOn⟩ => ⟨?_, goesOn⟩
      rw [List.countP_cons]
      omega

/-- A producer whose production is over departs. -/
theorem departs_of_phase (reached : Reached producers executor.snapshot history)
    (found : executor.snapshot.phases[index]? = some phase) (far : 3 ≤ phase.progress) :
    executor.Departs index 8 := by
  rcases ProducerPhase.leaving_or_ended far with leaves | rfl
  · exact (leaving_of_phase reached.agreement found leaves).departs reached
  · intro rest final ran
    exact .inl (ended_of_run reached ran found)

end Executor

end BoundedIngest

/-
Module: BoundedIngest.Proofs.Executor.Blame
Purpose: Whose callback the failure in the slot comes from, as long as nobody shuts down.
Main exports:
  Executor.Event.failure?, ProducerPhase.error?, Snapshot.Unforced, Snapshot.Blamed,
  Executor.blamed_of_run
-/
import BoundedIngest.Proofs.Executor.Swallowing

namespace BoundedIngest

/-!
A worker fails because one of its own callbacks has, with one exception: the consumer also
fails when it finds the queue closed.  If nobody shuts down, a queue is closed only by a
worker that has set the failure slot before, so this failure of the consumer always comes too
late for the slot.
-/

variable {ρ α β : Type}

namespace Executor

/-- The failure with which a callback of a producer ends. -/
def ProducerAct.failure? : ProducerAct ρ α → Option WorkerError
  | .hookPanicked panic => some (.ofPanic .preExecute panic)
  | .sourceFailed reason => some (.source reason)
  | .sourceHalted (.failed error) => some error
  | .sourcePanicked panic | .measuringPanicked panic => some (.ofPanic .produce panic)
  | .transformFailed reason => some (.transform reason)
  | .transformPanicked panic => some (.ofPanic .transform panic)
  | _ => none

/-- The failure with which a callback of the consumer ends. -/
def ConsumerAct.failure? : ConsumerAct β → Option WorkerError
  | .hookPanicked panic => some (.ofPanic .preExecute panic)
  | .consumeFailed reason => some (.consume reason)
  | .finishFailed reason => some (.finish reason)
  | .consumePanicked panic | .finishPanicked panic | .concludePanicked panic =>
      some (.ofPanic .consume panic)
  | _ => none

/-- The failure with which a callback ends, and whose callback it is. -/
def Event.failure? : Event ρ α β → Option CapturedFailure
  | .producer index act => act.failure?.map fun error => { role := .producer index, error }
  | .consumer act => act.failure?.map fun error => { role := .consumer, error }
  | _ => none

/-- No callback of the consumer ends with what the consumer makes of a closed queue. -/
theorem ConsumerAct.failure?_ne (act : ConsumerAct β) : act.failure? ≠ some .interrupted := by
  cases act <;> simp [ConsumerAct.failure?, WorkerError.ofPanic_eq]

theorem Event.failure?_ne (event : Event ρ α β) :
    event.failure? ≠ some { role := .consumer, error := .interrupted } := by
  intro failed
  cases event with
  | producer index act =>
    obtain ⟨error, -, same⟩ := Option.map_eq_some_iff.mp failed
    cases congrArg CapturedFailure.role same
  | consumer act =>
    obtain ⟨error, ends, same⟩ := Option.map_eq_some_iff.mp failed
    cases same
    exact act.failure?_ne ends
  | _ => contradiction

end Executor

/-- The failure that a producer is about to record. -/
def ProducerPhase.error? : ProducerPhase ρ → Option WorkerError
  | .reporting (some (.failed error)) | .failing error => some error
  | _ => none

/-! ### Where the failures of producers come from -/

namespace Executor

variable {executor next : Executor ρ α β} {index : Nat} {worker : ProducerWorker ρ}
  {act : ProducerAct ρ α} {phase : ProducerPhase ρ} {error : WorkerError}

theorem halt_of_answered {kind : SourceKind} {halt : Option Halt}
    (errs : (answered kind halt : ProducerPhase ρ).error? = some error) :
    halt = some (.failed error) := by
  cases halt with
  | none => contradiction
  | some halt =>
    cases kind <;> cases halt <;> first | contradiction | (cases errs; rfl)

/-- A producer turns to a failure only where one of its callbacks fails. -/
theorem failure_of_turn (turn : turnProducer worker act = some phase)
    (errs : phase.error? = some error) : act.failure? = some error := by
  unfold turnProducer at turn
  split at turn
  case h_1 | h_3 | h_4 =>
    cases turn
    contradiction
  case h_2 | h_7 =>
    cases turn
    exact errs
  case h_5 =>
    split at turn
    · contradiction
    · cases turn
      exact errs
  case h_6 halt _ =>
    split at turn
    · cases turn
      cases halt with
      | cancelled => contradiction
      | failed error => exact errs
    · contradiction
  case h_8 =>
    split at turn
    · cases turn
      cases halt_of_answered errs
    · cases turn
      contradiction
  case h_9 | h_10 =>
    cases turn
    cases halt_of_answered errs
    rfl
  case h_11 => contradiction

theorem error_of_afterReport {outcome : Option Halt}
    (errs : (afterReport outcome : ProducerPhase ρ).error? = some error) :
    outcome = some (.failed error) := by
  cases outcome with
  | none => contradiction
  | some halt =>
    cases halt with
    | cancelled => contradiction
    | failed other =>
      cases errs
      rfl

/-- A producer that uses the queue or the slot takes its failure along. -/
theorem failure_of_engages {kind : SourceKind} {old new : ProducerPhase ρ}
    (engages : Engages kind old act new) (errs : new.error? = some error) :
    act.failure? = some error ∨ old.error? = some error := by
  cases engages with
  | panics panic => exact .inl errs
  | accepted | refused => cases halt_of_answered errs
  | reports outcome =>
    right
    rw [error_of_afterReport errs]
    rfl
  | records failed first => split at errs <;> contradiction
  | inserts | measures | closes | closed | signals | marks => contradiction

/-- The failure that a producer is about to record after a step of its own is one of its
callback's, or it was about to record it before. -/
theorem failure_of_stepProducer (stepped : executor.stepProducer index act = some next)
    (there : next.snapshot.phases[index]? = some phase) (errs : phase.error? = some error) :
    act.failure? = some error ∨
      ∃ old, executor.snapshot.phases[index]? = some old ∧ old.error? = some error := by
  obtain ⟨worker, new, found, here, goes⟩ := onward_of_stepProducer stepped
  cases here.symm.trans there
  rcases goes with turn | engages
  · exact .inl (failure_of_turn turn errs)
  · exact (failure_of_engages engages errs).imp_right fun before =>
      ⟨worker.phase, phases_getElem? found, before⟩

/-- A call that spawns a producer does not make it fail. -/
theorem phases_of_spawn {first : Nat} (spawned : executor.spawn first = some next)
    (there : next.snapshot.phases[index]? = some phase) (errs : phase.error? = some error) :
    executor.snapshot.phases[index]? = some phase := by
  unfold spawn at spawned
  split at spawned
  · cases spawned
    rw [snapshot_setProducerPhase] at there
    by_cases same : first = index
    · subst same
      have inside : first < executor.snapshot.phases.length := by
        have bound := (List.getElem?_eq_some_iff.mp there).1
        simpa [Snapshot.setPhase] using bound
      cases (List.getElem?_set_self inside).symm.trans there
      split at errs <;> contradiction
    · exact (List.getElem?_set_ne same).symm.trans there
  · split at spawned
    · cases spawned
      exact there
    · obtain ⟨-, same⟩ := snapshot_beginPull spawned
      rw [same] at there
      exact there

/-- Whoever takes a step, a producer comes to record only what one of its callbacks ended
with. -/
theorem failure_of_step {event : Event ρ α β} (stepped : executor.step event = some next)
    (there : next.snapshot.phases[index]? = some phase) (errs : phase.error? = some error) :
    event.failure? = some { role := .producer index, error } ∨
      ∃ old, executor.snapshot.phases[index]? = some old ∧ old.error? = some error := by
  have move := move_of_step stepped
  generalize seen : next.snapshot = after at move
  rw [seen] at there
  have stays : after.phases = executor.snapshot.phases →
      ∃ old, executor.snapshot.phases[index]? = some old ∧ old.error? = some error := by
    intro same
    rw [same] at there
    exact ⟨phase, there, errs⟩
  cases move with
  | queue move => exact .inr (stays move.frame.phases)
  | producer move =>
    rename_i other act
    by_cases mine : other = index
    · subst mine
      rw [← seen] at there
      refine (failure_of_stepProducer stepped there errs).imp_left fun ends => ?_
      simp only [Event.failure?, ends, Option.map_some]
    · obtain ⟨old, new, -, -, -, phases⟩ := move.frame.phases
      rw [phases, List.getElem?_set_ne mine] at there
      exact .inr ⟨phase, there, errs⟩
  | consumer move => exact .inr (stays move.frame.phases)
  | caller move =>
    cases move with
    | spawnsProducer first new was inside born =>
      rename_i call act
      rw [← seen] at there
      have found : executor.executes[call]? = some (.spawning first) := was
      simp only [step, stepExecute, found] at stepped
      split at stepped
      case h_6 same =>
        cases same
        split at stepped
        · cases stepped
          exact .inr ⟨phase, there, errs⟩
        split at stepped
        · cases stepped
          exact .inr ⟨phase, there, errs⟩
        · obtain ⟨middle, spawned, rfl⟩ := Option.map_eq_some_iff.mp stepped
          exact .inr ⟨phase, phases_of_spawn spawned there errs, errs⟩
      all_goals simp_all
    | takesParts | spawnsHook | spawnsPull | receives | withdraws | proceeds =>
      exact .inr (stays rfl)
  | user mine move => exact .inr (stays move.frame.phases)
  | still others => exact .inr (stays rfl)

end Executor

/-! ### Who closes the queue -/

namespace Snapshot

/-- Nobody shuts down, the queue is closed only after a failure was recorded, and whoever
takes it to be closed is right. -/
structure Unforced (snapshot : Snapshot ρ α β) : Prop where
  shutdowns : snapshot.shutdowns = []
  closed : snapshot.closed = true → snapshot.failure ≠ none
  ended : ∀ (caller : Nat) (status : QueueStatus),
    snapshot.outlines[caller]? = some (.ended status) → status = .done ∨ snapshot.closed = true
  drained : ∀ status, snapshot.consumer = .drained status →
    status = .done ∨ snapshot.closed = true

variable {snapshot next : Snapshot ρ α β} {history : History ρ α β}
  {event : Executor.Event ρ α β}

namespace Unforced

/-- A step that closes the queue at most after a failure, and in which at most a call finds
out how it stands, or the consumer takes over what its call has found. -/
theorem keeps (unforced : snapshot.Unforced) (move : Move snapshot event next)
    (shutdowns : next.shutdowns = snapshot.shutdowns)
    (closed : next.closed = true → snapshot.closed = true ∨ snapshot.failure ≠ none)
    (ended : ∀ (caller : Nat) (status : QueueStatus),
      next.outlines[caller]? = some (.ended status) →
      snapshot.outlines[caller]? = some (.ended status) ∨ status = .done ∨
        snapshot.closed = true)
    (drained : ∀ status, next.consumer = .drained status → snapshot.consumer = .drained status ∨
      ∃ caller : Nat, snapshot.outlines[caller]? = some (.ended status)) : next.Unforced := by
  constructor
  · exact shutdowns.trans unforced.shutdowns
  · intro shut
    rcases closed shut with before | failed
    · exact move.failed (unforced.closed before)
    · exact move.failed failed
  · intro caller status found
    rcases ended caller status found with before | done | shut
    · exact (unforced.ended caller status before).imp_right move.closed
    · exact .inl done
    · exact .inr (move.closed shut)
  · intro status found
    rcases drained status found with before | ⟨caller, before⟩
    · exact (unforced.drained status before).imp_right move.closed
    · exact (unforced.ended caller status before).imp_right move.closed

theorem queue {caller : Nat} (unforced : snapshot.Unforced) (whole : Move snapshot event next)
    (move : QueueMove snapshot caller next) : next.Unforced := by
  have frame := move.frame
  refine unforced.keeps whole frame.shutdowns (fun shut => .inl ?_) (fun index status found => ?_)
    fun status found => .inl ?_
  · rwa [frame.closed] at shut
  · cases move with
    | refused entry was reason => exact .inl (ended_of_set (by simp) rfl found)
    | pushed entry was stillOpen => exact .inl (ended_of_set (by simp) rfl found)
    | taken entry rest was stillOpen front => exact .inl (ended_of_set (by simp) rfl found)
    | endedClosed was reason => exact .inr (.inr reason)
    | endedDone was reason =>
      by_cases done : status = .done
      · exact .inr (.inl done)
      · exact .inl (ended_of_set (by simp [Ne.symm done]) rfl found)
  · rwa [frame.consumer] at found

theorem producer {index : Nat} (unforced : snapshot.Unforced) (alarm : snapshot.Alarm history)
    (whole : Move snapshot event next) (move : ProducerMove snapshot index next) :
    next.Unforced := by
  have frame := move.frame
  refine unforced.keeps whole frame.shutdowns (fun shut => ?_) (fun caller status found => .inl ?_)
    fun status found => .inl ?_
  · cases move with
    | closes was free => exact .inr (alarm.failure_of_alarmed_producer was rfl)
    | turned | inserts | measuringFailed | accepted | declined | reported | recorded | discarded
    | closed | signalled | marked => exact .inl shut
  · rcases frame.outlines with same | ⟨outline, other, set⟩
    · rwa [same] at found
    · exact ended_of_set (other status) set found
  · rwa [frame.consumer] at found

theorem consumer {act : Executor.ConsumerAct β} (unforced : snapshot.Unforced)
    (alarm : snapshot.Alarm history) (whole : Move snapshot event next)
    (move : ConsumerMove snapshot act next) : next.Unforced := by
  refine unforced.keeps whole move.frame.shutdowns (fun shut => ?_)
    (fun caller status found => .inl ?_) fun status found => ?_
  · cases move with
    | closes was free => exact .inr (alarm.failure_of_alarmed (by rw [was]; rfl))
    | turned | starts | goesOn | receives | drains | reports | delivers | recorded | discarded
    | closed | signalled => exact .inl shut
  · cases move with
    | starts | goesOn | receives | drains | closes | closed =>
      exact ended_of_set (by simp) rfl found
    | turned | reports | delivers | recorded | discarded | signalled => exact found
  · cases move with
    | turned act new turn =>
      rcases Executor.cases_of_turn turn with ⟨error, rfl⟩ | ⟨-, -, rfl⟩ | ⟨result, -, -, rfl⟩ <;>
        contradiction
    | drains status was call =>
      cases found
      exact .inr ⟨_, call⟩
    | reports reported was =>
      have turned : Executor.afterDrained reported = .drained status := found
      unfold Executor.afterDrained at turned
      split at turned <;> contradiction
    | starts | goesOn | receives | delivers | recorded | discarded | closes | closed
    | signalled => contradiction

/-- A call goes on that was not refused a worker. -/
theorem caller {call : Nat} (unforced : snapshot.Unforced)
    (steady : ∀ phase ∈ snapshot.executes, phase.isRetreating = false)
    (whole : Move snapshot event next) (move : CallerMove snapshot call next) :
    next.Unforced := by
  have frame := move.frame
  have unrefused : ∀ {reason : String} {goal : Prop},
      snapshot.executes[call]? = some (.retreating reason) → goal := by
    intro reason goal was
    have still := steady _ (List.mem_of_getElem? was)
    contradiction
  have shutdowns : next.shutdowns = snapshot.shutdowns := by
    cases move with
    | withdraws reason was => exact unrefused was
    | takesParts | spawnsProducer | spawnsHook | spawnsPull | receives | proceeds => rfl
  refine unforced.keeps whole shutdowns (fun shut => .inl ?_)
    (fun index status found => .inl ?_) fun status found => .inl ?_
  · rwa [frame.closed] at shut
  · cases move with
    | spawnsPull worker was last free => exact ended_of_set (by simp) rfl found
    | withdraws reason was => exact unrefused was
    | takesParts | spawnsProducer | spawnsHook | receives | proceeds => exact found
  · rcases frame.consumer with same | ⟨-, born | born⟩
    · rwa [same] at found
    · rw [born] at found
      contradiction
    · rw [born] at found
      contradiction

end Unforced

theorem unforced_start (producers : Nat) : (start producers : Snapshot ρ α β).Unforced := by
  constructor
  · rfl
  · simp [start]
  · intro caller status found
    have idle := (List.mem_replicate.mp (List.mem_of_getElem? found)).2
    contradiction
  · simp [start]

/-! ### Who is to blame -/

/-- Every failure that was recorded, or is about to be, is among those given, but that the
consumer may be about to record one too late. -/
structure Blamed (snapshot : Snapshot ρ α β) (failures : List CapturedFailure) : Prop where
  captured : ∀ failure, snapshot.failure = some failure → failure ∈ failures
  producers : ∀ index phase error, snapshot.phases[index]? = some phase →
    phase.error? = some error → { role := .producer index, error } ∈ failures
  consumer : ∀ error, snapshot.consumer = .failing error →
    { role := .consumer, error } ∈ failures ∨ snapshot.failure ≠ none

/-- Whoever sets the slot was about to fail. -/
theorem failing_of_move {failure : CapturedFailure} (move : Move snapshot event next)
    (captured : next.failure = some failure) :
    snapshot.failure = some failure ∨
      (∃ index error, snapshot.phases[index]? = some (.failing error) ∧
        failure = { role := .producer index, error }) ∨
      (snapshot.failure = none ∧ ∃ error, snapshot.consumer = .failing error ∧
        failure = { role := .consumer, error }) := by
  cases move with
  | queue move => exact .inl (move.frame.failure.symm.trans captured)
  | producer move =>
    cases move with
    | recorded error was first =>
      cases captured
      exact .inr (.inl ⟨_, error, was, rfl⟩)
    | turned | inserts | measuringFailed | accepted | declined | reported | discarded | closes
    | closed | signalled | marked => exact .inl captured
  | consumer move =>
    cases move with
    | recorded error was first =>
      cases captured
      exact .inr (.inr ⟨first, error, was, rfl⟩)
    | turned | starts | goesOn | receives | drains | reports | delivers | discarded | closes
    | closed | signalled => exact .inl captured
  | caller move => exact .inl (move.frame.failure.symm.trans captured)
  | user mine move => exact .inl (move.frame.failure.symm.trans captured)
  | still others => exact .inl captured

/-- The consumer comes to record what one of its callbacks ended with, or has found the queue
closed. -/
theorem consumer_of_move {error : WorkerError} (move : Move snapshot event next)
    (unforced : snapshot.Unforced) (failing : next.consumer = .failing error) :
    snapshot.consumer = .failing error ∨
      event.failure? = some { role := .consumer, error } ∨ snapshot.failure ≠ none := by
  cases move with
  | queue move => exact .inl (move.frame.consumer.symm.trans failing)
  | producer move => exact .inl (move.frame.consumer.symm.trans failing)
  | consumer move =>
    cases move with
    | turned act new turn =>
      have same : new = .failing error := failing
      subst same
      refine .inr (.inl ?_)
      unfold Executor.turnConsumer at turn
      split at turn <;> cases turn <;> rfl
    | reports status was =>
      refine .inr (.inr (unforced.closed ((unforced.drained status was).resolve_left ?_)))
      rintro rfl
      contradiction
    | starts | goesOn | receives | drains | delivers | recorded | discarded | closes | closed
    | signalled => contradiction
  | caller move =>
    rcases move.frame.consumer with same | ⟨-, born | born⟩
    · exact .inl (same.symm.trans failing)
    · rw [born] at failing
      contradiction
    · rw [born] at failing
      contradiction
  | user mine move => exact .inl (move.frame.consumer.symm.trans failing)
  | still others => exact .inl failing

theorem blamed_start (producers : Nat) : (start producers : Snapshot ρ α β).Blamed [] := by
  constructor
  · simp [start]
  · intro index phase error found errs
    cases (List.mem_replicate.mp (List.mem_of_getElem? found)).2
    contradiction
  · simp [start]

end Snapshot

namespace Executor

variable {executor next final : Executor ρ α β} {event : Event ρ α β}

/-- A step of anybody but a shutdown, if the system starts every worker. -/
theorem unforced_of_step {history : History ρ α β} (willing : executor.Willing)
    (unforced : executor.snapshot.Unforced) (alarm : executor.snapshot.Alarm history)
    (stepped : executor.step event = some next) (aside : event ≠ .shutdown) : next.snapshot.Unforced := by
  have move := move_of_step stepped
  generalize seen : next.snapshot = after at move
  have whole := move
  cases move with
  | queue move => exact unforced.queue whole move
  | producer move => exact unforced.producer alarm whole move
  | consumer move => exact unforced.consumer alarm whole move
  | caller move => exact unforced.caller willing.steady whole move
  | user mine move =>
    rcases mine with rfl | rfl | ⟨call, rfl⟩
    · cases stepped
      rw [← seen]
      exact ⟨unforced.shutdowns, unforced.closed, unforced.ended, unforced.drained⟩
    · exact absurd rfl aside
    · have nobody : executor.shutdowns = [] := unforced.shutdowns
      simp [step, stepShutdown, nobody] at stepped
  | still others => exact unforced

theorem blamed_of_step {failures : List CapturedFailure}
    (blamed : executor.snapshot.Blamed failures) (unforced : executor.snapshot.Unforced)
    (stepped : executor.step event = some next) :
    next.snapshot.Blamed (failures ++ event.failure?.toList) := by
  have move := move_of_step stepped
  have before : ∀ {failure}, failure ∈ failures → failure ∈ failures ++ event.failure?.toList :=
    fun found => List.mem_append_left _ found
  have now : ∀ {failure}, event.failure? = some failure →
      failure ∈ failures ++ event.failure?.toList := by
    intro failure ends
    rw [ends]
    exact List.mem_append_right _ (List.mem_singleton.mpr rfl)
  constructor
  · intro failure captured
    rcases Snapshot.failing_of_move move captured with
      old | ⟨index, error, was, rfl⟩ | ⟨first, error, was, rfl⟩
    · exact before (blamed.captured failure old)
    · exact before (blamed.producers index _ error was rfl)
    · exact before ((blamed.consumer error was).resolve_right fun late => late first)
  · intro index phase error there errs
    rcases failure_of_step stepped there errs with ends | ⟨old, was, errsBefore⟩
    · exact now ends
    · exact before (blamed.producers index old error was errsBefore)
  · intro error failing
    rcases Snapshot.consumer_of_move move unforced failing with was | ends | failed
    · exact (blamed.consumer error was).imp before move.failed
    · exact .inl (now ends)
    · exact .inr (move.failed failed)

/-- As long as nobody shuts down and the system starts every worker, by induction on the steps. -/
theorem blamed_of_steps {producers : Nat} {history : History ρ α β}
    {failures : List CapturedFailure} {events : List (Event ρ α β)}
    (willing : executor.Willing) (reached : Reached producers executor.snapshot history)
    (unforced : executor.snapshot.Unforced) (blamed : executor.snapshot.Blamed failures)
    (ran : executor.run events = some final) (aside : .shutdown ∉ events) :
    final.snapshot.Unforced ∧
      final.snapshot.Blamed (failures ++ events.filterMap Event.failure?) := by
  induction events generalizing executor history failures with
  | nil =>
    cases ran
    rw [List.filterMap_nil, List.append_nil]
    exact ⟨unforced, blamed⟩
  | cons event rest ih =>
    obtain ⟨middle, stepped, ran⟩ := Option.bind_eq_some_iff.mp ran
    obtain ⟨first, later⟩ := not_or.mp fun found => aside (List.mem_cons.mpr found)
    have split : failures ++ (event :: rest).filterMap Event.failure? =
        failures ++ event.failure?.toList ++ rest.filterMap Event.failure? := by
      rw [List.append_assoc, List.filterMap_cons]
      cases event.failure? <;> rfl
    rw [split]
    exact ih (willing.step stepped) (.move reached (move_of_step stepped))
      (unforced_of_step willing unforced reached.alarm stepped (Ne.symm first))
      (blamed_of_step blamed unforced stepped) ran later

/-- In every run without a shutdown, what was recorded is what a callback ended with. -/
theorem blamed_of_run {config : ExecutorConfig} {hooked : Bool} {kinds : List SourceKind}
    {events : List (Event ρ α β)} (ran : (create config hooked kinds).run events = some final)
    (aside : .shutdown ∉ events) :
    final.snapshot.Blamed (events.filterMap Event.failure?) := by
  have reached : Reached kinds.length (create config hooked kinds : Executor ρ α β).snapshot {} :=
    Chronicle.reached_start config hooked kinds
  have start : (create config hooked kinds : Executor ρ α β).snapshot = .start kinds.length :=
    snapshot_create config hooked kinds
  exact (blamed_of_steps (willing_create config hooked kinds) reached
    (start ▸ Snapshot.unforced_start _) (start ▸ Snapshot.blamed_start _) ran aside).2

end Executor

end BoundedIngest

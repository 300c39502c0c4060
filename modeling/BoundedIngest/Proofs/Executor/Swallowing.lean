/-
Module: BoundedIngest.Proofs.Executor.Swallowing
Purpose: What becomes of a failure of the transform on its way through the source.
Main exports:
  Snapshot.Fated, Chronicle.fated_of_run, Chronicle.transform_failure_recorded,
  Chronicle.transform_failure_swallowed
-/
import BoundedIngest.Proofs.Executor.Interruption
import BoundedIngest.Proofs.Executor.Lifetimes
import BoundedIngest.Proofs.Executor.Producing

namespace BoundedIngest

/-!
A failure of the transform is not recorded where it happens.  It is the sink's answer to
the source, and only what the source makes of it is looked at.  An iterator is given no
choice: it is not pulled again, and the answer is how its production ends.  A procedure may
push on, wrap the answer or panic, and all this still ends in a failure; but if it returns
as though nothing had happened, or as though it had been cancelled, the failure is gone.
-/

variable {ρ α β : Type}

namespace Executor

/-- The transform gives up on a record. -/
def ProducerAct.isTransformFailure : ProducerAct ρ α → Bool
  | .transformFailed _ | .transformPanicked _ => true
  | _ => false

/-- A procedure returns as though nothing had failed. -/
def ProducerAct.swallows : ProducerAct ρ α → Bool
  | .sourceEnded | .sourceHalted .cancelled => true
  | _ => false

end Executor

/-- A producer in such a phase will record a failure unless its source swallows it: the
failure is on its way to the slot, or a procedure runs that was told of it. -/
def ProducerPhase.isFated (kind : SourceKind) : ProducerPhase ρ → Bool
  | .reporting (some (.failed _)) | .failing _ => true
  | .sourcing _ | .offering _ | .transforming _ | .inserting => kind = .pushing
  | _ => false

/-- Some failure was recorded, or the producer is going to record one. -/
def Snapshot.Fated (kinds : List SourceKind) (snapshot : Snapshot ρ α β) (index : Nat) : Prop :=
  snapshot.failure ≠ none ∨ ∃ kind phase, kinds[index]? = some kind ∧
    snapshot.phases[index]? = some phase ∧ phase.isFated kind = true

/-- The first failure stays. -/
theorem Move.failure {snapshot next : Snapshot ρ α β} {event : Executor.Event ρ α β}
    {failure : CapturedFailure} (move : Move snapshot event next)
    (captured : snapshot.failure = some failure) : next.failure = some failure := by
  cases move with
  | queue move => exact move.frame.failure.trans captured
  | producer move =>
    cases move with
    | recorded error was first =>
      rw [first] at captured
      contradiction
    | turned | inserts | measuringFailed | accepted | declined | reported | discarded | closes
    | closed | signalled | marked => exact captured
  | consumer move =>
    cases move with
    | recorded error was first =>
      rw [first] at captured
      contradiction
    | turned | starts | goesOn | receives | drains | reports | delivers | discarded | closes
    | closed | signalled => exact captured
  | caller move => exact move.frame.failure.trans captured
  | user mine move => exact move.frame.failure.trans captured
  | still others => exact captured

theorem Move.failed {snapshot next : Snapshot ρ α β} {event : Executor.Event ρ α β}
    (move : Move snapshot event next) (failed : snapshot.failure ≠ none) :
    next.failure ≠ none := by
  obtain ⟨failure, captured⟩ := Option.ne_none_iff_exists'.mp failed
  simp [move.failure captured]

/-- Nobody but the producer itself and the call that spawns it moves a producer. -/
theorem Move.phase {snapshot next : Snapshot ρ α β} {event : Executor.Event ρ α β} {index : Nat}
    {phase : ProducerPhase ρ} (move : Move snapshot event next) (started : snapshot.Started)
    (others : ∀ act, event ≠ .producer index act) (alive : phase ≠ .unborn)
    (was : snapshot.phases[index]? = some phase) : next.phases[index]? = some phase := by
  cases move with
  | queue move => rwa [move.frame.phases]
  | producer move =>
    rename_i other act
    obtain ⟨old, new, -, -, -, phases⟩ := move.frame.phases
    have apart : other ≠ index := by
      rintro rfl
      exact others act rfl
    rwa [phases, List.getElem?_set_ne apart]
  | consumer move => rwa [move.frame.phases]
  | caller move =>
    cases move with
    | spawnsProducer first new before inside born =>
      have unborn := (started.frontier _ (List.mem_of_getElem? before) first rfl).2
      have apart : first ≠ index := by
        rintro rfl
        exact alive (unborn first phase (Nat.le_refl _) was)
      exact (List.getElem?_set_ne apart).trans was
    | takesParts | spawnsHook | spawnsPull | receives | withdraws | proceeds => exact was
  | user mine move => rwa [move.frame.phases]
  | still others => exact was

namespace Executor

variable {executor next : Executor ρ α β} {index : Nat} {worker : ProducerWorker ρ}
  {act : ProducerAct ρ α}

/-! ### A step of the producer itself -/

theorem alive_of_isFated {kind : SourceKind} {phase : ProducerPhase ρ}
    (fated : phase.isFated kind = true) : phase ≠ .unborn ∧ phase ≠ .ended := by
  constructor
  · rintro rfl
    contradiction
  · rintro rfl
    contradiction

/-- The answer to a record that failed ends the production, or a procedure runs on. -/
theorem isFated_answered (kind : SourceKind) (error : WorkerError) :
    (answered kind (some (.failed error)) : ProducerPhase ρ).isFated kind = true := by
  cases kind <;> rfl

/-- A procedure runs on whatever it is answered. -/
theorem isFated_answered_pushing (halt : Option Halt) :
    (answered .pushing halt : ProducerPhase ρ).isFated .pushing = true := by
  cases halt <;> rfl

/-- A turn of a fated producer leads on towards the failure, unless its source swallows
it. -/
theorem isFated_of_turn {phase : ProducerPhase ρ}
    (fated : worker.phase.isFated worker.kind = true)
    (kept : worker.kind = .pushing → act.swallows = false)
    (turn : turnProducer worker act = some phase) : phase.isFated worker.kind = true := by
  have pushing : ∀ {old : ProducerPhase ρ}, worker.phase = old →
      old.isFated worker.kind = decide (worker.kind = .pushing) → worker.kind = .pushing := by
    intro old was fate
    rw [was, fate] at fated
    exact of_decide_eq_true fated
  unfold turnProducer at turn
  split at turn
  all_goals rename_i before
  case h_1 | h_2 =>
    rw [before] at fated
    contradiction
  case h_3 =>
    cases turn
    rw [pushing before rfl]
    rfl
  case h_4 => exact absurd (kept (pushing before rfl)) (by simp [ProducerAct.swallows])
  case h_5 =>
    split at turn
    · contradiction
    · cases turn
      rfl
  case h_6 halt =>
    split at turn
    · rename_i kind
      cases turn
      cases halt with
      | cancelled => exact absurd (kept kind) (by simp [ProducerAct.swallows])
      | failed error => rfl
    · contradiction
  case h_7 =>
    cases turn
    rfl
  case h_8 =>
    cases turn
    rw [pushing before rfl]
    split
    · exact isFated_answered_pushing _
    · rfl
  case h_9 | h_10 =>
    cases turn
    exact isFated_answered _ _
  case h_11 => contradiction

/-- So does every other step of the producer, unless it records a failure. -/
theorem isFated_of_engages {kind : SourceKind} {old new : ProducerPhase ρ}
    (engages : Engages kind old act new) (fated : old.isFated kind = true)
    (unrecorded : act ≠ .recordFailure) : new.isFated kind = true := by
  cases engages with
  | inserts | measures => exact fated
  | panics panic => rfl
  | accepted | refused =>
    cases of_decide_eq_true fated
    rfl
  | reports outcome =>
    rcases outcome with - | - | error
    · contradiction
    · contradiction
    · rfl
  | records => exact absurd rfl unrecorded
  | closes | closed | signals | marks => contradiction

/-- A producer that is fated stays so until a failure is recorded. -/
theorem fated_of_stepProducer (found : executor.producers[index]? = some worker)
    (fated : worker.phase.isFated worker.kind = true)
    (kept : worker.kind = .pushing → act.swallows = false)
    (stepped : executor.stepProducer index act = some next) :
    next.failure.captured ≠ none ∨ ∃ phase, next.snapshot.phases[index]? = some phase ∧
      phase.isFated worker.kind = true := by
  obtain ⟨same, phase, here, there, goes⟩ := onward_of_stepProducer stepped
  cases found.symm.trans here
  by_cases records : act = .recordFailure
  · subst records
    exact .inl (failed_of_recording_producer stepped)
  · refine .inr ⟨phase, there, ?_⟩
    rcases goes with turn | engages
    · exact isFated_of_turn fated kept turn
    · exact isFated_of_engages engages fated records

/-- A failure of the transform seals the fate of its producer. -/
theorem fated_of_transformFailure (fails : act.isTransformFailure = true)
    (stepped : executor.stepProducer index act = some next) :
    ∃ worker phase, executor.producers[index]? = some worker ∧
      next.snapshot.phases[index]? = some phase ∧ phase.isFated worker.kind = true := by
  obtain ⟨worker, phase, found, there, turn | engages⟩ := onward_of_stepProducer stepped
  · refine ⟨worker, phase, found, there, ?_⟩
    unfold turnProducer at turn
    split at turn
    case h_9 | h_10 =>
      cases turn
      exact isFated_answered _ _
    all_goals contradiction
  · generalize worker.phase = old at engages
    cases engages <;> contradiction

/-- What was recorded first stays recorded. -/
theorem captured_of_run {final : Executor ρ α β} {events : List (Event ρ α β)}
    {failure : CapturedFailure} (ran : executor.run events = some final)
    (captured : executor.failure.captured = some failure) :
    final.failure.captured = some failure := by
  induction events generalizing executor with
  | nil =>
    cases ran
    exact captured
  | cons event rest ih =>
    obtain ⟨middle, stepped, ran⟩ := Option.bind_eq_some_iff.mp ran
    exact ih ran ((move_of_step stepped).failure captured)

end Executor

namespace Snapshot

theorem Fated.recorded {kinds : List SourceKind} {snapshot : Snapshot ρ α β} {index : Nat}
    (fated : snapshot.Fated kinds index) (ended : snapshot.phases[index]? = some .ended) :
    snapshot.failure ≠ none := by
  rcases fated with captured | ⟨kind, phase, -, found, fate⟩
  · exact captured
  · rw [ended] at found
    cases found
    contradiction

end Snapshot

namespace Chronicle

variable {config : ExecutorConfig} {hooked : Bool} {kinds : List SourceKind}
  {before after later events : List (Executor.Event ρ α β)}
  {chronicle next final : Chronicle ρ α β} {index : Nat}

theorem kinds_of_step {event : Executor.Event ρ α β} (stepped : chronicle.step event = some next) :
    next.executor.office.kinds = chronicle.executor.office.kinds :=
  (Executor.officeMove_of_step (executor_of_step stepped)).kinds

theorem kinds_of_run (ran : chronicle.run events = some final) :
    final.executor.office.kinds = chronicle.executor.office.kinds := by
  induction events generalizing chronicle with
  | nil =>
    cases ran
    rfl
  | cons event rest ih =>
    obtain ⟨middle, stepped, ran⟩ := Option.bind_eq_some_iff.mp ran
    exact (ih ran).trans (kinds_of_step stepped)

theorem kinds_start :
    (start config hooked kinds : Chronicle ρ α β).executor.office.kinds = kinds := by
  simp [start, Executor.office, Executor.create, Function.comp_def]

/-- The kind that an executor was given for a producer is the one it has. -/
theorem kind_of_worker {worker : ProducerWorker ρ}
    (same : chronicle.executor.office.kinds = kinds)
    (found : chronicle.executor.producers[index]? = some worker) :
    kinds[index]? = some worker.kind := by
  rw [← same]
  simp [Executor.office, found]

/-- A producer that is fated stays so, whoever takes a step, unless its source swallows what
it was told. -/
theorem fated_of_step {event : Executor.Event ρ α β}
    (same : chronicle.executor.office.kinds = kinds)
    (started : chronicle.executor.snapshot.Started)
    (fated : chronicle.executor.snapshot.Fated kinds index)
    (kept : kinds[index]? = some .pushing →
      ∀ act, event = .producer index act → act.swallows = false)
    (stepped : chronicle.step event = some next) : next.executor.snapshot.Fated kinds index := by
  have onExecutor := executor_of_step stepped
  have move := Executor.move_of_step onExecutor
  rcases fated with captured | ⟨kind, phase, isKind, found, fate⟩
  · exact .inl (move.failed captured)
  by_cases own : ∃ act, event = .producer index act
  · obtain ⟨act, rfl⟩ := own
    obtain ⟨worker, here, rfl⟩ : ∃ worker, chronicle.executor.producers[index]? = some worker ∧
        worker.phase = phase := by
      simpa [Executor.snapshot] using found
    have isWorker := kind_of_worker same here
    rw [isKind] at isWorker
    cases isWorker
    rcases Executor.fated_of_stepProducer here fate
      (fun pushing => kept (isKind.trans (congrArg some pushing)) act rfl) onExecutor
      with captured | ⟨new, there, fateNext⟩
    · exact .inl captured
    · exact .inr ⟨_, new, isKind, there, fateNext⟩
  · have others : ∀ act, event ≠ .producer index act := fun act mine => own ⟨act, mine⟩
    exact .inr ⟨kind, phase, isKind,
      move.phase started others (Executor.alive_of_isFated fate).1 found, fate⟩

theorem fated_of_run (same : chronicle.executor.office.kinds = kinds)
    (reached : Reached kinds.length chronicle.executor.snapshot chronicle.history)
    (fated : chronicle.executor.snapshot.Fated kinds index)
    (kept : kinds[index]? = some .pushing →
      ∀ act, .producer index act ∈ events → act.swallows = false)
    (ran : chronicle.run events = some final) : final.executor.snapshot.Fated kinds index := by
  induction events generalizing chronicle with
  | nil =>
    cases ran
    exact fated
  | cons event rest ih =>
    obtain ⟨middle, stepped, ran⟩ := Option.bind_eq_some_iff.mp ran
    have fatedNext : middle.executor.snapshot.Fated kinds index := by
      refine fated_of_step same reached.started fated (fun pushing act mine => ?_) stepped
      subst mine
      exact kept pushing act List.mem_cons_self
    exact ih ((kinds_of_step stepped).trans same) (reached_of_step reached stepped) fatedNext
      (fun pushing act found => kept pushing act (List.mem_cons_of_mem _ found)) ran

theorem failure_of_run {failure : CapturedFailure} (ran : chronicle.run events = some final)
    (captured : chronicle.executor.failure.captured = some failure) :
    final.executor.failure.captured = some failure :=
  Executor.captured_of_run (executor_of_run ran) captured

/-- Nobody gets a result from an executor whose slot is set. -/
theorem no_result_of_failure {producers : Nat} {result : β}
    (reached : Reached producers chronicle.executor.snapshot chronicle.history)
    (captured : chronicle.executor.failure.captured ≠ none) :
    .returned (.ok result) ∉ chronicle.executor.executes := by
  intro returned
  have sent := reached.carried.results _ returned result rfl
  exact captured (reached.alarm.clean result sent)

/-- If the transform fails on a record and its source does not swallow the failure, then
once the producer has ended a failure is recorded, it stays recorded, and nobody who
executes gets a result.  Only a procedure can swallow anything: by returning as though it
had ended well, or had been cancelled. -/
theorem transform_failure_recorded {act : Executor.ProducerAct ρ α}
    (ran : (start config hooked kinds).run (before ++ .producer index act :: after) =
      some chronicle)
    (fails : act.isTransformFailure = true)
    (kept : kinds[index]? = some .pushing →
      ∀ other, .producer index other ∈ after → other.swallows = false)
    (ended : chronicle.executor.hasEnded index = true)
    (goesOn : chronicle.run later = some final) :
    ∃ failure, chronicle.executor.failure.captured = some failure ∧
      final.executor.failure.captured = some failure ∧
      ∀ result, .returned (.ok result) ∉ final.executor.executes := by
  obtain ⟨first, failed, ranFirst, stepped, ranRest⟩ := run_split ran
  have reachedFailed := reached_of_step (reached_of_start ranFirst) stepped
  have same : first.executor.office.kinds = kinds := (kinds_of_run ranFirst).trans kinds_start
  obtain ⟨worker, phase, found, there, fate⟩ :=
    Executor.fated_of_transformFailure fails (executor_of_step stepped)
  have fated : failed.executor.snapshot.Fated kinds index :=
    .inr ⟨worker.kind, phase, kind_of_worker same found, there, fate⟩
  have fatedNow := fated_of_run ((kinds_of_step stepped).trans same) reachedFailed fated kept
    ranRest
  have reached := reached_of_run reachedFailed ranRest
  have producer : index ≠ chronicle.executor.snapshot.phases.length := by
    rw [reached.length_phases]
    have inside := (List.getElem?_eq_some_iff.mp (kind_of_worker same found)).1
    exact Nat.ne_of_lt inside
  have stopped : chronicle.executor.snapshot.phases[index]? = some .ended :=
    (Executor.hasEnded_iff.mp ended).resolve_right fun last => producer last.1
  obtain ⟨failure, captured⟩ := Option.ne_none_iff_exists'.mp (fatedNow.recorded stopped)
  have capturedFinal := failure_of_run goesOn captured
  refine ⟨failure, captured, capturedFinal, fun result => ?_⟩
  refine no_result_of_failure (reached_of_run reached goesOn) ?_
  rw [capturedFinal]
  simp

/-- Everybody is spawned, and a procedure pushes its first record; the transform fails. -/
def failingRun : List (Executor.Event Nat Nat Nat) :=
  [.execute, .executing 0 (.readFlag false), .executing 0 .proceed, .executing 0 .proceed,
    .executing 0 .proceed, .executing 0 .proceed, .executing 0 .proceed, .executing 0 .proceed,
    .producer 0 (.offered 7), .producer 0 .checkFlag]

/-- The procedure pushes on, wraps what it was told, and the failure is recorded. -/
def wrappedRest : List (Executor.Event Nat Nat Nat) :=
  [.producer 0 (.offered 9), .producer 0 .checkFlag, .producer 0 (.transformed 10),
    .producer 0 (.measured 10), .enterQueue 0, .notifyQueue 0 none, .reportQueue 0,
    .producer 0 .inserted, .producer 0 (.sourceFailed "no luck"), .producer 0 .report,
    .producer 0 .recordFailure, .producer 0 .closeQueue, .notifyQueue 0 none,
    .notifyQueue 0 none, .producer 0 .closed, .producer 0 .signal, .producer 0 .markDone]

/-- The procedure returns as though nothing had happened, and the run completes. -/
def swallowedRest : List (Executor.Event Nat Nat Nat) :=
  [.producer 0 .sourceEnded, .producer 0 .report, .producer 0 .markDone, .enterQueue 1,
    .consumer .pulled, .consumer .report, .consumer .finished, .consumer (.concluded 0),
    .consumer .deliver, .executing 0 .proceed, .executing 0 .proceed, .executing 0 .proceed,
    .executing 0 .proceed]

/-- A procedure that pushes on after a failure and wraps it cannot get rid of it. -/
theorem transform_failure_recorded_inhabited :
    ∃ chronicle : Chronicle Nat Nat Nat,
      (start {} false [.pushing]).run
          (failingRun ++ .producer 0 (.transformFailed "bad record") :: wrappedRest) =
        some chronicle ∧
      chronicle.executor.hasEnded 0 = true ∧
      (∃ failure, chronicle.executor.failure.captured = some failure) ∧
      ∀ result, .returned (.ok result) ∉ chronicle.executor.executes := by
  have ends : ((start {} false [.pushing]).run
      (failingRun ++ .producer 0 (.transformFailed "bad record") :: wrappedRest)).map
        (fun chronicle : Chronicle Nat Nat Nat => chronicle.executor.hasEnded 0) = some true := by
    decide +kernel
  obtain ⟨chronicle, ran, ended⟩ := Option.map_eq_some_iff.mp ends
  have stays : chronicle.run [] = some chronicle := rfl
  have kept : ∀ other, .producer 0 other ∈ wrappedRest → other.swallows = false := by
    intro other found
    simp only [wrappedRest, List.mem_cons, Executor.Event.producer.injEq, true_and, reduceCtorEq,
      false_or, List.not_mem_nil, or_false] at found
    rcases found with rfl | rfl | rfl | rfl | rfl | rfl | rfl | rfl | rfl | rfl | rfl | rfl <;> rfl
  obtain ⟨failure, captured, -, nothing⟩ :=
    transform_failure_recorded ran rfl (fun _ => kept) ended stays
  exact ⟨chronicle, ran, ended, ⟨failure, captured⟩, nothing⟩

/-- A procedure that returns as though nothing had happened makes a failure of the transform
disappear: every worker has ended, the slot is empty, and the run has completed. -/
theorem transform_failure_swallowed :
    ¬ ∀ (kinds : List SourceKind) (before after : List (Executor.Event Nat Nat Nat)) (index : Nat)
      (act : Executor.ProducerAct Nat Nat) (chronicle : Chronicle Nat Nat Nat),
      act.isTransformFailure = true →
      (start {} false kinds).run (before ++ .producer index act :: after) = some chronicle →
      (∀ worker ∈ chronicle.executor.workers, chronicle.executor.hasEnded worker = true) →
      chronicle.executor.failure.captured ≠ none ∧
        ∀ result, .returned (.ok result) ∉ chronicle.executor.executes := by
  intro claim
  have completes : ((start {} false [.pushing]).run
      (failingRun ++ .producer 0 (.transformFailed "bad record") :: swallowedRest)).map
        (fun chronicle => chronicle.executor.workers.all chronicle.executor.hasEnded &&
          chronicle.executor.failure.captured.isNone && chronicle.hasReturned) = some true := by
    decide +kernel
  obtain ⟨chronicle, ran, facts⟩ := Option.map_eq_some_iff.mp completes
  rw [Bool.and_eq_true, Bool.and_eq_true] at facts
  obtain ⟨⟨ended, empty⟩, returned⟩ := facts
  have recorded := (claim _ _ _ _ _ chronicle rfl ran (List.all_eq_true.mp ended)).1
  exact recorded (Option.isNone_iff_eq_none.mp empty)

end Chronicle

end BoundedIngest

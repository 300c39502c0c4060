/-
Module: BoundedIngest.Proofs.Executor.Cause
Purpose: As long as nobody shuts down, a call that executes names the worker whose callback
  failed first.
Main exports:
  Executor.Grounded, Executor.grounded_of_run, Executor.Returns, Executor.real_cause_reported
-/
import BoundedIngest.Proofs.Executor.Blame
import BoundedIngest.Proofs.Executor.Calls
import BoundedIngest.Proofs.Executor.Staffing

namespace BoundedIngest

/-!
A call that executes has an error to give for one of four reasons: it was interrupted, it was
refused, something has failed, or it has heard that nobody can send a signal any more.  The
last one never happens, and a signal of failure is sent only after the slot was set.  So a
call that is neither interrupted nor refused has no error to give but the one in the slot.
-/

variable {ρ α β : Type}

/-- Whoever signals failure has set the slot. -/
theorem Reached.failure_of_signal {producers : Nat} {snapshot : Snapshot ρ α β}
    {history : History ρ α β} (reached : Reached producers snapshot history)
    (sent : .failed ∈ history.signals) : snapshot.failure ≠ none := by
  have balance := reached.alarm.balance
  have counted : 0 < history.signals.countP Signal.isFailed :=
    List.countP_pos_iff.mpr ⟨_, sent, rfl⟩
  intro empty
  rw [empty, Option.isSome_none, Bool.toNat_false] at balance
  omega

namespace Executor

/-- What the call has heard is so, and the error it gives is the failure in the slot, unless it
was refused. -/
def Grounded (executor : Executor ρ α β) : ExecutePhase β → Prop
  | .judging none => False
  | .judging (some .failed) => executor.failure.captured ≠ none
  | .settling (.error error) | .recording (.error error) | .returned (.error error) =>
      error = .alreadyStarted ∨ executor.failure.toExecError = some error
  | _ => True

variable {executor next final : Executor ρ α β} {event : Event ρ α β} {call : Nat}
  {old new phase : ExecutePhase β} {act : ExecuteAct} {failure : CapturedFailure}

/-! ### What a call has to say -/

/-- The first failure stays, and so does what calls make of it. -/
theorem Grounded.keeps (grounded : executor.Grounded phase)
    (stepped : executor.step event = some next) : next.Grounded phase := by
  have move := move_of_step stepped
  have slot : ∀ {error}, executor.failure.toExecError = some error →
      next.failure.toExecError = some error := by
    intro error known
    obtain ⟨failure, captured, rfl⟩ := Option.map_eq_some_iff.mp known
    exact Option.map_eq_some_iff.mpr ⟨failure, move.failure captured, rfl⟩
  unfold Grounded at grounded ⊢
  split at grounded
  · exact grounded
  · exact move.failed grounded
  · exact grounded.imp_right slot
  · exact grounded.imp_right slot
  · exact grounded.imp_right slot
  · trivial

/-- A signal that is so has a grounded outcome. -/
theorem grounded_of_judge {signal : Option (Signal β)}
    (heard : executor.Grounded (.judging signal)) :
    executor.Grounded (.settling (executor.judge signal)) := by
  cases known : executor.failure.toExecError with
  | some error =>
    have judged : executor.judge signal = .error error := by
      unfold judge failureOrInterrupted
      rw [known]
      split <;> rfl
    rw [judged]
    exact .inr known
  | none =>
    cases signal with
    | none => exact heard.elim
    | some signal =>
      cases signal with
      | finished result =>
        have judged : executor.judge (some (.finished result)) = .ok result := by
          unfold judge
          rw [known]
        rw [judged]
        trivial
      | failed => exact absurd (Option.map_eq_none_iff.mp known) heard

/-- A call that is not interrupted stays grounded by its own steps. -/
theorem Grounded.turn {producers : Nat} {history : History ρ α β}
    (grounded : executor.Grounded old) (turn : executor.Turn old act new)
    (steady : ∀ lifecycle, ¬executor.Retreats old new lifecycle)
    (reached : Reached producers executor.snapshot history) (connected : executor.Connected)
    (lowered : act ≠ .readFlag true) : executor.Grounded new := by
  cases turn with
  | aborts => exact absurd rfl lowered
  | takesReceiver hasParts hasSender =>
    split
    · trivial
    · exact .inl rfl
  | spawns worker named willing => split <;> trivial
  | settles outcome => cases outcome <;> exact grounded
  | enters | takesParts | takesSender | starts | strands => trivial
  | retreats turn => exact (steady _ turn).elim
  | serves turn =>
    cases turn with
    | receives message sent =>
      cases message with
      | finished result => trivial
      | failed => exact reached.failure_of_signal (reached.carried.messages _ sent)
    | givesUp alone =>
      unfold Connected at connected
      omega
    | interrupted => exact absurd rfl lowered
    | fails error failed => exact .inr failed
    | judges signal => exact grounded_of_judge grounded
    | records outcome => cases outcome <;> exact grounded
    | timesOut | checksFlag | checksSlot => trivial

/-- By induction on the steps. -/
theorem grounded_of_steps {producers : Nat} {history : History ρ α β}
    {events : List (Event ρ α β)} (willing : executor.Willing)
    (reached : Reached producers executor.snapshot history) (connected : executor.Connected)
    (grounded : ∀ phase, executor.executes[call]? = some phase → executor.Grounded phase)
    (ran : executor.run events = some final)
    (lowered : .executing call (.readFlag true) ∉ events) :
    ∀ phase, final.executes[call]? = some phase → final.Grounded phase := by
  induction events generalizing executor history with
  | nil =>
    cases ran
    exact grounded
  | cons event rest ih =>
    obtain ⟨middle, stepped, ran⟩ := Option.bind_eq_some_iff.mp ran
    obtain ⟨first, later⟩ := not_or.mp fun found => lowered (List.mem_cons.mpr found)
    refine ih (willing.step stepped) (.move reached (move_of_step stepped))
      (connected_of_step connected stepped) ?_ ran later
    intro new found
    rcases turn_before stepped found with rfl | ⟨old, was, rfl | ⟨act, rfl, turn⟩⟩
    · trivial
    · exact (grounded new was).keeps stepped
    · have steady : ∀ lifecycle, ¬executor.Retreats old new lifecycle :=
        fun _ => willing.not_retreats was
      refine Grounded.keeps ((grounded old was).turn turn steady reached connected ?_) stepped
      rintro rfl
      exact first rfl

/-- In every run in which the call is not interrupted. -/
theorem grounded_of_run {config : ExecutorConfig} {hooked : Bool} {kinds : List SourceKind}
    {events : List (Event ρ α β)} (ran : (create config hooked kinds).run events = some final)
    (lowered : .executing call (.readFlag true) ∉ events)
    (found : final.executes[call]? = some phase) : final.Grounded phase := by
  have reached : Reached kinds.length (create config hooked kinds : Executor ρ α β).snapshot {} :=
    Chronicle.reached_start config hooked kinds
  exact grounded_of_steps (willing_create config hooked kinds) reached
    (connected_create config hooked kinds)
    (fun phase nobody => by contradiction) ran lowered phase found

/-- A call that was not interrupted has returned: it was refused, or it has a result and
nothing has failed, or it gives the failure in the slot. -/
theorem outcome_of_run {config : ExecutorConfig} {hooked : Bool} {kinds : List SourceKind}
    {events : List (Event ρ α β)} {outcome : Except ExecError β}
    (ran : (create config hooked kinds).run events = some final)
    (lowered : .executing call (.readFlag true) ∉ events)
    (returned : final.executes[call]? = some (.returned outcome)) :
    outcome = .error .alreadyStarted ∨
      (final.failure.captured = none ∧ ∃ result, outcome = .ok result) ∨
      ∃ failure, final.failure.captured = some failure ∧
        outcome = .error (.failed failure.role failure.error) := by
  obtain ⟨history, reached⟩ := reached_of_run ran
  have grounded := grounded_of_run ran lowered returned
  cases outcome with
  | ok result =>
    have sent := reached.carried.results _ (List.mem_of_getElem? returned) result rfl
    exact .inr (.inl ⟨reached.alarm.clean result sent, result, rfl⟩)
  | error error =>
    rcases grounded with rfl | known
    · exact .inl rfl
    · obtain ⟨failure, captured, rfl⟩ := Option.map_eq_some_iff.mp known
      exact .inr (.inr ⟨failure, captured, rfl⟩)

/-! ### The call that has spawned the workers -/

/-- A call panics only if no worker can have its name. -/
theorem nul_of_panicked {config : ExecutorConfig} {events : List (Event ρ α β)}
    (settings : executor.config = config)
    (unnamed : ∀ panic, .panicked panic ∈ executor.executes → config.HasNul)
    (ran : executor.run events = some final) :
    ∀ panic, .panicked panic ∈ final.executes → config.HasNul := by
  induction events generalizing executor with
  | nil =>
    cases ran
    exact unnamed
  | cons event rest ih =>
    obtain ⟨middle, stepped, ran⟩ := Option.bind_eq_some_iff.mp ran
    refine ih ((officeMove_of_step stepped).config.trans settings) ?_ ran
    intro panic found
    obtain ⟨call, here⟩ := List.mem_iff_getElem?.mp found
    rcases turn_before stepped here with same | ⟨old, was, rfl | ⟨act, rfl, turn⟩⟩
    · contradiction
    · exact unnamed panic (List.mem_of_getElem? was)
    · generalize seen : ExecutePhase.panicked panic = new at turn
      cases turn with
      | strands worker reason absent =>
        have unnamed : ¬threadNamePanic? (executor.workerName worker) = none := by simp [absent]
        rw [named_iff, settings, not_not] at unnamed
        exact unnamed
      | takesReceiver | spawns => split at seen <;> contradiction
      | serves turn => cases turn <;> contradiction
      | retreats turn => cases turn <;> contradiction
      | aborts | enters | takesParts | takesSender | starts | settles => contradiction

/-- Whoever was spawned in a run was spawned by a call that has got everything. -/
theorem spawner_of_run {events : List (Event ρ α β)} {worker : Nat}
    (ran : executor.run events = some final) (spawned : final.snapshot.Spawned worker) :
    (∃ first, executor.snapshot.Spawned first) ∨
      ∃ call phase, .executing call .proceed ∈ events ∧ final.executes[call]? = some phase ∧
        phase.hasStarted = true := by
  induction events generalizing executor with
  | nil =>
    cases ran
    exact .inl ⟨worker, spawned⟩
  | cons event rest ih =>
    obtain ⟨middle, stepped, goesOn⟩ := Option.bind_eq_some_iff.mp ran
    rcases ih goesOn with ⟨first, early⟩ | ⟨call, phase, mine, found, started⟩
    · rcases spawned_before stepped early with before | ⟨call, worker, rfl, was, -⟩
      · exact .inl ⟨first, before⟩
      · obtain ⟨new, found, ⟨others, -⟩ | ⟨act, -, turn⟩⟩ := turn_of_step stepped was
        · exact absurd rfl (others _)
        · have started := hasStarted_of_turn turn rfl
          obtain ⟨phase, here, started⟩ := hasStarted_of_run goesOn found started
          exact .inr ⟨call, phase, List.mem_cons_self, here, started⟩
    · exact .inr ⟨call, phase, List.mem_cons_of_mem _ mine, found, started⟩

end Executor

/-- Nobody fails before somebody was spawned. -/
theorem Reached.spawned_of_failure {producers : Nat} {snapshot : Snapshot ρ α β}
    {history : History ρ α β} (reached : Reached producers snapshot history)
    (failed : snapshot.failure ≠ none) : ∃ worker, snapshot.Spawned worker := by
  induction reached with
  | start => exact absurd rfl failed
  | move reached move ih =>
    obtain ⟨failure, captured⟩ := Option.ne_none_iff_exists'.mp failed
    rcases Snapshot.failing_of_move move captured with
      before | ⟨index, error, was, -⟩ | ⟨-, error, was, -⟩
    · obtain ⟨worker, spawned⟩ := ih (by simp [before])
      exact ⟨worker, spawned.move move⟩
    · exact ⟨index, Snapshot.Spawned.move (.inl ⟨_, was, by simp⟩) move⟩
    · exact ⟨_, Snapshot.Spawned.move (.inr ⟨rfl, by simp [was]⟩) move⟩

/-! ### What becomes of a failure -/

namespace Executor

variable {executor next final : Executor ρ α β} {event : Event ρ α β} {call : Nat}
  {phase : ExecutePhase β} {failure : CapturedFailure} {config : ExecutorConfig} {hooked : Bool}
  {kinds : List SourceKind} {events : List (Event ρ α β)}

/-- A worker records that it has failed. -/
def Event.recordsFailure : Event ρ α β → Bool
  | .producer _ .recordFailure | .consumer .recordFailure => true
  | _ => false

theorem failed_of_record (records : event.recordsFailure = true)
    (stepped : executor.step event = some next) : next.failure.captured ≠ none := by
  unfold Event.recordsFailure at records
  split at records
  · exact failed_of_recording_producer stepped
  · simp only [step, stepConsumer] at stepped
    have turn : turnConsumer executor.consumer.phase (.recordFailure : ConsumerAct β) = none := by
      unfold turnConsumer
      cases executor.consumer.phase <;> rfl
    rw [turn] at stepped
    unfold engageConsumer at stepped
    dsimp only at stepped
    split at stepped <;> first | contradiction | cases stepped
    split <;> exact record_ne_none _ _
  · contradiction

/-- Once a worker has recorded that it failed, the slot is set for good. -/
theorem failed_of_run (ran : executor.run events = some final) (found : event ∈ events)
    (records : event.recordsFailure = true) : final.failure.captured ≠ none := by
  obtain ⟨before, after, rfl⟩ := List.append_of_mem found
  rw [run_append] at ran
  obtain ⟨middle, -, ran⟩ := Option.bind_eq_some_iff.mp ran
  obtain ⟨next, stepped, ran⟩ := Option.bind_eq_some_iff.mp ran
  obtain ⟨failure, captured⟩ := Option.ne_none_iff_exists'.mp (failed_of_record records stepped)
  simp [captured_of_run ran captured]

/-- Whatever happens from now on, as long as the call is not interrupted it comes to that
outcome with fewer than so many steps of its own, and is never held up before. -/
def Returns (executor : Executor ρ α β) (call : Nat) (outcome : Except ExecError β)
    (steps : Nat) : Prop :=
  ∀ rest final, executor.run rest = some final → .executing call (.readFlag true) ∉ rest →
    final.executes[call]? = some (.returned outcome) ∨
      (rest.countP (Event.isBy call) < steps ∧
        ∃ act next, act ≠ .readFlag true ∧ final.step (.executing call act) = some next)

/-- Once something has failed, a call that has got everything returns that failure. -/
theorem returns_failure (ran : (create config hooked kinds).run events = some executor)
    (lowered : .executing call (.readFlag true) ∉ events)
    (captured : executor.failure.captured = some failure)
    (found : executor.executes[call]? = some phase) (started : phase.hasStarted = true) :
    executor.Returns call (.error (.failed failure.role failure.error)) (kinds.length + 7) := by
  intro rest final goesOn still
  have whole : (create config hooked kinds).run (events ++ rest) = some final := by
    rw [run_append, ran]
    exact goesOn
  have aside : .executing call (.readFlag true) ∉ events ++ rest :=
    fun interrupted => (List.mem_append.mp interrupted).elim lowered still
  have failed : executor.failure.captured ≠ none := by simp [captured]
  have capturedFinal := captured_of_run goesOn captured
  obtain ⟨history, reached⟩ := reached_of_run ran
  obtain ⟨historyFinal, reachedFinal⟩ := reached_of_run whole
  obtain ⟨new, here, startedNew⟩ := hasStarted_of_run goesOn found started
  obtain ⟨same, there, steps⟩ := left_of_run goesOn failed found
  cases here.symm.trans there
  by_cases past : ∃ outcome, new = .returned outcome
  · left
    obtain ⟨outcome, rfl⟩ := past
    rcases outcome_of_run whole aside here with rfl | ⟨empty, -⟩ | ⟨other, known, rfl⟩
    · contradiction
    · rw [capturedFinal] at empty
      contradiction
    · cases capturedFinal.symm.trans known
      exact here
  · right
    have running : ∀ outcome, new ≠ .returned outcome := fun outcome same => past ⟨outcome, same⟩
    have alive : ∀ panic, new ≠ .panicked panic := by
      rintro panic rfl
      have nul := nul_of_panicked rfl (fun panic nobody => by contradiction) whole panic
        (List.mem_of_getElem? here)
      obtain ⟨worker, spawned⟩ := reachedFinal.spawned_of_failure
        (Option.ne_none_iff_exists'.mpr ⟨failure, capturedFinal⟩)
      exact (staffed_of_run whole).named nul worker spawned
    have steady := ((willing_create config hooked kinds).run whole).steady new
      (List.mem_of_getElem? here)
    refine ⟨?_, never_held_up reachedFinal (connected_of_run (connected_create ..) whole) here
      steady running alive⟩
    have index : executor.consumerIndex = kinds.length :=
      length_phases.symm.trans reached.length_phases
    have bound := ExecutePhase.left_of_started started executor.consumerIndex
    have more := ExecutePhase.left_pos running alive executor.consumerIndex
    omega

/-- In a run in which nobody shuts down, the slot never holds that the consumer found the queue
closed: what it holds is what a callback of that worker ended with, and the call that has
spawned the workers returns it unless it is interrupted.  As soon as some worker has recorded
that it failed the slot is set, and no call that was not interrupted returns any other error,
unless it was refused. -/
theorem real_cause_reported (ran : (create config hooked kinds).run events = some executor)
    (aside : .shutdown ∉ events) :
    (∀ failure, executor.failure.captured = some failure →
      failure ≠ { role := .consumer, error := .interrupted } ∧
        (∃ event ∈ events, event.failure? = some failure) ∧
        ∃ call phase, .executing call .proceed ∈ events ∧
          executor.executes[call]? = some phase ∧ phase.hasStarted = true ∧
          (.executing call (.readFlag true) ∉ events →
            executor.Returns call (.error (.failed failure.role failure.error))
              (kinds.length + 7))) ∧
      ((∃ event ∈ events, event.recordsFailure = true) → executor.failure.captured ≠ none) ∧
      ∀ call outcome, .executing call (.readFlag true) ∉ events →
        executor.executes[call]? = some (.returned outcome) →
        outcome = .error .alreadyStarted ∨
          (executor.failure.captured = none ∧ ∃ result, outcome = .ok result) ∨
          ∃ failure, executor.failure.captured = some failure ∧
            outcome = .error (.failed failure.role failure.error) := by
  refine ⟨fun failure captured => ?_, fun ⟨event, found, records⟩ => ?_, fun call outcome => ?_⟩
  · obtain ⟨event, found, ends⟩ :=
      List.mem_filterMap.mp ((blamed_of_run ran aside).captured failure captured)
    refine ⟨?_, ⟨event, found, ends⟩, ?_⟩
    · rintro rfl
      exact event.failure?_ne ends
    · obtain ⟨history, reached⟩ := reached_of_run ran
      obtain ⟨worker, spawned⟩ := reached.spawned_of_failure
        (Option.ne_none_iff_exists'.mpr ⟨failure, captured⟩)
      rcases spawner_of_run ran spawned with ⟨first, early⟩ | ⟨call, phase, mine, here, started⟩
      · exact absurd early (unspawned_create config hooked kinds first)
      · exact ⟨call, phase, mine, here, started, fun lowered =>
          returns_failure ran lowered captured here started⟩
  · exact failed_of_run ran found records
  · exact outcome_of_run ran

/-- The source fails, and its producer closes the queue under the consumer, which records that
it was interrupted. -/
def brokenRun : List (Event Nat Nat Nat) :=
  [.execute, .executing 0 (.readFlag false), .executing 0 .proceed, .executing 0 .proceed,
    .executing 0 .proceed, .executing 0 .proceed, .executing 0 .proceed, .executing 0 .proceed,
    .enterQueue 1, .producer 0 (.sourceFailed "disk"), .producer 0 .report,
    .producer 0 .recordFailure, .producer 0 .closeQueue, .notifyQueue 0 none,
    .notifyQueue 0 none, .enterQueue 1, .consumer .pulled, .consumer .report,
    .consumer .recordFailure]

/-- The source wins over the consumer. -/
theorem real_cause_reported_inhabited :
    ∃ executor : Executor Nat Nat Nat,
      (create {} false [.results]).run brokenRun = some executor ∧ .shutdown ∉ brokenRun ∧
        executor.failure.captured = some { role := .producer 0, error := .source "disk" } ∧
        executor.Returns 0 (.error (.failed (.producer 0) (.source "disk"))) 8 := by
  have runs : ((create {} false [.results]).run brokenRun).map
      (fun executor : Executor Nat Nat Nat => executor.failure.captured) =
        some (some { role := .producer 0, error := .source "disk" }) := by
    decide +kernel
  obtain ⟨executor, ran, captured⟩ := Option.map_eq_some_iff.mp runs
  have aside : .shutdown ∉ brokenRun := by decide
  refine ⟨executor, ran, aside, captured, ?_⟩
  obtain ⟨-, -, call, phase, mine, -, -, returns⟩ :=
    (real_cause_reported ran aside).1 _ captured
  have first : call = 0 := by simpa [brokenRun] using mine
  subst first
  exact returns (by decide)

end Executor

end BoundedIngest

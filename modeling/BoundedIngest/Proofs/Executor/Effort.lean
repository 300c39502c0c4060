/-
Module: BoundedIngest.Proofs.Executor.Effort
Purpose: How much an undisturbed run has left to do, and that every step does some of it,
  unless the call that executes only looks around.
Main exports:
  Executor.effort, Executor.Poll, Chronicle.effort, Undisturbed.effort_of_step
-/
import BoundedIngest.Proofs.Executor.Account
import BoundedIngest.Proofs.Executor.Crew
import BoundedIngest.Proofs.Queue.Work

namespace BoundedIngest

/-!
A record that was not offered yet counts for all that becomes of it, and a worker for what
is left of its course.  A producer that is marked done notifies everybody, so before that it
counts for every call twice.  The call that executes waits, looks at its flag and at the
failure slot, and waits again; only these steps come to nothing.
-/

variable {ρ α β : Type}

def ProducerPhase.effort (callers : Nat) : ProducerPhase ρ → Nat
  | .unborn => 2 * callers + 5
  | .hooking => 2 * callers + 4
  | .sourcing _ | .inserting => 2 * callers + 3
  | .offering _ => 3 * callers + 18
  | .transforming _ => 3 * callers + 17
  | .reporting _ => 2 * callers + 2
  | .marking => 2 * callers + 1
  | .failing _ | .alarmed | .closing | .signalling | .ended => 0

def ConsumerPhase.effort : ConsumerPhase α β → Nat
  | .unborn => 8
  | .hooking | .consuming _ => 7
  | .drained _ => 4
  | .finishing => 3
  | .concluding => 2
  | .delivering _ => 1
  | .pulling | .failing _ | .alarmed | .closing | .signalling | .ended => 0

def ExecutePhase.effort : ExecutePhase β → Nat
  | .entering => 10
  | .takingParts => 9
  | .takingSender _ => 8
  | .takingReceiver .. => 7
  | .starting => 6
  | .spawning _ => 5
  | .waiting | .checkingFlag | .checkingSlot => 4
  | .judging _ => 3
  | .settling _ => 2
  | .recording _ => 1
  | .returned _ | .panicked _ | .retreating _ | .withdrawing .. => 0

/-- The call that executes, which may have yet to begin. -/
def ExecutePhase.efforts : List (ExecutePhase β) → Nat
  | [] => 11
  | phase :: _ => phase.effort

/-- How many records were not offered yet. -/
def Assignment.left (assignment : Assignment ρ α) (history : History ρ α β) : Nat :=
  ((List.range assignment.sources.length).map fun index =>
    (assignment.records index).length - (history.offeredTo index).length).sum

namespace Executor

def effort (executor : Executor ρ α β) (left : Nat) : Nat :=
  executor.shared.work +
    (executor.snapshot.phases.map (ProducerPhase.effort executor.shared.calls.length)).sum +
    (executor.shared.calls.length + 16) * left + executor.consumer.phase.effort +
    ExecutePhase.efforts executor.executes

/-- The call that executes looks around once more. -/
inductive Poll (executor : Executor ρ α β) : ExecuteAct → Executor ρ α β → Prop
  | timesOut (only : executor.executes = [.waiting])
      (silent : executor.channel.messages = []) :
      Poll executor .timeout (executor.setExecute 0 .checkingFlag)
  | checksFlag (only : executor.executes = [.checkingFlag]) :
      Poll executor (.readFlag false) (executor.setExecute 0 .checkingSlot)
  | checksSlot (only : executor.executes = [.checkingSlot]) :
      Poll executor .proceed (executor.setExecute 0 .waiting)

variable {executor next : Executor ρ α β} {left later index : Nat}

/-- A step that does nothing to producers. -/
theorem effort_others (length : next.shared.calls.length = executor.shared.calls.length)
    (phases : next.snapshot.phases = executor.snapshot.phases)
    (less : next.shared.work + next.consumer.phase.effort + ExecutePhase.efforts next.executes <
      executor.shared.work + executor.consumer.phase.effort +
        ExecutePhase.efforts executor.executes) :
    next.effort left < executor.effort left := by
  unfold effort
  rw [length, phases]
  omega

/-- A step of one producer. -/
theorem effort_producer {old new : ProducerPhase ρ}
    (length : next.shared.calls.length = executor.shared.calls.length)
    (was : executor.snapshot.phases[index]? = some old)
    (phases : next.snapshot.phases = executor.snapshot.phases.set index new)
    (consumer : next.consumer = executor.consumer)
    (executes : ExecutePhase.efforts next.executes = ExecutePhase.efforts executor.executes)
    (less : next.shared.work + new.effort executor.shared.calls.length +
        (executor.shared.calls.length + 16) * later <
      executor.shared.work + old.effort executor.shared.calls.length +
        (executor.shared.calls.length + 16) * left) :
    next.effort later < executor.effort left := by
  have summed := sum_map_set_add (ProducerPhase.effort executor.shared.calls.length) new was
  unfold effort
  rw [length, phases, consumer, executes]
  omega

/-! ### Steps by role -/

theorem effort_of_producer {worker : ProducerWorker ρ} {act : ProducerAct ρ α}
    (found : executor.producers[index]? = some worker)
    (step : ProducerStep executor index worker act next) (fewer : later ≤ left)
    (offered : ∀ record, act = .offered record → later + 1 ≤ left) :
    next.effort later < executor.effort left := by
  have was := phases_getElem? found
  have most : (executor.shared.calls.length + 16) * later ≤
      (executor.shared.calls.length + 16) * left := Nat.mul_le_mul_left _ fewer
  have turned : ∀ new : ProducerPhase ρ,
      (executor.setProducerPhase index new).snapshot.phases =
        executor.snapshot.phases.set index new := fun new =>
    congrArg Snapshot.phases (snapshot_setProducerPhase index new)
  cases step with
  | hooked phase =>
    rw [phase] at was
    refine effort_producer rfl was (turned _) rfl rfl ?_
    simp only [ProducerPhase.effort, setProducerPhase]
    omega
  | offered answer record phase =>
    rw [phase] at was
    have most : (executor.shared.calls.length + 16) * (later + 1) ≤
        (executor.shared.calls.length + 16) * left :=
      Nat.mul_le_mul_left _ (offered record rfl)
    rw [Nat.mul_succ] at most
    refine effort_producer rfl was (turned _) rfl rfl ?_
    simp only [ProducerPhase.effort, setProducerPhase]
    omega
  | exhausted answer phase =>
    rw [phase] at was
    refine effort_producer rfl was (turned _) rfl rfl ?_
    simp only [ProducerPhase.effort, setProducerPhase]
    omega
  | checked record phase =>
    rw [phase] at was
    refine effort_producer rfl was (turned _) rfl rfl ?_
    simp only [ProducerPhase.effort, setProducerPhase]
    omega
  | inserts record entry shared phase began =>
    rw [phase] at was
    have work := SharedQueue.work_insert began
    refine effort_producer (SharedQueue.length_of_step began) was (turned _) rfl rfl ?_
    simp only [ProducerPhase.effort, setProducerPhase]
    omega
  | measured size shared phase folded =>
    have work := SharedQueue.work_measured folded
    refine effort_producer (SharedQueue.length_of_step folded) was (set_eq_self was).symm rfl rfl ?_
    dsimp only
    omega
  | accepted shared phase replied leaves =>
    rw [phase] at was
    have work : shared.work + 1 = executor.shared.work := SharedQueue.work_leave replied leaves
    have phases : (setProducer { executor with shared } index
        { worker with produced := worker.produced + 1, phase := .sourcing none }).snapshot.phases =
          executor.snapshot.phases.set index (.sourcing none) :=
      congrArg Snapshot.phases (snapshot_setProducer index _)
    refine effort_producer (SharedQueue.length_of_step leaves) was phases rfl rfl ?_
    simp only [ProducerPhase.effort, setProducer]
    omega
  | reported measurement phase =>
    rw [phase] at was
    have work : ((executor.setProducerPhase index .marking).record measurement).shared.work =
        executor.shared.work := SharedQueue.work_of_same rfl rfl
    refine effort_producer rfl was (turned _) rfl rfl ?_
    rw [work]
    simp only [ProducerPhase.effort]
    omega
  | marked phase =>
    rw [phase] at was
    have work : executor.shared.markDone.work ≤
        executor.shared.work + 2 * executor.shared.calls.length := SharedQueue.work_markDone
    have marks : executor.shared.step .markDone = some executor.shared.markDone := rfl
    refine effort_producer (SharedQueue.length_of_step marks) was (turned _) rfl rfl ?_
    simp only [ProducerPhase.effort, setProducerPhase]
    omega

theorem effort_of_consumer {act : ConsumerAct β} (step : ConsumerStep executor act next) :
    next.effort left < executor.effort left := by
  cases step with
  | starts shared was began =>
    have work := SharedQueue.work_pull began
    refine effort_others (SharedQueue.length_of_step began) rfl ?_
    simp only [was, ConsumerPhase.effort, setConsumerPhase]
    omega
  | goesOn entry count shared was began =>
    have work := SharedQueue.work_pull began
    refine effort_others (SharedQueue.length_of_step began) rfl ?_
    simp only [was, ConsumerPhase.effort]
    omega
  | receives entry shared was replied leaves =>
    have work : shared.work + 8 = executor.shared.work := SharedQueue.work_leave replied leaves
    refine effort_others (SharedQueue.length_of_step leaves) rfl ?_
    simp only [was, ConsumerPhase.effort, setConsumerPhase]
    omega
  | drains shared was replied leaves =>
    have work : shared.work + 5 = executor.shared.work := SharedQueue.work_leave replied leaves
    refine effort_others (SharedQueue.length_of_step leaves) rfl ?_
    simp only [was, ConsumerPhase.effort, setConsumerPhase]
    omega
  | reports measurement was =>
    have work : ((executor.setConsumerPhase .finishing).record measurement).shared.work =
        executor.shared.work := SharedQueue.work_of_same rfl rfl
    refine effort_others rfl rfl ?_
    rw [work]
    simp only [was, ConsumerPhase.effort, setConsumerPhase, record]
    omega
  | finished was =>
    refine effort_others rfl rfl ?_
    simp only [was, ConsumerPhase.effort, setConsumerPhase]
    omega
  | concluded result was =>
    refine effort_others rfl rfl ?_
    simp only [was, ConsumerPhase.effort, setConsumerPhase]
    omega
  | delivers result was =>
    refine effort_others rfl rfl ?_
    simp only [was, ConsumerPhase.effort, endConsumer, setConsumerPhase]
    omega

/-- A step of a call on the queue. -/
theorem effort_of_queue {event : SharedQueue.Event α} {shared : SharedQueue α}
    (stepped : executor.shared.step event = some shared)
    (less : shared.work < executor.shared.work) :
    ({ executor with shared } : Executor ρ α β).effort left < executor.effort left := by
  refine effort_others (SharedQueue.length_of_step stepped) rfl ?_
  dsimp only
  omega

theorem efforts_set {old new : ExecutePhase β} (only : executor.executes = [old]) :
    ExecutePhase.efforts (executor.executes.set 0 new) = new.effort := by
  rw [executes_set only]
  rfl

theorem efforts_only {phase : ExecutePhase β} (only : executor.executes = [phase]) :
    ExecutePhase.efforts executor.executes = phase.effort := by
  rw [only]
  rfl

/-- A step in which the call that executes does nothing to workers. -/
theorem effort_of_call {old new : ExecutePhase β} (only : executor.executes = [old])
    (executes : next.executes = executor.executes.set 0 new)
    (shared : next.shared.work = executor.shared.work)
    (length : next.shared.calls.length = executor.shared.calls.length)
    (workers : SameWorkers executor next) (less : new.effort < old.effort) :
    next.effort left < executor.effort left := by
  have phases : next.snapshot.phases = executor.snapshot.phases :=
    congrArg (List.map ProducerWorker.phase) workers.producers
  refine effort_others length phases ?_
  rw [shared, workers.consumer, executes, efforts_set only, efforts_only only]
  omega

theorem effort_of_caller {phase : ExecutePhase β} {act : ExecuteAct} (calm : executor.Calm)
    (started : executor.snapshot.Started) (only : executor.executes = [phase])
    (step : CallerStep executor phase act next) :
    next.effort left < executor.effort left ∨ executor.Poll act next := by
  have unborn : ∀ worker, phase = .spawning worker → executor.snapshot.Unborn worker := by
    rintro worker rfl
    exact started.frontier (.spawning worker) (by simp [snapshot, only]) worker rfl
  cases step with
  | timesOut silent => exact .inr (.timesOut only silent)
  | checksFlag => exact .inr (.checksFlag only)
  | checksSlot => exact .inr (.checksSlot only)
  | givesUp empty alone =>
    have some := calm.connected.1
    omega
  | enters | takesParts | takesSender | takesReceiver | starts | fails | receives | judges
  | settles =>
    exact .inl (effort_of_call only rfl rfl rfl {} (by simp [ExecutePhase.effort]))
  | records result measurement =>
    have work : ((executor.setExecute 0 (.returned (.ok result))).record measurement).shared.work =
        executor.shared.work := SharedQueue.work_of_same rfl rfl
    exact .inl (effort_of_call only rfl work rfl {} (by simp [ExecutePhase.effort]))
  | spawnsProducer worker named inside =>
    obtain ⟨old, was⟩ : ∃ old, executor.snapshot.phases[worker]? = some old := by
      have long : worker < executor.snapshot.phases.length := by rwa [length_phases]
      exact ⟨_, List.getElem?_eq_getElem long⟩
    cases (unborn worker rfl).2 worker old (Nat.le_refl _) was
    refine .inl (effort_producer rfl was
      (congrArg Snapshot.phases (snapshot_setProducerPhase worker _)) rfl ?_ ?_)
    · exact (efforts_set only).trans (efforts_only only).symm
    · simp only [setExecute, setProducerPhase]
      split
      · simp only [ProducerPhase.effort]
        omega
      · simp only [ProducerPhase.effort]
        omega
  | spawnsHook worker named last =>
    have was : executor.consumer.phase = .unborn := (unborn worker rfl).1
    refine .inl (effort_others rfl rfl ?_)
    simp only [setExecute, setConsumerPhase, efforts_set only, efforts_only only, was,
      ExecutePhase.effort, ConsumerPhase.effort]
    omega
  | spawnsPull worker shared named last began =>
    have was : executor.consumer.phase = .unborn := (unborn worker rfl).1
    have work := SharedQueue.work_pull began
    refine .inl (effort_others (SharedQueue.length_of_step began) rfl ?_)
    simp only [setExecute, setConsumerPhase, efforts_set only, efforts_only only, was,
      ExecutePhase.effort, ConsumerPhase.effort]
    omega

/-! ### Looking around -/

namespace Poll

variable {act : ExecuteAct}

theorem effort (polled : executor.Poll act next) (left : Nat) :
    next.effort left = executor.effort left := by
  have same : ∀ {old new : ExecutePhase β}, executor.executes = [old] → new.effort = old.effort →
      (executor.setExecute 0 new).effort left = executor.effort left := by
    intro old new only efforts
    have executes : ExecutePhase.efforts (executor.executes.set 0 new) =
        ExecutePhase.efforts executor.executes := by
      rw [efforts_set only, efforts_only only, efforts]
    exact congrArg (_ + ·) executes
  cases polled with
  | timesOut only silent => exact same only rfl
  | checksFlag only => exact same only rfl
  | checksSlot only => exact same only rfl

theorem messages (polled : executor.Poll act next) :
    next.channel.messages = executor.channel.messages := by
  cases polled <;> rfl

/-- The call that executes listens, and everybody was spawned. -/
theorem listens (polled : executor.Poll act next) :
    ∃ phase, executor.executes = [phase] ∧ phase.isManned = true ∧
      phase.isListening = true := by
  cases polled with
  | timesOut only silent => exact ⟨_, only, rfl, rfl⟩
  | checksFlag only => exact ⟨_, only, rfl, rfl⟩
  | checksSlot only => exact ⟨_, only, rfl, rfl⟩

/-- Between one wait and the next the call looks at its flag and at the failure slot. -/
theorem course (polled : executor.Poll act next) :
    (executor.executes = [.waiting] → executor.channel.messages = []) ∧
      (executor.executes = [.checkingSlot] → next.executes = [.waiting]) ∧
      (executor.executes = [.waiting] ∨ executor.executes = [.checkingSlot] ∨
        next.executes = [.checkingSlot]) := by
  cases polled with
  | timesOut only silent => exact ⟨fun _ => silent, by simp [only], .inl only⟩
  | checksFlag only =>
    exact ⟨by simp [only], by simp [only], .inr (.inr (executes_set only))⟩
  | checksSlot only => exact ⟨by simp [only], fun _ => executes_set only, .inr (.inl only)⟩

end Poll

/-- Every step does some of what is left, unless the call that executes looks around. -/
theorem effort_of_step {event : Event ρ α β} (calm : executor.Calm)
    (started : executor.snapshot.Started) (step : CalmStep executor event next)
    (fewer : later ≤ left)
    (offered : ∀ index record, event = .producer index (.offered record) → later + 1 ≤ left) :
    next.effort later < executor.effort left ∨ next.effort later ≤ executor.effort left ∧
      ∃ act, event = .executing 0 act ∧ executor.Poll act next := by
  have most : next.effort later ≤ next.effort left := by
    have multiplied : (next.shared.calls.length + 16) * later ≤
        (next.shared.calls.length + 16) * left := Nat.mul_le_mul_left _ fewer
    unfold effort
    omega
  cases step with
  | enters caller shared stepped =>
    exact .inl (Nat.lt_of_le_of_lt most (effort_of_queue stepped (SharedQueue.work_of_enter stepped)))
  | notifies caller target shared stepped =>
    exact .inl (Nat.lt_of_le_of_lt most
      (effort_of_queue stepped (SharedQueue.work_of_notify stepped)))
  | reports caller shared stepped =>
    exact .inl (Nat.lt_of_le_of_lt most
      (effort_of_queue stepped (SharedQueue.work_of_report stepped)))
  | producer found step =>
    refine .inl (effort_of_producer found step fewer fun record same => ?_)
    subst same
    exact offered _ record rfl
  | consumer step => exact .inl (Nat.lt_of_le_of_lt most (effort_of_consumer step))
  | begins none =>
    refine .inl (Nat.lt_of_le_of_lt most (effort_others rfl rfl ?_))
    simp only [none, ExecutePhase.efforts, ExecutePhase.effort]
    omega
  | caller only step =>
    rcases effort_of_caller calm started only step with less | polled
    · exact .inl (Nat.lt_of_le_of_lt most less)
    · exact .inr ⟨Nat.le_trans most (Nat.le_of_eq (polled.effort left)), _, rfl, polled⟩

end Executor

/-! ### Records that were not offered yet -/

namespace Assignment

variable {assignment : Assignment ρ α} {history later : History ρ α β}

theorem left_le (offered : ∀ index, later.offeredTo index = history.offeredTo index) :
    assignment.left later ≤ assignment.left history := by
  simp only [left, offered]
  exact Nat.le_refl _

/-- A record that is offered is not left. -/
theorem left_lt {index : Nat} {record : ρ}
    (assigned : (assignment.records index)[(history.offeredTo index).length]? = some record)
    (offered : ∀ other, later.offeredTo other =
      history.offeredTo other ++ if index = other then [record] else []) :
    assignment.left later + 1 ≤ assignment.left history := by
  have more : (history.offeredTo index).length < (assignment.records index).length :=
    (List.getElem?_eq_some_iff.mp assigned).1
  have inside : index < assignment.sources.length := by
    by_cases inside : index < assignment.sources.length
    · exact inside
    · have none : assignment.sources[index]? = none :=
        List.getElem?_eq_none (Nat.le_of_not_lt inside)
      rw [records, none] at more
      contradiction
  apply Nat.succ_le_of_lt
  unfold left
  apply List.sum_lt_sum
  · intro other _
    rw [offered, List.length_append]
    omega
  · refine ⟨index, List.mem_range.mpr inside, ?_⟩
    rw [offered, if_pos rfl, List.length_append, List.length_singleton]
    omega

end Assignment

/-! ### Undisturbed runs -/

def Chronicle.effort (chronicle : Chronicle ρ α β) (assignment : Assignment ρ α) : Nat :=
  chronicle.executor.effort (assignment.left chronicle.history)

theorem Undisturbed.effort_of_step {assignment : Assignment ρ α} {config : ExecutorConfig}
    {hooked : Bool} {chronicle next : Chronicle ρ α β} {event : Executor.Event ρ α β}
    (undisturbed : Undisturbed assignment config hooked chronicle)
    (permitted : assignment.Permits chronicle event) (stepped : chronicle.step event = some next) :
    next.effort assignment < chronicle.effort assignment ∨
      next.effort assignment ≤ chronicle.effort assignment ∧
        ∃ act, event = .executing 0 act ∧ chronicle.executor.Poll act next.executor := by
  have step := undisturbed.calm.step permitted (Chronicle.executor_of_step stepped)
  obtain ⟨executor, moved, rfl⟩ := Option.map_eq_some_iff.mp stepped
  by_cases offers : ∃ index record, event = .producer index (.offered record)
  · obtain ⟨index, record, rfl⟩ := offers
    have less : assignment.left (chronicle.history.extend chronicle.executor.snapshot
        (.producer index (.offered record)) executor.snapshot) + 1 ≤
          assignment.left chronicle.history :=
      Assignment.left_lt permitted.2 fun other => History.offeredTo_extend other
    exact Executor.effort_of_step undisturbed.calm undisturbed.reached.started step
      (Nat.le_of_succ_le less) fun _ _ _ => less
  · have same : assignment.left (chronicle.history.extend chronicle.executor.snapshot event
        executor.snapshot) ≤ assignment.left chronicle.history :=
      Assignment.left_le fun index => History.offeredTo_extend_others
        (fun index record offered => offers ⟨index, record, offered⟩) index
    exact Executor.effort_of_step undisturbed.calm undisturbed.reached.started step same
      fun index record offered => absurd ⟨index, record, offered⟩ offers

end BoundedIngest

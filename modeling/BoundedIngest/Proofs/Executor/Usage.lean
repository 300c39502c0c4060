/-
Module: BoundedIngest.Proofs.Executor.Usage
Purpose: What a step of an executor does to its queue.
Main exports:
  SharedQueue.Used, Executor.used_of_step, Executor.attended_of_run
-/
import BoundedIngest.Executor.Step
import BoundedIngest.Proofs.Queue.Waiting

namespace BoundedIngest

/-!
An executor touches its queue only through the steps of the queue, one at a time.  So what
every step of a queue preserves, every step of an executor does.
-/

variable {ρ α β : Type}

/-- What one step of an executor may do to its queue, the metrics apart. -/
inductive SharedQueue.Used (shared next : SharedQueue α) : Prop
  | untouched (queue : next.queue = shared.queue) (calls : next.calls = shared.calls)
  | stepped (event : SharedQueue.Event α) (middle : SharedQueue α)
      (stepped : shared.step event = some middle) (queue : next.queue = middle.queue)
      (calls : next.calls = middle.calls)
  /-- Somebody new may call. -/
  | joined (queue : next.queue = shared.queue) (calls : next.calls = shared.calls ++ [.idle])

namespace SharedQueue

variable {shared next : SharedQueue α}

theorem Attended.used (attended : shared.Attended) (used : shared.Used next) :
    next.Attended := by
  cases used with
  | untouched queue calls => exact attended.of_same queue calls
  | stepped event middle stepped queue calls =>
    exact (attended.step stepped).of_same queue calls
  | joined queue calls =>
    have same : ∀ test : Call α → Bool, test .idle = false →
        next.calls.countP test = shared.calls.countP test := by
      intro test fails
      rw [calls, List.countP_append]
      simp [fails]
    obtain ⟨positive, room, entry, unfinished, inserts, pulls⟩ := attended
    constructor <;> rw [queue]
    · exact positive
    · rw [same _ rfl, same _ rfl]
      exact room
    · rw [same _ rfl, same _ rfl]
      exact entry
    · rw [same _ rfl]
      exact unfinished
    · rw [same _ rfl, same _ rfl]
      exact inserts
    · rw [same _ rfl, same _ rfl]
      exact pulls

theorem Hinted.used (hinted : shared.Hinted) (used : shared.Used next) : next.Hinted := by
  cases used with
  | untouched queue calls => rwa [Hinted, queue]
  | stepped event middle stepped queue calls =>
    rw [Hinted, queue]
    exact hinted.step stepped
  | joined queue calls => rwa [Hinted, queue]

end SharedQueue

namespace Executor

variable {executor next : Executor ρ α β}

theorem used_of_stepQueue {event : SharedQueue.Event α}
    (stepped : executor.stepQueue event = some next) : executor.shared.Used next.shared := by
  obtain ⟨shared, moved, rfl⟩ := Option.map_eq_some_iff.mp stepped
  exact .stepped event shared moved rfl rfl

/-- A step of the queue and something else. -/
theorem used_of_map {event : SharedQueue.Event α} {change : Executor ρ α β → Executor ρ α β}
    (stepped : (executor.stepQueue event).map change = some next)
    (apart : ∀ middle, (change middle).shared = middle.shared) :
    executor.shared.Used next.shared := by
  obtain ⟨middle, moved, rfl⟩ := Option.map_eq_some_iff.mp stepped
  rw [apart middle]
  exact used_of_stepQueue moved

theorem used_of_takeReply {caller : Nat} {reply : Reply α} {middle : Executor ρ α β}
    (taken : executor.takeReply caller = some (reply, middle))
    (apart : next.shared = middle.shared) : executor.shared.Used next.shared := by
  unfold takeReply at taken
  simp only [Option.bind_eq_bind, Option.bind_eq_some_iff, Option.pure_def,
    Option.some.injEq, Prod.mk.injEq] at taken
  obtain ⟨_, -, _, stepped, -, rfl⟩ := taken
  rw [apart]
  exact used_of_stepQueue stepped

theorem used_of_same (same : next.shared = executor.shared) :
    executor.shared.Used next.shared := by
  rw [same]
  exact .untouched rfl rfl

theorem used_of_stepProducer {index : Nat} {act : ProducerAct ρ α}
    (stepped : executor.stepProducer index act = some next) :
    executor.shared.Used next.shared := by
  unfold stepProducer at stepped
  split at stepped
  · contradiction
  split at stepped
  · cases stepped
    split
    · exact .untouched rfl rfl
    · exact .untouched rfl rfl
  · unfold engageProducer at stepped
    dsimp only at stepped
    split at stepped
    case h_1 => exact used_of_map stepped fun _ => rfl
    case h_2 => exact used_of_stepQueue stepped
    case h_3 => exact used_of_map stepped fun _ => rfl
    case h_4 =>
      split at stepped
      · rename_i taken
        cases stepped
        exact used_of_takeReply taken rfl
      · rename_i taken
        cases stepped
        exact used_of_takeReply taken rfl
      · contradiction
    case h_7 => exact used_of_map stepped fun _ => rfl
    case h_8 =>
      split at stepped
      · rename_i taken
        cases stepped
        exact used_of_takeReply taken rfl
      · contradiction
    case h_10 => exact used_of_map stepped fun _ => rfl
    all_goals first
      | contradiction
      | cases stepped
        exact .untouched rfl rfl

theorem used_of_beginPull (began : executor.beginPull = some next) :
    executor.shared.Used next.shared := used_of_map began fun _ => rfl

theorem used_of_stepConsumer {act : ConsumerAct β}
    (stepped : executor.stepConsumer act = some next) : executor.shared.Used next.shared := by
  unfold stepConsumer at stepped
  split at stepped
  · cases stepped
    split
    · exact .untouched rfl rfl
    · exact .untouched rfl rfl
  · unfold engageConsumer at stepped
    dsimp only at stepped
    split at stepped
    case h_1 => exact used_of_beginPull stepped
    case h_2 =>
      split at stepped
      · rename_i taken
        cases stepped
        exact used_of_takeReply taken rfl
      · rename_i taken
        cases stepped
        exact used_of_takeReply taken rfl
      · contradiction
    case h_3 =>
      have used := used_of_beginPull stepped
      exact used
    case h_6 =>
      cases stepped
      split
      · exact .untouched rfl rfl
      · exact .untouched rfl rfl
    case h_7 => exact used_of_map stepped fun _ => rfl
    case h_8 =>
      split at stepped
      · rename_i taken
        cases stepped
        exact used_of_takeReply taken rfl
      · contradiction
    all_goals first
      | contradiction
      | cases stepped
        exact .untouched rfl rfl

theorem used_of_spawn {worker : Nat} (spawned : executor.spawn worker = some next) :
    executor.shared.Used next.shared := by
  unfold spawn at spawned
  split at spawned
  · cases spawned
    exact .untouched rfl rfl
  · split at spawned
    · cases spawned
      exact .untouched rfl rfl
    · exact used_of_beginPull spawned

theorem shared_abandon {call : Nat} {hasSender : Bool} :
    (executor.abandon call hasSender).shared = executor.shared := by
  unfold abandon
  cases hasSender
  · rfl
  · rfl

/-- Steps that leave the queue alone, one after the other. -/
theorem shared_foldl (change : Executor ρ α β → Nat → Executor ρ α β)
    (apart : ∀ executor worker, (change executor worker).shared = executor.shared)
    (workers : List Nat) : (workers.foldl change executor).shared = executor.shared := by
  induction workers generalizing executor with
  | nil => rfl
  | cons worker rest ih => exact ih.trans (apart executor worker)

theorem shared_raiseFlag (worker : Nat) (raised : Bool) :
    (executor.raiseFlag worker raised).shared = executor.shared := by
  unfold raiseFlag
  split
  · rfl
  · split
    · rfl
    · rfl

theorem shared_takeHandle (executor : Executor ρ α β) (worker : Nat) :
    (executor.takeHandle worker).shared = executor.shared := by
  unfold takeHandle
  split
  · rfl
  · rfl

theorem shared_interruptWorkers : executor.interruptWorkers.shared = executor.shared :=
  shared_foldl _ (fun _ worker => shared_raiseFlag worker true) _

theorem used_of_stepExecute {call : Nat} {act : ExecuteAct}
    (stepped : executor.stepExecute call act = some next) :
    executor.shared.Used next.shared := by
  unfold stepExecute at stepped
  split at stepped
  · contradiction
  dsimp only at stepped
  split at stepped
  case h_6 =>
    split at stepped
    · cases stepped
      exact .untouched rfl rfl
    · split at stepped
      · cases stepped
        exact .untouched rfl rfl
      · obtain ⟨middle, spawned, rfl⟩ := Option.map_eq_some_iff.mp stepped
        have used : executor.shared.Used middle.shared := used_of_spawn spawned
        exact used
  case h_7 =>
    split at stepped
    · cases stepped
      exact .untouched rfl rfl
    · split at stepped
      · cases stepped
        exact .untouched rfl rfl
      · contradiction
  case h_8 | h_15 =>
    split at stepped
    · cases stepped
      exact .untouched rfl rfl
    · contradiction
  case h_14 =>
    cases stepped
    exact .joined rfl rfl
  case h_1 | h_4 =>
    cases stepped
    split
    · exact .untouched rfl rfl
    · exact used_of_same (by first | rfl | exact shared_abandon)
  all_goals first
    | contradiction
    | cases stepped
      exact .untouched rfl rfl

theorem used_of_stepShutdown {call : Nat} (stepped : executor.stepShutdown call = some next) :
    executor.shared.Used next.shared := by
  unfold stepShutdown at stepped
  split at stepped
  · exact used_of_map stepped fun _ => rfl
  · obtain ⟨⟨reply, middle⟩, taken, rfl⟩ := Option.map_eq_some_iff.mp stepped
    exact used_of_takeReply taken rfl
  · split at stepped
    · cases stepped
      exact used_of_same shared_interruptWorkers
    · contradiction
  · cases stepped
    exact .untouched rfl rfl
  · contradiction
  · contradiction

theorem used_of_stepAwait {call : Nat} (stepped : executor.stepAwait call = some next) :
    executor.shared.Used next.shared := by
  unfold stepAwait at stepped
  split at stepped
  · split at stepped
    · cases stepped
      exact used_of_same (shared_foldl _ shared_takeHandle _)
    · contradiction
  · split at stepped
    · cases stepped
      exact .untouched rfl rfl
    · contradiction
  · cases stepped
    exact .untouched rfl rfl
  · contradiction
  · contradiction

theorem used_of_step {event : Event ρ α β} (stepped : executor.step event = some next) :
    executor.shared.Used next.shared := by
  cases event with
  | enterQueue | notifyQueue | reportQueue => exact used_of_stepQueue stepped
  | producer index act => exact used_of_stepProducer stepped
  | consumer act => exact used_of_stepConsumer stepped
  | executing call act => exact used_of_stepExecute stepped
  | shuttingDown call => exact used_of_stepShutdown stepped
  | awaiting call => exact used_of_stepAwait stepped
  | setFlag worker raised =>
    cases stepped
    exact used_of_same (shared_raiseFlag worker raised)
  | execute | await =>
    cases stepped
    exact .untouched rfl rfl
  | shutdown =>
    cases stepped
    exact .joined rfl rfl

/-! ### Every run -/

/-- In every run of an executor, whoever waits in its queue is attended to. -/
theorem attended_of_run {events : List (Event ρ α β)} (attended : executor.shared.Attended)
    (ran : executor.run events = some next) : next.shared.Attended := by
  induction events generalizing executor with
  | nil =>
    cases ran
    exact attended
  | cons event rest ih =>
    obtain ⟨middle, stepped, ran⟩ := Option.bind_eq_some_iff.mp ran
    exact ih (attended.used (used_of_step stepped)) ran

theorem attended_create (config : ExecutorConfig) (hooked : Bool) (kinds : List SourceKind) :
    (create config hooked kinds : Executor ρ α β).shared.Attended :=
  SharedQueue.attended_start config kinds.length (kinds.length + 1)

end Executor

end BoundedIngest

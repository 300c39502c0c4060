/-
Module: BoundedIngest.Proofs.Executor.Office
Purpose: What of an executor its users deal with, and how one step can change it.
Main exports:
  Office, Executor.office, Executor.Serves, Executor.Retreats, OfficeMove,
  Executor.officeMove_of_step, Executor.Willing, Willing.run
-/
import BoundedIngest.Proofs.Executor.Moves

namespace BoundedIngest

/-!
A snapshot shows the work of an executor: its queue, its workers and what they send.  The
office of an executor is the other side: the cells with what a call needs to start, the
lifecycle, the handles of the workers, and the calls that execute or wait for termination.
Workers and calls on the queue never touch it.
-/

structure Office (β : Type) where
  config : ExecutorConfig
  /-- How each source feeds its producer. -/
  kinds : List SourceKind
  lifecycle : Lifecycle
  hasParts : Bool
  hasSender : Bool
  hasReceiver : Bool
  /-- Whose handle was taken, the consumer last. -/
  handles : List Bool
  executes : List (ExecutePhase β)
  awaits : List AwaitPhase
  refuses : Nat → Option String

variable {ρ α β : Type}

namespace Executor

def handles (executor : Executor ρ α β) : List Bool :=
  executor.producers.map (·.joined) ++ [executor.consumer.joined]

def office (executor : Executor ρ α β) : Office β :=
  { config := executor.config
    kinds := executor.producers.map (·.kind)
    lifecycle := executor.lifecycle
    hasParts := executor.hasParts
    hasSender := executor.hasSender
    hasReceiver := executor.hasReceiver
    handles := executor.handles
    executes := executor.executes
    awaits := executor.awaits
    refuses := executor.refuses }

/-- How a call goes on that has spawned everybody, until its outcome is clear. -/
inductive Serves (executor : Executor ρ α β) :
    ExecutePhase β → ExecuteAct → ExecutePhase β → Prop
  | receives (message : Signal β) (sent : message ∈ executor.channel.messages) :
      Serves executor .waiting .proceed (.judging (some message))
  | givesUp (alone : executor.channel.senders = 0) :
      Serves executor .waiting .proceed (.judging none)
  | timesOut : Serves executor .waiting .timeout .checkingFlag
  | interrupted : Serves executor .checkingFlag (.readFlag true) (.settling (.error .aborted))
  | checksFlag : Serves executor .checkingFlag (.readFlag false) .checkingSlot
  | fails (error : ExecError) (failed : executor.failure.toExecError = some error) :
      Serves executor .checkingSlot .proceed (.settling (.error error))
  | checksSlot (empty : executor.failure.toExecError = none) :
      Serves executor .checkingSlot .proceed .waiting
  | judges (signal : Option (Signal β)) :
      Serves executor (.judging signal) .proceed (.settling (executor.judge signal))
  | records (outcome : Except ExecError β) :
      Serves executor (.recording outcome) .proceed (.returned outcome)

/-- How a call goes on that the system refuses a worker, and which lifecycle it leaves. -/
inductive Retreats (executor : Executor ρ α β) :
    ExecutePhase β → ExecutePhase β → Lifecycle → Prop
  | isRefused (worker : Nat) (reason : String)
      (named : threadNamePanic? (executor.workerName worker) = none)
      (refused : executor.refuses worker = some reason) :
      Retreats executor (.spawning worker) (.retreating reason) executor.lifecycle
  | withdraws (reason : String) :
      Retreats executor (.retreating reason)
        (.withdrawing executor.shutdowns.length reason) executor.lifecycle
  | gives (shutdown : Nat) (reason : String)
      (done : executor.shutdowns[shutdown]? = some .returned) :
      Retreats executor (.withdrawing shutdown reason) (.returned (.error (.spawn reason)))
        (executor.lifecycle.settle .failed)

end Executor

namespace Office

def setExecute (office : Office β) (call : Nat) (phase : ExecutePhase β) : Office β :=
  { office with executes := office.executes.set call phase }

def setAwait (office : Office β) (call : Nat) (phase : AwaitPhase) : Office β :=
  { office with awaits := office.awaits.set call phase }

end Office

/-- One step of an executor, as far as its office shows it. -/
inductive OfficeMove (executor : Executor ρ α β) : Executor.Event ρ α β → Office β → Prop
  | still {event : Executor.Event ρ α β} (others : ∀ call act, event ≠ .executing call act) :
      OfficeMove executor event executor.office
  | executes :
      OfficeMove executor .execute
        { executor.office with executes := executor.executes ++ [.entering] }
  | aborts {call : Nat} (was : executor.executes[call]? = some .entering) :
      OfficeMove executor (.executing call (.readFlag true))
        (executor.office.setExecute call (.returned (.error .aborted)))
  | enters {call : Nat} (was : executor.executes[call]? = some .entering) :
      OfficeMove executor (.executing call (.readFlag false))
        (executor.office.setExecute call .takingParts)
  | takesParts {call : Nat} (was : executor.executes[call]? = some .takingParts) :
      OfficeMove executor (.executing call .proceed)
        { executor.office.setExecute call (.takingSender executor.hasParts) with
          hasParts := false }
  | takesSender {call : Nat} (hasParts : Bool)
      (was : executor.executes[call]? = some (.takingSender hasParts)) :
      OfficeMove executor (.executing call .proceed)
        { executor.office.setExecute call (.takingReceiver hasParts executor.hasSender) with
          hasSender := false }
  | takesReceiver {call : Nat} (hasParts hasSender : Bool)
      (was : executor.executes[call]? = some (.takingReceiver hasParts hasSender)) :
      OfficeMove executor (.executing call .proceed)
        { executor.office.setExecute call
            (if hasParts && hasSender && executor.hasReceiver then .starting
              else .returned (.error .alreadyStarted)) with
          hasReceiver := false }
  | starts {call : Nat} (was : executor.executes[call]? = some .starting) :
      OfficeMove executor (.executing call .proceed)
        { executor.office.setExecute call (.spawning 0) with
          lifecycle := executor.lifecycle.settle .running }
  | strands {call : Nat} (worker : Nat) (panic : Panic)
      (was : executor.executes[call]? = some (.spawning worker))
      (unnamed : threadNamePanic? (executor.workerName worker) = some panic) :
      OfficeMove executor (.executing call .proceed)
        (executor.office.setExecute call (.panicked panic))
  | retreats {call : Nat} (old new : ExecutePhase β) (lifecycle : Lifecycle)
      (was : executor.executes[call]? = some old)
      (turn : executor.Retreats old new lifecycle) :
      OfficeMove executor (.executing call .proceed)
        { executor.office.setExecute call new with lifecycle }
  | spawns {call : Nat} (worker : Nat)
      (was : executor.executes[call]? = some (.spawning worker))
      (named : threadNamePanic? (executor.workerName worker) = none)
      (willing : executor.refuses worker = none) :
      OfficeMove executor (.executing call .proceed)
        (executor.office.setExecute call
          (if worker < executor.consumerIndex then .spawning (worker + 1) else .waiting))
  | serves {call : Nat} {act : Executor.ExecuteAct} (old new : ExecutePhase β)
      (was : executor.executes[call]? = some old) (turn : executor.Serves old act new) :
      OfficeMove executor (.executing call act) (executor.office.setExecute call new)
  | settles {call : Nat} (outcome : Except ExecError β)
      (was : executor.executes[call]? = some (.settling outcome)) :
      OfficeMove executor (.executing call .proceed)
        { executor.office.setExecute call (.recording outcome) with
          lifecycle := executor.lifecycle.settle (Executor.classify outcome).1 }
  | cancels {call : Nat} (was : executor.shutdowns[call]? = some .cancelling) :
      OfficeMove executor (.shuttingDown call)
        { executor.office with lifecycle := executor.lifecycle.shutDown }
  | awaits :
      OfficeMove executor .await
        { executor.office with awaits := executor.awaits ++ [.collecting] }
  | collects {call : Nat} (was : executor.awaits[call]? = some .collecting)
      (free : executor.workersFree = true) :
      OfficeMove executor (.awaiting call)
        { executor.office.setAwait call (.joining executor.joinable executor.joinable.length) with
          handles := executor.joinable.foldl (·.set · true) executor.handles }
  | joins {call : Nat} (worker : Nat) (rest : List Nat) (total : Nat)
      (was : executor.awaits[call]? = some (.joining (worker :: rest) total))
      (ended : executor.hasEnded worker = true) :
      OfficeMove executor (.awaiting call)
        (executor.office.setAwait call (.joining rest total))
  | leaves {call : Nat} (total : Nat)
      (was : executor.awaits[call]? = some (.joining [] total)) :
      OfficeMove executor (.awaiting call)
        { executor.office.setAwait call .returned with
          lifecycle := executor.lifecycle.afterJoining total }

namespace Executor

variable {executor next : Executor ρ α β}

/-! ### What the building blocks do to an office -/

theorem office_modify (index : Nat) (change : ProducerWorker ρ → ProducerWorker ρ)
    (kind : ∀ worker, (change worker).kind = worker.kind)
    (joined : ∀ worker, (change worker).joined = worker.joined) :
    ({ executor with producers := executor.producers.modify index change } :
      Executor ρ α β).office = executor.office := by
  simp [office, handles, map_modify_same, kind, joined]

@[simp] theorem office_setProducerPhase (index : Nat) (phase : ProducerPhase ρ) :
    (executor.setProducerPhase index phase).office = executor.office :=
  office_modify index _ (fun _ => rfl) fun _ => rfl

theorem office_setProducer {index : Nat} {old new : ProducerWorker ρ}
    (found : executor.producers[index]? = some old) (kind : new.kind = old.kind)
    (joined : new.joined = old.joined) :
    (executor.setProducer index new).office = executor.office := by
  have kinds : (executor.producers.set index new).map (·.kind) =
      executor.producers.map (·.kind) := map_set_same found kind
  have handles : (executor.producers.set index new).map (·.joined) =
      executor.producers.map (·.joined) := map_set_same found joined
  simp [office, setProducer, Executor.handles, kinds, handles]

@[simp] theorem office_setConsumerPhase (phase : ConsumerPhase α β) :
    (executor.setConsumerPhase phase).office = executor.office := rfl

@[simp] theorem office_setExecute (call : Nat) (phase : ExecutePhase β) :
    (executor.setExecute call phase).office = executor.office.setExecute call phase := rfl

@[simp] theorem office_setShutdown (call : Nat) (phase : ShutdownPhase) :
    (executor.setShutdown call phase).office = executor.office := rfl

@[simp] theorem office_setAwait (call : Nat) (phase : AwaitPhase) :
    (executor.setAwait call phase).office = executor.office.setAwait call phase := rfl

@[simp] theorem office_record (measurement : Measurement) :
    (executor.record measurement).office = executor.office := rfl

@[simp] theorem office_containPanic (stage : Stage) (panic : Panic) :
    (executor.containPanic stage panic).office = executor.office := rfl

theorem office_stepQueue {event : SharedQueue.Event α}
    (stepped : executor.stepQueue event = some next) : next.office = executor.office := by
  obtain ⟨shared, -, rfl⟩ := shared_of_stepQueue stepped
  rfl

theorem office_takeReply {caller : Nat} {reply : Reply α}
    (taken : executor.takeReply caller = some (reply, next)) :
    next.office = executor.office ∧ next.producers = executor.producers := by
  unfold takeReply at taken
  simp only [Option.bind_eq_bind, Option.bind_eq_some_iff, Option.pure_def,
    Option.some.injEq, Prod.mk.injEq] at taken
  obtain ⟨_, -, _, stepped, -, rfl⟩ := taken
  obtain ⟨shared, -, rfl⟩ := shared_of_stepQueue stepped
  exact ⟨rfl, rfl⟩

theorem office_beginPull (began : executor.beginPull = some next) :
    next.office = executor.office := by
  obtain ⟨middle, pulled, rfl⟩ := Option.map_eq_some_iff.mp began
  exact (office_setConsumerPhase _).trans (office_stepQueue pulled)

theorem office_raiseFlag (worker : Nat) (raised : Bool) :
    (executor.raiseFlag worker raised).office = executor.office := by
  unfold raiseFlag
  split
  · exact office_modify _ _ (fun _ => rfl) fun _ => rfl
  · split <;> rfl

theorem office_foldl (change : Executor ρ α β → Nat → Executor ρ α β)
    (same : ∀ (executor : Executor ρ α β) worker,
      (change executor worker).office = executor.office) (workers : List Nat) :
    (workers.foldl change executor).office = executor.office := by
  induction workers generalizing executor with
  | nil => rfl
  | cons worker rest ih => rw [List.foldl_cons, ih, same]

theorem office_interruptWorkers : executor.interruptWorkers.office = executor.office :=
  office_foldl _ (fun _ worker => office_raiseFlag worker true) _

/-! ### Workers -/

theorem office_stepProducer {index : Nat} {act : ProducerAct ρ α}
    (stepped : executor.stepProducer index act = some next) : next.office = executor.office := by
  unfold stepProducer at stepped
  split at stepped
  · contradiction
  rename_i worker found
  split at stepped
  · cases stepped
    split
    · exact (office_containPanic _ _).trans (office_setProducerPhase _ _)
    · exact office_setProducerPhase _ _
  · unfold engageProducer at stepped
    dsimp only at stepped
    split at stepped
    case h_1 | h_7 | h_10 =>
      obtain ⟨middle, moved, rfl⟩ := Option.map_eq_some_iff.mp stepped
      exact (office_setProducerPhase _ _).trans (office_stepQueue moved)
    case h_2 => exact office_stepQueue stepped
    case h_3 =>
      obtain ⟨middle, moved, rfl⟩ := Option.map_eq_some_iff.mp stepped
      exact (office_containPanic _ _).trans
        ((office_setProducerPhase _ _).trans (office_stepQueue moved))
    case h_4 =>
      split at stepped
      · rename_i middle taken
        cases stepped
        obtain ⟨same, producers⟩ := office_takeReply taken
        rw [← producers] at found
        rw [office_setProducer found, same]
        · rfl
        · rfl
      · rename_i middle taken
        cases stepped
        exact (office_setProducerPhase _ _).trans (office_takeReply taken).1
      · contradiction
    case h_8 =>
      split at stepped
      · rename_i middle taken
        cases stepped
        exact (office_setProducerPhase _ _).trans (office_takeReply taken).1
      · contradiction
    case h_5 =>
      cases stepped
      exact (office_record _).trans (office_setProducerPhase _ _)
    case h_6 | h_9 =>
      cases stepped
      show (executor.setProducerPhase index _).office = executor.office
      exact office_setProducerPhase _ _
    case h_11 => contradiction

theorem office_stepConsumer {act : ConsumerAct β}
    (stepped : executor.stepConsumer act = some next) : next.office = executor.office := by
  unfold stepConsumer at stepped
  split at stepped
  · cases stepped
    split <;> rfl
  · unfold engageConsumer at stepped
    dsimp only at stepped
    split at stepped
    case h_1 => exact office_beginPull stepped
    case h_2 =>
      split at stepped
      · rename_i taken
        cases stepped
        exact (office_takeReply taken).1
      · rename_i taken
        cases stepped
        exact (office_takeReply taken).1
      · contradiction
    case h_3 => exact (office_beginPull stepped).trans rfl
    case h_6 =>
      cases stepped
      split <;> rfl
    case h_7 =>
      obtain ⟨middle, moved, rfl⟩ := Option.map_eq_some_iff.mp stepped
      exact (office_setConsumerPhase _).trans (office_stepQueue moved)
    case h_8 =>
      split at stepped
      · rename_i taken
        cases stepped
        exact (office_takeReply taken).1
      · contradiction
    case h_10 => contradiction
    all_goals
      cases stepped
      rfl

/-! ### Calls that execute -/

theorem office_spawn {worker : Nat} (spawned : executor.spawn worker = some next) :
    next.office = executor.office := by
  unfold spawn at spawned
  split at spawned
  · cases spawned
    exact office_setProducerPhase _ _
  · split at spawned
    · cases spawned
      rfl
    · exact office_beginPull spawned

theorem office_abandon (call : Nat) (hasSender : Bool) :
    (executor.abandon call hasSender).office =
      executor.office.setExecute call (.returned (.error .alreadyStarted)) := by
  unfold abandon
  cases hasSender <;> rfl

/-- Spawning a worker, being refused one, or panicking at its name. -/
theorem officeMove_of_spawning {call worker : Nat}
    (was : executor.executes[call]? = some (.spawning worker))
    (stepped : executor.stepExecute call .proceed = some next) :
    OfficeMove executor (.executing call .proceed) next.office := by
  simp only [stepExecute, was] at stepped
  split at stepped
  · rename_i panic unnamed
    cases stepped
    exact .strands worker panic was unnamed
  · rename_i named
    split at stepped
    · rename_i reason refused
      cases stepped
      exact .retreats _ _ _ was (.isRefused worker reason named refused)
    · rename_i willing
      obtain ⟨middle, spawned, rfl⟩ := Option.map_eq_some_iff.mp stepped
      rw [office_setExecute, office_spawn spawned]
      exact .spawns worker was named willing

/-- The channel serves a call that waits, until the wait is over. -/
theorem officeMove_of_waiting {call : Nat} {act : ExecuteAct}
    (was : executor.executes[call]? = some .waiting)
    (stepped : executor.stepExecute call act = some next) :
    OfficeMove executor (.executing call act) next.office := by
  simp only [stepExecute, was] at stepped
  cases act with
  | proceed =>
    dsimp only at stepped
    split at stepped
    · rename_i message rest front
      cases stepped
      exact .serves _ _ was (.receives message (by simp [front]))
    · split at stepped
      · rename_i alone
        cases stepped
        exact .serves _ _ was (.givesUp alone)
      · contradiction
  | timeout =>
    dsimp only at stepped
    split at stepped
    · cases stepped
      exact .serves _ _ was .timesOut
    · contradiction
  | readFlag raised => contradiction

theorem officeMove_of_stepExecute {call : Nat} {act : ExecuteAct}
    (stepped : executor.stepExecute call act = some next) :
    OfficeMove executor (.executing call act) next.office := by
  have whole := stepped
  unfold stepExecute at stepped
  split at stepped
  · contradiction
  rename_i old was
  dsimp only at stepped
  split at stepped
  case h_1 raised =>
    cases stepped
    cases raised
    · exact .enters was
    · exact .aborts was
  case h_2 =>
    cases stepped
    exact .takesParts was
  case h_3 hasParts =>
    cases stepped
    exact .takesSender hasParts was
  case h_4 hasParts hasSender =>
    cases stepped
    have moved := OfficeMove.takesReceiver hasParts hasSender was
    by_cases complete : (hasParts && hasSender && executor.hasReceiver) = true
    · rw [if_pos complete] at moved ⊢
      exact moved
    · rw [if_neg complete] at moved ⊢
      rw [office_abandon]
      exact moved
  case h_5 =>
    cases stepped
    exact .starts was
  case h_6 worker => exact officeMove_of_spawning was whole
  case h_7 | h_8 => exact officeMove_of_waiting was whole
  case h_9 raised =>
    cases stepped
    cases raised
    · exact .serves _ _ was .checksFlag
    · exact .serves _ _ was .interrupted
  case h_10 =>
    cases stepped
    split
    · rename_i error failed
      exact .serves _ _ was (.fails error failed)
    · rename_i empty
      exact .serves _ _ was (.checksSlot empty)
  case h_11 signal =>
    cases stepped
    exact .serves _ _ was (.judges signal)
  case h_12 outcome =>
    cases stepped
    exact .settles outcome was
  case h_13 outcome =>
    cases stepped
    exact .serves _ _ was (.records outcome)
  case h_14 reason =>
    cases stepped
    exact .retreats _ _ _ was (.withdraws reason)
  case h_15 shutdown reason =>
    split at stepped
    · rename_i done
      cases stepped
      exact .retreats _ _ _ was (.gives shutdown reason done)
    · contradiction
  case h_16 => contradiction

/-! ### Shutdowns and waiting for termination -/

theorem officeMove_of_stepShutdown {call : Nat} (stepped : executor.stepShutdown call = some next) :
    OfficeMove executor (.shuttingDown call) next.office := by
  have still : next.office = executor.office →
      OfficeMove executor (.shuttingDown call) next.office := by
    intro same
    rw [same]
    exact .still (by simp)
  unfold stepShutdown at stepped
  split at stepped
  · obtain ⟨middle, closed, rfl⟩ := Option.map_eq_some_iff.mp stepped
    exact still ((office_setShutdown _ _).trans (office_stepQueue closed))
  · obtain ⟨⟨reply, middle⟩, taken, rfl⟩ := Option.map_eq_some_iff.mp stepped
    exact still (office_takeReply taken).1
  · split at stepped
    · cases stepped
      exact still office_interruptWorkers
    · contradiction
  · rename_i was
    cases stepped
    exact .cancels was
  · contradiction
  · contradiction

theorem map_joined_modify (producers : List (ProducerWorker ρ)) (index : Nat) :
    (producers.modify index fun worker => { worker with joined := true }).map (·.joined) =
      (producers.map (·.joined)).set index true := by
  induction producers generalizing index with
  | nil => simp
  | cons worker rest ih =>
    cases index with
    | zero => simp
    | succ index => simp [ih]

theorem office_takeHandle {worker : Nat} (inside : worker ≤ executor.consumerIndex) :
    (executor.takeHandle worker).office =
      { executor.office with handles := executor.handles.set worker true } := by
  unfold takeHandle
  by_cases producer : worker < executor.consumerIndex
  · rw [if_pos producer]
    have short : worker < (executor.producers.map (·.joined)).length := by
      simpa [consumerIndex] using producer
    have kinds : (executor.producers.modify worker fun producer =>
        { producer with joined := true }).map (·.kind) = executor.producers.map (·.kind) :=
      map_modify_same _ _ _ _ fun _ => rfl
    simp [office, handles, map_joined_modify, kinds, List.set_append_left _ _ short]
  · rw [if_neg producer]
    obtain rfl : worker = executor.consumerIndex := by omega
    simp [office, handles, consumerIndex, List.set_append_right]

theorem consumerIndex_takeHandle (worker : Nat) :
    (executor.takeHandle worker).consumerIndex = executor.consumerIndex := by
  unfold takeHandle
  split
  · simp [consumerIndex]
  · rfl

theorem office_takeHandles {workers : List Nat}
    (inside : ∀ worker ∈ workers, worker ≤ executor.consumerIndex) :
    (workers.foldl takeHandle executor).office =
      { executor.office with handles := workers.foldl (·.set · true) executor.handles } := by
  induction workers generalizing executor with
  | nil => rfl
  | cons worker rest ih =>
    have first := office_takeHandle (inside worker List.mem_cons_self)
    have handles : (executor.takeHandle worker).handles = executor.handles.set worker true :=
      congrArg Office.handles first
    rw [List.foldl_cons, ih fun other found => ?_, first, handles]
    · rfl
    · rw [consumerIndex_takeHandle]
      exact inside other (List.mem_cons_of_mem _ found)

theorem le_of_joinable {worker : Nat} (found : worker ∈ executor.joinable) :
    worker ≤ executor.consumerIndex :=
  Nat.le_of_lt_succ (List.mem_range.mp (List.mem_filter.mp found).1)

theorem officeMove_of_stepAwait {call : Nat} (stepped : executor.stepAwait call = some next) :
    OfficeMove executor (.awaiting call) next.office := by
  unfold stepAwait at stepped
  split at stepped
  · rename_i was
    split at stepped
    · rename_i free
      cases stepped
      rw [office_setAwait, office_takeHandles fun _ => le_of_joinable]
      exact .collects was free
    · contradiction
  · rename_i worker rest total was
    split at stepped
    · rename_i ended
      cases stepped
      exact .joins worker rest total was ended
    · contradiction
  · rename_i total was
    cases stepped
    exact .leaves total was
  · contradiction
  · contradiction

/-! ### All steps -/

/-- Every step of an executor is a move of its office. -/
theorem officeMove_of_step {event : Event ρ α β} (stepped : executor.step event = some next) :
    OfficeMove executor event next.office := by
  have still : (∀ call act, event ≠ .executing call act) → next.office = executor.office →
      OfficeMove executor event next.office := by
    intro others same
    rw [same]
    exact .still others
  cases event with
  | enterQueue | notifyQueue | reportQueue => exact still (by simp) (office_stepQueue stepped)
  | producer index act => exact still (by simp) (office_stepProducer stepped)
  | consumer act => exact still (by simp) (office_stepConsumer stepped)
  | setFlag worker raised =>
    cases stepped
    exact still (by simp) (office_raiseFlag worker raised)
  | execute =>
    cases stepped
    exact .executes
  | executing call act => exact officeMove_of_stepExecute stepped
  | shutdown =>
    cases stepped
    exact still (by simp) rfl
  | shuttingDown call => exact officeMove_of_stepShutdown stepped
  | await =>
    cases stepped
    exact .awaits
  | awaiting call => exact officeMove_of_stepAwait stepped

end Executor

/-! ### What every office keeps -/

theorem OfficeMove.config {event : Executor.Event ρ α β} {executor : Executor ρ α β}
    {office : Office β} (move : OfficeMove executor event office) :
    office.config = executor.config := by
  cases move <;> rfl

/-- Nobody exchanges a source. -/
theorem OfficeMove.kinds {event : Executor.Event ρ α β} {executor : Executor ρ α β}
    {office : Office β} (move : OfficeMove executor event office) :
    office.kinds = executor.producers.map (·.kind) := by
  cases move <;> rfl

/-- What the system answers does not change. -/
theorem OfficeMove.refuses {event : Executor.Event ρ α β} {executor : Executor ρ α β}
    {office : Office β} (move : OfficeMove executor event office) :
    office.refuses = executor.refuses := by
  cases move <;> rfl

theorem Executor.consumerIndex_of_step {event : Executor.Event ρ α β}
    {executor next : Executor ρ α β} (stepped : executor.step event = some next) :
    next.consumerIndex = executor.consumerIndex := by
  have same := congrArg List.length (officeMove_of_step stepped).kinds
  simpa [office, consumerIndex] using same

/-! ### If the system starts every worker -/

/-- The call was refused a worker and has not come back from that yet. -/
def ExecutePhase.isRetreating : ExecutePhase β → Bool
  | .retreating _ | .withdrawing .. => true
  | _ => false

namespace Executor

variable {executor next final : Executor ρ α β} {call : Nat} {old new : ExecutePhase β}
  {lifecycle : Lifecycle} {event : Event ρ α β}

/-- The system starts every worker, and nobody was refused one. -/
structure Willing (executor : Executor ρ α β) : Prop where
  starts : ∀ worker, executor.refuses worker = none
  steady : ∀ phase ∈ executor.executes, phase.isRetreating = false

theorem Willing.not_retreats (willing : executor.Willing)
    (was : executor.executes[call]? = some old) (turn : executor.Retreats old new lifecycle) :
    False := by
  have steady := willing.steady old (List.mem_of_getElem? was)
  cases turn with
  | isRefused worker reason named refused =>
    rw [willing.starts worker] at refused
    contradiction
  | withdraws | gives => contradiction

theorem Serves.steady {act : ExecuteAct} (turn : executor.Serves old act new) :
    new.isRetreating = false := by
  cases turn <;> rfl

/-- Then nobody ever is. -/
theorem Willing.step (willing : executor.Willing) (stepped : executor.step event = some next) :
    next.Willing := by
  have move := officeMove_of_step stepped
  have refuses : next.refuses = executor.refuses := move.refuses
  refine ⟨fun worker => refuses ▸ willing.starts worker, ?_⟩
  generalize seen : next.office = office at move
  have executes : next.executes = office.executes := congrArg Office.executes seen
  have goesOn : ∀ {call : Nat} {new : ExecutePhase β}, new.isRetreating = false →
      office.executes = executor.executes.set call new →
      ∀ phase ∈ next.executes, phase.isRetreating = false := by
    intro call new steady same phase found
    rw [executes, same] at found
    rcases List.mem_or_eq_of_mem_set found with before | rfl
    · exact willing.steady phase before
    · exact steady
  cases move with
  | still | cancels | awaits | collects | joins | leaves => exact executes ▸ willing.steady
  | executes =>
    intro phase found
    rw [executes] at found
    rcases List.mem_append.mp found with before | new
    · exact willing.steady phase before
    · rw [List.mem_singleton.mp new]
      rfl
  | aborts | enters | takesParts | takesSender | starts | strands | settles =>
    exact goesOn rfl rfl
  | takesReceiver | spawns =>
    refine goesOn ?_ rfl
    split <;> rfl
  | serves old new was turn => exact goesOn turn.steady rfl
  | retreats old new lifecycle was turn => exact (willing.not_retreats was turn).elim

theorem Willing.run {events : List (Event ρ α β)} (willing : executor.Willing)
    (ran : executor.run events = some final) : final.Willing := by
  induction events generalizing executor with
  | nil =>
    cases ran
    exact willing
  | cons event rest ih =>
    obtain ⟨middle, stepped, ran⟩ := Option.bind_eq_some_iff.mp ran
    exact ih (willing.step stepped) ran

theorem willing_create (config : ExecutorConfig) (hooked : Bool) (kinds : List SourceKind) :
    (create config hooked kinds : Executor ρ α β).Willing := by
  refine ⟨fun worker => rfl, fun phase found => ?_⟩
  contradiction

end Executor

end BoundedIngest

/-
Module: BoundedIngest.Proofs.Executor.Senders
Purpose: The channel of an executor is never disconnected.
Main exports:
  ExecutePhase.holdsSender, ConsumerPhase.isRunning, Executor.Connected,
  Executor.connected_of_run
-/
import BoundedIngest.Proofs.Executor.Office
import BoundedIngest.Proofs.Executor.Lifetimes

namespace BoundedIngest

/-!
One sender belongs to the failure slot and stays with it.  The other one goes from its cell to
the call that empties the cell, and from there to the consumer, unless it is dropped on the
way.  So whoever waits for a signal never learns that none can come.
-/

variable {ρ α β : Type}

/-- The call has the sender that is meant for the consumer. -/
def ExecutePhase.holdsSender : ExecutePhase β → Bool
  | .takingReceiver _ hasSender => hasSender
  | .starting | .spawning _ => true
  | _ => false

/-- The consumer has its sender. -/
def ConsumerPhase.isRunning : ConsumerPhase α β → Bool
  | .unborn | .ended => false
  | _ => true

namespace Executor

/-- How many senders there are beside the one of the failure slot. -/
def holders (executor : Executor ρ α β) : Nat :=
  executor.hasSender.toNat + executor.executes.countP ExecutePhase.holdsSender +
    executor.consumer.phase.isRunning.toNat

/-- Nobody who has a sender is forgotten, and neither is the failure slot. -/
def Connected (executor : Executor ρ α β) : Prop :=
  executor.holders + 1 ≤ executor.channel.senders

variable {executor next : Executor ρ α β}

/-! ### What leaves the channel alone -/

theorem channel_stepQueue {event : SharedQueue.Event α}
    (stepped : executor.stepQueue event = some next) : next.channel = executor.channel := by
  obtain ⟨shared, -, rfl⟩ := shared_of_stepQueue stepped
  rfl

theorem channel_takeReply {caller : Nat} {reply : Reply α}
    (taken : executor.takeReply caller = some (reply, next)) :
    next.channel = executor.channel := by
  unfold takeReply at taken
  simp only [Option.bind_eq_bind, Option.bind_eq_some_iff, Option.pure_def,
    Option.some.injEq, Prod.mk.injEq] at taken
  obtain ⟨_, -, _, stepped, -, rfl⟩ := taken
  exact channel_stepQueue stepped

theorem channel_beginPull (began : executor.beginPull = some next) :
    next.channel = executor.channel ∧ next.consumer.phase = .pulling := by
  obtain ⟨middle, pulled, rfl⟩ := Option.map_eq_some_iff.mp began
  have same := channel_stepQueue pulled
  exact ⟨same, rfl⟩

theorem channel_foldl (change : Executor ρ α β → Nat → Executor ρ α β)
    (same : ∀ (executor : Executor ρ α β) worker,
      (change executor worker).channel = executor.channel) (workers : List Nat) :
    (workers.foldl change executor).channel = executor.channel := by
  induction workers generalizing executor with
  | nil => rfl
  | cons worker rest ih => rw [List.foldl_cons, ih, same]

theorem channel_raiseFlag (worker : Nat) (raised : Bool) :
    (executor.raiseFlag worker raised).channel = executor.channel := by
  unfold raiseFlag
  split
  · rfl
  · split <;> rfl

theorem channel_takeHandle (worker : Nat) :
    (executor.takeHandle worker).channel = executor.channel := by
  unfold takeHandle
  split <;> rfl

theorem channel_stepShutdown {call : Nat} (stepped : executor.stepShutdown call = some next) :
    next.channel = executor.channel := by
  unfold stepShutdown at stepped
  split at stepped
  · obtain ⟨middle, closed, rfl⟩ := Option.map_eq_some_iff.mp stepped
    have same := channel_stepQueue closed
    exact same
  · obtain ⟨⟨reply, middle⟩, taken, rfl⟩ := Option.map_eq_some_iff.mp stepped
    have same := channel_takeReply taken
    exact same
  · split at stepped
    · cases stepped
      exact channel_foldl _ (fun _ worker => channel_raiseFlag worker true) _
    · contradiction
  · cases stepped
    rfl
  · contradiction
  · contradiction

theorem channel_stepAwait {call : Nat} (stepped : executor.stepAwait call = some next) :
    next.channel = executor.channel := by
  unfold stepAwait at stepped
  split at stepped
  · split at stepped
    · cases stepped
      exact channel_foldl _ (fun _ worker => channel_takeHandle worker) _
    · contradiction
  · split at stepped
    · cases stepped
      rfl
    · contradiction
  · cases stepped
    rfl
  · contradiction
  · contradiction

/-! ### Workers -/

/-- A producer sends by the sender of the failure slot, and drops none. -/
theorem senders_stepProducer {index : Nat} {act : ProducerAct ρ α}
    (stepped : executor.stepProducer index act = some next) :
    next.channel.senders = executor.channel.senders := by
  unfold stepProducer at stepped
  split at stepped
  · contradiction
  split at stepped
  · cases stepped
    split <;> rfl
  · unfold engageProducer at stepped
    dsimp only at stepped
    split at stepped
    case h_1 | h_3 | h_7 | h_10 =>
      obtain ⟨middle, moved, rfl⟩ := Option.map_eq_some_iff.mp stepped
      have same := channel_stepQueue moved
      exact congrArg Channel.senders same
    case h_2 => exact congrArg Channel.senders (channel_stepQueue stepped)
    case h_4 =>
      split at stepped
      · rename_i taken
        cases stepped
        have same := channel_takeReply taken
        exact congrArg Channel.senders same
      · rename_i taken
        cases stepped
        have same := channel_takeReply taken
        exact congrArg Channel.senders same
      · contradiction
    case h_8 =>
      split at stepped
      · rename_i taken
        cases stepped
        have same := channel_takeReply taken
        exact congrArg Channel.senders same
      · contradiction
    case h_5 | h_6 | h_9 =>
      cases stepped
      rfl
    case h_11 => contradiction

/-- A consumer drops its sender only when it ends. -/
theorem senders_stepConsumer {act : ConsumerAct β}
    (stepped : executor.stepConsumer act = some next) :
    next.consumer.phase.isRunning.toNat + executor.channel.senders ≤
      next.channel.senders + 1 := by
  have keeps : next.channel.senders = executor.channel.senders →
      next.consumer.phase.isRunning.toNat + executor.channel.senders ≤
        next.channel.senders + 1 := by
    intro same
    have one := Bool.toNat_le next.consumer.phase.isRunning
    omega
  have ends : next.channel.senders = executor.channel.senders - 1 →
      next.consumer.phase = .ended →
      next.consumer.phase.isRunning.toNat + executor.channel.senders ≤
        next.channel.senders + 1 := by
    intro less ended
    rw [less, ended]
    simp only [ConsumerPhase.isRunning, Bool.toNat_false]
    omega
  unfold stepConsumer at stepped
  split at stepped
  · cases stepped
    refine keeps ?_
    split <;> rfl
  · unfold engageConsumer at stepped
    dsimp only at stepped
    split at stepped
    case h_1 => exact keeps (congrArg Channel.senders (channel_beginPull stepped).1)
    case h_2 =>
      split at stepped
      · rename_i taken
        cases stepped
        have same := channel_takeReply taken
        exact keeps (congrArg Channel.senders same)
      · rename_i taken
        cases stepped
        have same := channel_takeReply taken
        exact keeps (congrArg Channel.senders same)
      · contradiction
    case h_3 => exact keeps (congrArg Channel.senders (channel_beginPull stepped).1)
    case h_4 =>
      cases stepped
      exact keeps rfl
    case h_5 | h_9 =>
      cases stepped
      exact ends rfl rfl
    case h_6 =>
      split at stepped
      · cases stepped
        exact keeps rfl
      · cases stepped
        exact ends rfl rfl
    case h_7 =>
      obtain ⟨middle, moved, rfl⟩ := Option.map_eq_some_iff.mp stepped
      have same := channel_stepQueue moved
      exact keeps (congrArg Channel.senders same)
    case h_8 =>
      split at stepped
      · rename_i taken
        cases stepped
        have same := channel_takeReply taken
        exact keeps (congrArg Channel.senders same)
      · contradiction
    case h_10 => contradiction

/-! ### What every step keeps -/

/-- The hands through which the second sender goes, but for the consumer. -/
theorem holders_of_office {event : Event ρ α β} (stepped : executor.step event = some next)
    (others : ∀ call act, event ≠ .executing call act) :
    next.hasSender = executor.hasSender ∧
      next.executes.countP ExecutePhase.holdsSender =
        executor.executes.countP ExecutePhase.holdsSender := by
  have move := officeMove_of_step stepped
  generalize seen : next.office = office at move
  have executes : next.executes = office.executes := congrArg Office.executes seen
  have sender : next.hasSender = office.hasSender := congrArg Office.hasSender seen
  rw [executes, sender]
  cases move with
  | still | cancels | awaits | collects | joins | leaves => exact ⟨rfl, rfl⟩
  | executes =>
    refine ⟨rfl, ?_⟩
    rw [List.countP_append]
    rfl
  | aborts | enters | takesParts | takesSender | takesReceiver | starts | strands | spawns
  | serves | settles | retreats => exact absurd rfl (others _ _)

/-- A step of somebody other than the consumer and the calls that execute. -/
theorem connected_of_others {event : Event ρ α β} (connected : executor.Connected)
    (stepped : executor.step event = some next)
    (others : ∀ call act, event ≠ .executing call act) (apart : ∀ act, event ≠ .consumer act) :
    next.Connected := by
  have senders : next.channel.senders = executor.channel.senders := by
    cases event with
    | enterQueue | notifyQueue | reportQueue =>
      exact congrArg Channel.senders (channel_stepQueue stepped)
    | producer index act => exact senders_stepProducer stepped
    | consumer act => exact absurd rfl (apart act)
    | setFlag worker raised =>
      cases stepped
      exact congrArg Channel.senders (channel_raiseFlag worker raised)
    | executing call act => exact absurd rfl (others call act)
    | execute | shutdown | await =>
      cases stepped
      rfl
    | shuttingDown call => exact congrArg Channel.senders (channel_stepShutdown stepped)
    | awaiting call => exact congrArg Channel.senders (channel_stepAwait stepped)
  have consumer : next.consumer.phase = executor.consumer.phase := by
    have move := move_of_step stepped
    have same : next.snapshot.consumer = executor.snapshot.consumer := by
      generalize next.snapshot = after at move
      cases move with
      | queue move => exact move.frame.consumer
      | producer move => exact move.frame.consumer
      | consumer move => exact absurd rfl (apart _)
      | caller move => exact absurd rfl (others _ _)
      | user mine move => exact move.frame.consumer
      | still => rfl
    exact same
  obtain ⟨sender, held⟩ := holders_of_office stepped others
  rw [Connected, holders, senders, sender, held, consumer]
  exact connected

/-- The consumer goes on, and gives its sender back at most when it ends. -/
theorem connected_of_consumer {act : ConsumerAct β} (connected : executor.Connected)
    (stepped : executor.step (.consumer act) = some next) : next.Connected := by
  have spent := senders_stepConsumer stepped
  obtain ⟨sender, held⟩ := holders_of_office stepped (by simp)
  have running : executor.consumer.phase.isRunning = true := by
    have move := move_of_step stepped
    generalize next.snapshot = after at move
    cases move with
    | consumer move =>
      have unborn : executor.consumer.phase ≠ .unborn := move.frame.alive
      have ended : executor.consumer.phase ≠ .ended := move.alive.1
      cases phase : executor.consumer.phase <;> first | rfl | contradiction
    | user mine move => simp at mine
    | still others => exact absurd rfl (others act)
  have before := connected
  rw [Connected, holders, running, Bool.toNat_true] at before
  rw [Connected, holders, sender, held]
  omega

/-- A call that executes goes on and passes the sender on, or drops it. -/
theorem Connected.exchange {call : Nat} {old new : ExecutePhase β}
    (connected : executor.Connected) (was : executor.executes[call]? = some old)
    (executes : next.executes = executor.executes.set call new)
    (balance : next.hasSender.toNat + new.holdsSender.toNat +
        next.consumer.phase.isRunning.toNat + executor.channel.senders ≤
      executor.hasSender.toNat + old.holdsSender.toNat +
        executor.consumer.phase.isRunning.toNat + next.channel.senders) : next.Connected := by
  have counted := countP_set_add ExecutePhase.holdsSender new was
  rw [Connected, holders] at connected ⊢
  rw [executes]
  omega

/-- A call spawns a worker, and gives the sender to the consumer. -/
theorem connected_of_spawn {call worker : Nat} {middle : Executor ρ α β}
    (connected : executor.Connected) (was : executor.executes[call]? = some (.spawning worker))
    (spawned : executor.spawn worker = some middle) :
    (middle.setExecute call (if worker < executor.consumerIndex then .spawning (worker + 1)
      else .waiting)).Connected := by
  have office := office_spawn spawned
  have executes : middle.executes = executor.executes := congrArg Office.executes office
  have sender : middle.hasSender = executor.hasSender := congrArg Office.hasSender office
  refine connected.exchange was (congrArg (List.set · call _) executes) ?_
  simp only [setExecute]
  rw [sender]
  unfold spawn at spawned
  by_cases further : worker < executor.consumerIndex
  · rw [if_pos further] at spawned ⊢
    cases spawned
    exact Nat.le_refl _
  · rw [if_neg further] at spawned ⊢
    have one := Bool.toNat_le middle.consumer.phase.isRunning
    have channel : middle.channel = executor.channel := by
      split at spawned
      · cases spawned
        rfl
      · exact (channel_beginPull spawned).1
    rw [channel]
    simp only [ExecutePhase.holdsSender, Bool.toNat_false, Bool.toNat_true]
    omega

/-- A call that did not get everything drops the sender, if it got that. -/
theorem connected_of_abandon {call : Nat} {hasParts hasSender : Bool}
    (connected : executor.Connected)
    (was : executor.executes[call]? = some (.takingReceiver hasParts hasSender)) :
    ({ executor with hasReceiver := false }.abandon call hasSender).Connected := by
  cases hasSender with
  | true =>
    refine connected.exchange was rfl ?_
    simp only [abandon, setExecute, Channel.hangUp, ExecutePhase.holdsSender, if_true,
      Bool.toNat_false, Bool.toNat_true]
    omega
  | false => exact connected.exchange was rfl (Nat.le_refl _)

theorem connected_of_executing {call : Nat} {act : ExecuteAct} (connected : executor.Connected)
    (stepped : executor.step (.executing call act) = some next) : next.Connected := by
  have executing : executor.stepExecute call act = some next := stepped
  unfold stepExecute at executing
  split at executing
  · contradiction
  rename_i old was
  dsimp only at executing
  split at executing
  case h_1 raised | h_9 raised =>
    cases executing
    cases raised <;> exact connected.exchange was rfl (Nat.le_refl _)
  case h_2 | h_5 | h_11 | h_12 | h_13 | h_14 =>
    cases executing
    exact connected.exchange was rfl (Nat.le_refl _)
  case h_3 hasParts =>
    cases executing
    refine connected.exchange was rfl ?_
    simp only [setExecute, ExecutePhase.holdsSender, Bool.toNat_false]
    omega
  case h_4 hasParts hasSender =>
    split at executing
    · rename_i complete
      cases executing
      rw [Bool.and_eq_true, Bool.and_eq_true] at complete
      rw [complete.1.2] at was
      exact connected.exchange was rfl (Nat.le_refl _)
    · cases executing
      exact connected_of_abandon connected was
  case h_6 worker =>
    split at executing
    · cases executing
      refine connected.exchange was rfl ?_
      simp only [setExecute, Channel.hangUp, ExecutePhase.holdsSender, Bool.toNat_false,
        Bool.toNat_true]
      omega
    · split at executing
      · cases executing
        refine connected.exchange was rfl ?_
        simp only [setExecute, Channel.hangUp, ExecutePhase.holdsSender, Bool.toNat_false,
          Bool.toNat_true]
        omega
      · obtain ⟨middle, spawned, rfl⟩ := Option.map_eq_some_iff.mp executing
        exact connected_of_spawn connected was spawned
  case h_7 =>
    split at executing
    · cases executing
      exact connected.exchange was rfl (Nat.le_refl _)
    · split at executing
      · cases executing
        exact connected.exchange was rfl (Nat.le_refl _)
      · contradiction
  case h_8 | h_15 =>
    split at executing
    · cases executing
      exact connected.exchange was rfl (Nat.le_refl _)
    · contradiction
  case h_10 =>
    cases executing
    refine connected.exchange was rfl ?_
    split <;> exact Nat.le_refl _
  case h_16 => contradiction

theorem connected_of_step {event : Event ρ α β} (connected : executor.Connected)
    (stepped : executor.step event = some next) : next.Connected := by
  by_cases executes : ∃ call act, event = .executing call act
  · obtain ⟨call, act, rfl⟩ := executes
    exact connected_of_executing connected stepped
  by_cases consumes : ∃ act, event = .consumer act
  · obtain ⟨act, rfl⟩ := consumes
    exact connected_of_consumer connected stepped
  · exact connected_of_others connected stepped (fun call act mine => executes ⟨call, act, mine⟩)
      fun act mine => consumes ⟨act, mine⟩

theorem connected_of_run {events : List (Event ρ α β)} (connected : executor.Connected)
    (ran : executor.run events = some next) : next.Connected := by
  induction events generalizing executor with
  | nil =>
    cases ran
    exact connected
  | cons event rest ih =>
    obtain ⟨middle, stepped, ran⟩ := Option.bind_eq_some_iff.mp ran
    exact ih (connected_of_step connected stepped) ran

/-- The sender of the failure slot is there from the start, and the other one in its cell. -/
theorem connected_create (config : ExecutorConfig) (hooked : Bool) (kinds : List SourceKind) :
    (create config hooked kinds : Executor ρ α β).Connected :=
  Nat.le_refl 2

end Executor

end BoundedIngest

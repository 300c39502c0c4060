/-
Module: BoundedIngest.Proofs.Executor.Retreating
Purpose: A call that is refused a worker shuts the executor down and fails, and nobody is spawned
  any more.
Main exports:
  Executor.Winding, Winding.goesOn, Executor.Refused, Refused.run, Executor.ComesBack,
  Refused.comesBack, Executor.refused_start
-/
import BoundedIngest.Proofs.Executor.Interruption
import BoundedIngest.Proofs.Executor.Leaving
import BoundedIngest.Proofs.Executor.Succession

namespace BoundedIngest

/-!
The system may refuse to start a worker.  The call that spawns then gives up: it drops the sender
that was meant for the consumer, shuts the executor down as anybody else could, and fails.  The
workers spawned before that are left to find the queue closed and their flags raised.
-/

variable {ρ α β : Type}

/-- How many steps a shutdown has yet to take, its notifications apart. -/
def ShutdownPhase.toGo : ShutdownPhase → Nat
  | .entering => 6
  | .closing => 3
  | .interrupting => 2
  | .cancelling => 1
  | .returned => 0

/-- The call was refused a worker for that reason. -/
def ExecutePhase.isRefused (reason : String) : ExecutePhase β → Bool
  | .retreating other | .withdrawing _ other | .returned (.error (.spawn other)) => other = reason
  | _ => false

/-- No shutdown gets lost, and one that has returned stays so. -/
theorem Move.shutdowns_kept {snapshot next : Snapshot ρ α β} {event : Executor.Event ρ α β}
    (move : Move snapshot event next) :
    snapshot.shutdowns.length ≤ next.shutdowns.length ∧
      (.returned ∈ snapshot.shutdowns → .returned ∈ next.shutdowns) := by
  have same : next.shutdowns = snapshot.shutdowns →
      snapshot.shutdowns.length ≤ next.shutdowns.length ∧
        (.returned ∈ snapshot.shutdowns → .returned ∈ next.shutdowns) := by
    intro kept
    rw [kept]
    exact ⟨le_rfl, id⟩
  have added : next.shutdowns = snapshot.shutdowns ++ [.entering] →
      snapshot.shutdowns.length ≤ next.shutdowns.length ∧
        (.returned ∈ snapshot.shutdowns → .returned ∈ next.shutdowns) := by
    intro more
    rw [more, List.length_append]
    exact ⟨Nat.le_add_right _ _, List.mem_append_left _⟩
  have advanced : ∀ {call : Nat} {old new : ShutdownPhase},
      snapshot.shutdowns[call]? = some old → old ≠ .returned →
      next.shutdowns = snapshot.shutdowns.set call new →
      snapshot.shutdowns.length ≤ next.shutdowns.length ∧
        (.returned ∈ snapshot.shutdowns → .returned ∈ next.shutdowns) := by
    intro call old new was running set
    rw [set, List.length_set]
    exact ⟨le_rfl, fun found => mem_set_of_ne found was running⟩
  cases move with
  | queue move => exact same move.frame.shutdowns
  | producer move => exact same move.frame.shutdowns
  | consumer move => exact same move.frame.shutdowns
  | caller move => exact move.frame.shutdowns.elim same added
  | user mine move =>
    cases move with
    | executes => exact same rfl
    | begins => exact added rfl
    | closes call was free => exact advanced was (by simp) rfl
    | closed call was => exact advanced was (by simp) rfl
    | advances call old new was turn =>
      refine advanced was ?_ rfl
      rcases turn with ⟨rfl, -⟩ | ⟨rfl, -⟩ <;> simp
  | still others => exact same rfl

namespace Executor

variable {executor next final : Executor ρ α β} {event : Event ρ α β} {events : List (Event ρ α β)}
  {call shutdown steps producers : Nat} {phase : ShutdownPhase} {reason : String}
  {history : History ρ α β}

/-! ### A shutdown comes to its end -/

/-- The call of a shutdown on the queue is there for what the shutdown is about. -/
theorem call_of_shutdown (agreement : executor.snapshot.Agreement)
    (found : executor.shutdowns[shutdown]? = some phase) :
    ∃ owed, executor.shared.calls[executor.shutdownCaller shutdown]? = some owed ∧
      owed.outline.errand = phase.errand := by
  have errand : executor.snapshot.errands[executor.shutdownCaller shutdown]? =
      some phase.errand := by
    have position : executor.shutdownCaller shutdown - executor.snapshot.phases.length =
        shutdown + 1 := by
      rw [length_phases, shutdownCaller, consumerIndex]
      omega
    have here : executor.snapshot.shutdowns[shutdown]? = some phase := found
    rw [Snapshot.errands, List.getElem?_append_right (by rw [List.length_map]; omega),
      List.length_map, position, List.getElem?_cons_succ, List.getElem?_map, here]
    rfl
  rw [← agreement.calls] at errand
  simpa [snapshot, SharedQueue.outlines] using errand

/-- A shutdown has so many steps to take at most, its notifications included. -/
def Winding (executor : Executor ρ α β) (shutdown steps : Nat) : Prop :=
  ∃ phase owed, executor.shutdowns[shutdown]? = some phase ∧
    executor.shared.calls[executor.shutdownCaller shutdown]? = some owed ∧
    phase.toGo + owed.toSend ≤ steps

theorem executes_of_others (stepped : executor.step event = some next)
    (others : ∀ call act, event ≠ .executing call act) (once : event ≠ .execute) :
    next.executes = executor.executes := by
  have move := callMove_of_step stepped
  generalize next.executes = executes at move
  cases move with
  | apart => rfl
  | begins => exact absurd rfl once
  | turns => exact absurd rfl (others _ _)

theorem shutdownCaller_of_step (stepped : executor.step event = some next) :
    next.shutdownCaller shutdown = executor.shutdownCaller shutdown := by
  have same := consumerIndex_of_step stepped
  rw [consumerIndex, consumerIndex] at same
  rw [shutdownCaller, shutdownCaller, same]

/-- A shutdown that has gone on is there with less to do, since what its call may still have to
send is known from its phase. -/
theorem winding_of_phase (reached : Reached producers executor.snapshot history)
    (found : executor.shutdowns[shutdown]? = some phase)
    (bound : phase.toGo + 2 ≤ steps ∨ (phase ≠ .closing ∧ phase.toGo ≤ steps)) :
    executor.Winding shutdown steps := by
  obtain ⟨owed, here, errand⟩ := call_of_shutdown reached.agreement found
  refine ⟨phase, owed, found, here, ?_⟩
  rcases bound with generous | ⟨apart, tight⟩
  · exact le_trans (Nat.add_le_add_left owed.toSend_le _) generous
  · have nothing : owed.toSend = 0 := by
      refine Call.toSend_of_outline fun sends => ?_
      rw [sends] at errand
      cases phase <;> first | exact apart rfl | contradiction
    rwa [nothing]

/-- A step of the shutdown or of its call on the queue is possible, and leaves so many at most. -/
def WindsDown (executor : Executor ρ α β) (shutdown steps : Nat) : Prop :=
  ∃ event next, (event = .shuttingDown shutdown ∨
      event = .notifyQueue (executor.shutdownCaller shutdown) none) ∧
    executor.step event = some next ∧ next.executes = executor.executes ∧
    next.Winding shutdown steps

/-- The shutdown's own step takes it to another phase. -/
theorem windsDown_of_turn (new : ShutdownPhase)
    (reached : Reached producers executor.snapshot history)
    (was : executor.shutdowns[shutdown]? = some phase)
    (stepped : executor.step (.shuttingDown shutdown) = some next)
    (set : next.shutdowns = executor.shutdowns.set shutdown new)
    (few : new.toGo + 2 ≤ steps ∨ (new ≠ .closing ∧ new.toGo ≤ steps)) :
    executor.WindsDown shutdown steps := by
  refine ⟨_, next, .inl rfl, stepped, executes_of_others stepped (by simp) (by simp), ?_⟩
  have found : next.shutdowns[shutdown]? = some new := by
    rw [set]
    exact List.getElem?_set_self (List.getElem?_eq_some_iff.mp was).1
  exact winding_of_phase (.move reached (move_of_step stepped)) found few

/-- While a shutdown closes the queue, its call there sends what it owes. -/
theorem windsDown_of_notify (reached : Reached producers executor.snapshot history)
    (was : executor.shutdowns[shutdown]? = some .closing) {owed : Call α}
    (here : executor.shared.calls[executor.shutdownCaller shutdown]? = some owed)
    (closing : owed.outline = .closing)
    (possible : (executor.shared.step (.notify (executor.shutdownCaller shutdown) none)).isSome =
      true)
    (bound : ShutdownPhase.closing.toGo + owed.toSend ≤ steps + 1) :
    executor.WindsDown shutdown steps := by
  obtain ⟨shared, notified⟩ := Option.isSome_iff_exists.mp possible
  have stepped : executor.step (.notifyQueue (executor.shutdownCaller shutdown) none) =
      some { executor with shared } := by
    simp [step, stepQueue, notified]
  refine ⟨_, _, .inr rfl, stepped, rfl, ?_⟩
  have after : Reached producers ({ executor with shared } : Executor ρ α β).snapshot _ :=
    .move reached (move_of_step stepped)
  obtain ⟨later, calls, -⟩ := call_of_shutdown after.agreement was
  have sent := SharedQueue.toSend_of_notify here closing notified calls
  exact ⟨.closing, later, was, calls, by omega⟩

/-- Unless it has returned, a shutdown can take a step when nobody has the lock on the list of
workers, and has less to do after it. -/
theorem Winding.goesOn (winding : executor.Winding shutdown (steps + 1))
    (reached : Reached producers executor.snapshot history) (free : executor.workersFree = true)
    (running : executor.shutdowns[shutdown]? ≠ some .returned) :
    executor.WindsDown shutdown steps := by
  obtain ⟨phase, owed, was, here, bound⟩ := winding
  obtain ⟨same, there, errand⟩ := call_of_shutdown reached.agreement was
  cases there.symm.trans here
  cases phase with
  | returned => exact absurd was running
  | entering =>
    have idle := idle_of_nothing (SharedQueue.outlines_getElem? here) errand
    have possible : (executor.stepQueue (.close (executor.shutdownCaller shutdown))).isSome =
        true := by
      simp [stepQueue, SharedQueue.step, idle]
    obtain ⟨middle, closed⟩ := Option.isSome_iff_exists.mp possible
    have stepped : executor.step (.shuttingDown shutdown) =
        some (middle.setShutdown shutdown .closing) := by
      simp [step, stepShutdown, was, closed]
    refine windsDown_of_turn .closing reached was stepped ?_ ?_
    · obtain ⟨shared, -, rfl⟩ := shared_of_stepQueue closed
      rfl
    · left
      simp only [ShutdownPhase.toGo] at bound ⊢
      omega
  | closing =>
    have closing := closing_of_errand errand
    cases owed with
    | closedRoom | closedEntries =>
      refine windsDown_of_notify reached was here closing ?_ bound
      simp only [SharedQueue.step, SharedQueue.notify, here]
      rfl
    | returned reply =>
      have possible : (executor.takeReply (executor.shutdownCaller shutdown)).isSome = true := by
        simp [takeReply, SharedQueue.reply?, stepQueue, SharedQueue.step, here]
      obtain ⟨⟨reply, middle⟩, taken⟩ := Option.isSome_iff_exists.mp possible
      have stepped : executor.step (.shuttingDown shutdown) =
          some (middle.setShutdown shutdown .interrupting) := by
        simp [step, stepShutdown, was, taken]
      refine windsDown_of_turn .interrupting reached was stepped ?_ ?_
      · have kept := congrArg Snapshot.shutdowns (snapshot_takeReply taken).2
        exact congrArg (List.set · shutdown ShutdownPhase.interrupting) kept
      · right
        simp only [ShutdownPhase.toGo] at bound ⊢
        exact ⟨by simp, by omega⟩
    | _ => contradiction
  | interrupting =>
    have stepped : executor.step (.shuttingDown shutdown) =
        some (executor.interruptWorkers.setShutdown shutdown .cancelling) := by
      simp [step, stepShutdown, was, free]
    refine windsDown_of_turn .cancelling reached was stepped ?_ ?_
    · have kept : executor.interruptWorkers.snapshot = executor.snapshot :=
        snapshot_interruptWorkers
      exact congrArg (List.set · shutdown ShutdownPhase.cancelling)
        (congrArg Snapshot.shutdowns kept)
    · right
      simp only [ShutdownPhase.toGo] at bound ⊢
      exact ⟨by simp, by omega⟩
  | cancelling =>
    have stepped : executor.step (.shuttingDown shutdown) =
        some ({ executor with lifecycle := executor.lifecycle.shutDown }.setShutdown shutdown
          .returned) := by
      simp [step, stepShutdown, was]
    exact windsDown_of_turn .returned reached was stepped rfl (.inr ⟨by simp, Nat.zero_le _⟩)

/-! ### A call that was refused a worker -/

/-- The shutdown that the call carries out is there, and one has returned if the call has. -/
def Backs (executor : Executor ρ α β) : ExecutePhase β → Prop
  | .withdrawing shutdown _ => shutdown < executor.shutdowns.length
  | .returned _ => .returned ∈ executor.shutdowns
  | _ => True

/-- The call that could spawn workers was refused one for that reason. -/
structure Refused (executor : Executor ρ α β) (producers call : Nat) (reason : String) :
    Prop where
  reached : ∃ history, Reached producers executor.snapshot history
  presides : executor.Presides call
  phase : ∃ phase, executor.executes[call]? = some phase ∧ phase.isRefused reason = true ∧
    executor.Backs phase

namespace Refused

/-- Nobody is about to spawn anybody. -/
theorem not_spawning (refused : executor.Refused producers call reason) {other worker : Nat}
    (found : executor.executes[other]? = some (.spawning worker)) : False := by
  obtain ⟨phase, was, retreats, -⟩ := refused.phase
  obtain rfl := refused.presides.alone other _ found rfl
  cases was.symm.trans found
  contradiction

theorem workersFree (refused : executor.Refused producers call reason) :
    executor.workersFree = true := by
  rw [Executor.workersFree, Bool.not_eq_true', List.any_eq_false]
  intro phase member holds
  obtain ⟨other, found⟩ := List.mem_iff_getElem?.mp member
  cases phase with
  | spawning worker => exact refused.not_spawning found
  | _ => contradiction

/-- The call goes on by itself, and nobody else moves it. -/
theorem step (refused : executor.Refused producers call reason)
    (stepped : executor.step event = some next) : next.Refused producers call reason := by
  obtain ⟨history, reached⟩ := refused.reached
  have move := move_of_step stepped
  refine ⟨⟨_, .move reached move⟩, refused.presides.step stepped, ?_⟩
  obtain ⟨phase, was, retreats, backs⟩ := refused.phase
  have inside := (List.getElem?_eq_some_iff.mp was).1
  by_cases own : ∃ act, event = .executing call act
  · obtain ⟨act, rfl⟩ := own
    simp only [Executor.step, stepExecute, was] at stepped
    cases phase with
    | retreating other =>
      cases act with
      | proceed =>
        cases stepped
        refine ⟨_, List.getElem?_set_self inside, retreats, ?_⟩
        simp [Backs, beginShutdown, setExecute]
      | readFlag | timeout => contradiction
    | withdrawing shutdown other =>
      cases act with
      | proceed =>
        dsimp only at stepped
        split at stepped
        · rename_i done
          cases stepped
          exact ⟨_, List.getElem?_set_self inside, retreats, List.mem_of_getElem? done⟩
        · contradiction
      | readFlag | timeout => contradiction
    | returned outcome => cases act <;> contradiction
    | _ => contradiction
  · obtain ⟨new, found, ⟨-, rfl⟩ | ⟨act, mine, -⟩⟩ := turn_of_step stepped was
    · obtain ⟨longer, returned⟩ := move.shutdowns_kept
      refine ⟨new, found, retreats, ?_⟩
      cases new with
      | withdrawing shutdown other => exact Nat.lt_of_lt_of_le backs longer
      | returned outcome => exact returned backs
      | _ => trivial
    · exact absurd ⟨act, mine⟩ own

/-- Whatever happens from then on, by induction on the steps. -/
theorem run (refused : executor.Refused producers call reason)
    (ran : executor.run events = some final) :
    final.Refused producers call reason ∧
      ∀ worker, final.snapshot.Spawned worker ↔ executor.snapshot.Spawned worker := by
  induction events generalizing executor with
  | nil =>
    cases ran
    exact ⟨refused, fun _ => Iff.rfl⟩
  | cons event rest ih =>
    obtain ⟨middle, stepped, ran⟩ := Option.bind_eq_some_iff.mp ran
    obtain ⟨last, same⟩ := ih (refused.step stepped) ran
    refine ⟨last, fun worker => (same worker).trans ⟨fun spawned => ?_, fun spawned => ?_⟩⟩
    · refine (spawned_before stepped spawned).resolve_right ?_
      rintro ⟨other, first, -, found, -⟩
      exact refused.not_spawning found
    · exact spawned.move (move_of_step stepped)

end Refused

/-! ### The call comes back -/

/-- These steps belong to the call or to the shutdown. -/
def AreOwn (executor : Executor ρ α β) (call shutdown : Nat) (events : List (Event ρ α β)) : Prop :=
  ∀ event ∈ events, event = .executing call .proceed ∨ event = .shuttingDown shutdown ∨
    event = .notifyQueue (executor.shutdownCaller shutdown) none

/-- The call can fail with that reason after so many steps of its own and of the shutdown. -/
def ComesBack (executor : Executor ρ α β) (call shutdown : Nat) (reason : String) (steps : Nat) :
    Prop :=
  ∃ rest later, rest.length ≤ steps ∧ executor.AreOwn call shutdown rest ∧
    executor.run rest = some later ∧
    later.executes[call]? = some (.returned (.error (.spawn reason)))

theorem comesBack_of_step (comes : next.ComesBack call shutdown reason steps)
    (own : executor.AreOwn call shutdown [event]) (stepped : executor.step event = some next) :
    executor.ComesBack call shutdown reason (steps + 1) := by
  obtain ⟨rest, later, short, owned, ran, returned⟩ := comes
  refine ⟨event :: rest, later, Nat.succ_le_succ short, ?_, ?_, returned⟩
  · intro other found
    rcases List.mem_cons.mp found with rfl | found
    · exact own other List.mem_cons_self
    · have mine := owned other found
      rwa [shutdownCaller_of_step stepped] at mine
  · rw [Executor.run, stepped]
    exact ran

/-- When its shutdown has returned, the call fails in one step. -/
theorem comesBack_of_returned (was : executor.executes[call]? = some (.withdrawing shutdown reason))
    (done : executor.shutdowns[shutdown]? = some .returned) :
    executor.ComesBack call shutdown reason 1 := by
  have stepped : executor.step (.executing call .proceed) =
      some { executor.setExecute call (.returned (.error (.spawn reason))) with
        lifecycle := executor.lifecycle.settle .failed } := by
    simp [Executor.step, stepExecute, was, done]
  refine comesBack_of_step ⟨[], _, le_rfl, by simp [AreOwn], rfl, ?_⟩ (by simp [AreOwn]) stepped
  exact List.getElem?_set_self (List.getElem?_eq_some_iff.mp was).1

/-- A call that carries out a shutdown comes to its end, by induction on what the shutdown has
to do. -/
theorem Refused.comesBack_of_winding (refused : executor.Refused producers call reason)
    (winding : executor.Winding shutdown steps)
    (was : executor.executes[call]? = some (.withdrawing shutdown reason)) :
    executor.ComesBack call shutdown reason (steps + 1) := by
  induction steps generalizing executor with
  | zero =>
    obtain ⟨phase, owed, found, -, bound⟩ := winding
    have returned : phase = .returned := by
      cases phase <;> first | rfl | (simp [ShutdownPhase.toGo] at bound)
    exact comesBack_of_returned was (returned ▸ found)
  | succ steps ih =>
    by_cases done : executor.shutdowns[shutdown]? = some .returned
    · obtain ⟨rest, later, short, others⟩ := comesBack_of_returned was done
      exact ⟨rest, later, by omega, others⟩
    · obtain ⟨history, reached⟩ := refused.reached
      obtain ⟨event, next, own, stepped, executes, winding⟩ :=
        winding.goesOn reached refused.workersFree done
      have later := ih (refused.step stepped) winding (executes ▸ was)
      exact comesBack_of_step later (by simpa [AreOwn] using .inr own) stepped

/-- A call that was refused a worker can come to its end at any time. -/
theorem Refused.comesBack (refused : executor.Refused producers call reason) :
    ∃ shutdown, executor.ComesBack call shutdown reason 8 := by
  obtain ⟨history, reached⟩ := refused.reached
  obtain ⟨phase, was, retreats, backs⟩ := refused.phase
  have inside := (List.getElem?_eq_some_iff.mp was).1
  cases phase with
  | returned outcome =>
    have same : outcome = .error (.spawn reason) := by
      unfold ExecutePhase.isRefused at retreats
      split at retreats <;> simp_all
    subst same
    exact ⟨0, [], executor, Nat.zero_le _, by simp [AreOwn], rfl, was⟩
  | withdrawing shutdown other =>
    obtain rfl : other = reason := of_decide_eq_true retreats
    have found : executor.shutdowns[shutdown]? = some executor.shutdowns[shutdown] :=
      List.getElem?_eq_getElem backs
    refine ⟨shutdown, refused.comesBack_of_winding (winding_of_phase reached found ?_) was⟩
    cases executor.shutdowns[shutdown] <;> simp [ShutdownPhase.toGo]
  | retreating other =>
    obtain rfl : other = reason := of_decide_eq_true retreats
    have stepped : executor.step (.executing call .proceed) = some
        (executor.beginShutdown.setExecute call
          (.withdrawing executor.shutdowns.length other)) := by
      simp [Executor.step, stepExecute, was]
    have later := refused.step stepped
    obtain ⟨history, reached⟩ := later.reached
    have entered : (executor.beginShutdown.setExecute call
        (.withdrawing executor.shutdowns.length other)).shutdowns[executor.shutdowns.length]? =
          some .entering := by
      simp [beginShutdown, setExecute]
    have begun : Winding _ executor.shutdowns.length 6 :=
      winding_of_phase reached entered (.inr ⟨by simp, le_rfl⟩)
    have comes := later.comesBack_of_winding begun (List.getElem?_set_self inside)
    exact ⟨_, comesBack_of_step comes (by simp [AreOwn]) stepped⟩
  | _ => contradiction

/-- Nobody exchanges the configuration or the system. -/
theorem settings_of_run (ran : executor.run events = some final) :
    final.config = executor.config ∧ final.refuses = executor.refuses := by
  induction events generalizing executor with
  | nil =>
    cases ran
    exact ⟨rfl, rfl⟩
  | cons event rest ih =>
    obtain ⟨middle, stepped, ran⟩ := Option.bind_eq_some_iff.mp ran
    obtain ⟨config, refuses⟩ := ih ran
    have move := officeMove_of_step stepped
    exact ⟨config.trans move.config, refuses.trans move.refuses⟩

/-- Take any run in which a call comes to a worker that the system refuses.  The call goes on at
once, and whatever happens beside it from then on, nobody is spawned any more, and the call can
fail with that reason after eight steps of its own and of the shutdown it carries out.  Nothing
else becomes of it, and when it has failed, a shutdown has returned, so the queue is closed or had
been emptied before, and the state is Failed or Terminated. -/
theorem refused_start {config : ExecutorConfig} {hooked : Bool} {kinds : List SourceKind}
    {refuses : Nat → Option String} {worker : Nat}
    (ran : (create config hooked kinds refuses).run events = some executor)
    (was : executor.executes[call]? = some (.spawning worker)) (named : ¬config.HasNul)
    (refused : refuses worker = some reason) :
    ∃ next, executor.step (.executing call .proceed) = some next ∧
      ∀ later final, next.run later = some final →
        (∀ other, final.isSpawned other = executor.isSpawned other) ∧
        (∃ shutdown, final.ComesBack call shutdown reason 8) ∧
        ∀ outcome, final.executes[call]? = some (.returned outcome) →
          outcome = .error (.spawn reason) ∧ .returned ∈ final.shutdowns ∧
          (final.shared.queue.closed = true ∨ final.snapshot.Done) ∧
          (final.lifecycle = .failed ∨ final.lifecycle = .terminated) := by
  obtain ⟨settings, answers⟩ := settings_of_run ran
  have free : threadNamePanic? (executor.workerName worker) = none := by
    rw [named_iff, settings]
    exact named
  have turnedAway : executor.refuses worker = some reason := answers ▸ refused
  have stepped : executor.step (.executing call .proceed) = some
      { executor.setExecute call (.retreating reason) with
        channel := executor.channel.hangUp } := by
    simp [Executor.step, stepExecute, was, free, turnedAway]
  refine ⟨_, stepped, fun later final goesOn => ?_⟩
  obtain ⟨history, reached⟩ := reached_of_run ran
  have ruled := ruled_of_run (vacant_create config hooked kinds) ran
  have presides := (suits_of_underway ruled was rfl).1
  have begun : Refused _ kinds.length call reason :=
    ⟨⟨_, .move reached (move_of_step stepped)⟩, presides.step stepped, _,
      List.getElem?_set_self (List.getElem?_eq_some_iff.mp was).1, decide_eq_true rfl, trivial⟩
  obtain ⟨last, same⟩ := begun.run goesOn
  refine ⟨fun other => ?_, last.comesBack, fun outcome returned => ?_⟩
  · exact Bool.eq_iff_iff.mpr (isSpawned_iff.trans ((same other).trans isSpawned_iff.symm))
  · obtain ⟨phase, found, retreats, backs⟩ := last.phase
    cases found.symm.trans returned
    have reason : outcome = .error (.spawn reason) := by
      unfold ExecutePhase.isRefused at retreats
      split at retreats <;> simp_all
    subst reason
    obtain ⟨historyFinal, reachedFinal⟩ := last.reached
    refine ⟨rfl, backs, reachedFinal.shut .returned backs (by simp), ?_⟩
    obtain ⟨phase, there, suits⟩ := last.presides.suits
    cases there.symm.trans returned
    exact suits.2.symm

-- The second of two producers is refused.
example :
    let executor : Executor Nat Nat Nat := create {} false [.records, .records]
      fun worker => if worker = 1 then some "no more threads" else none
    ((executor.run (entrance 0 ++ List.replicate 3 (.executing 0 .proceed) ++
      [.shuttingDown 0, .notifyQueue 3 none, .notifyQueue 3 none] ++
      List.replicate 3 (.shuttingDown 0) ++ [.executing 0 .proceed])).map fun final =>
        (final.executes[0]?.any (·.isRefused "no more threads"), final.lifecycle,
          final.isSpawned 0)) =
      some (true, .failed, true) := by
  decide +kernel

end Executor

end BoundedIngest

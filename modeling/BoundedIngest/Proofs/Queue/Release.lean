/-
Module: BoundedIngest.Proofs.Queue.Release
Purpose: Once closing has no effect any more, nobody begins to wait inside a queue, and who
  still waits is woken by the close that had one.
Main exports:
  SharedQueue.Clears, SharedQueue.clears_of_step, SharedQueue.Released,
  SharedQueue.SoonReleased, SharedQueue.soonReleased
-/
import BoundedIngest.Proofs.Queue.Ending
import BoundedIngest.Proofs.Queue.Waiting

namespace BoundedIngest

/-!
A close that finds the queue open drops what is buffered, releases the lock, and then notifies
everybody.  In between the queue is closed already, and another close returns at once.  So a
call may still wait then, but only one that has waited before, and only until the first close
has come to its notifications.
-/

variable {α : Type}

namespace SharedQueue

variable {shared middle next : SharedQueue α} {caller : Nat} {entry : α} {event : Event α}

/-! ### Nobody begins to wait -/

/-- Whoever waits in the second queue has waited in the first, and whoever has a notification to
send to all who pull has had one to send. -/
structure Clears (shared next : SharedQueue α) : Prop where
  waits : ∀ (caller : Nat) (call : Call α), next.calls[caller]? = some call →
    call.isWaiting = true → shared.calls[caller]? = some call
  wakes : ∀ (caller : Nat) (call : Call α), next.calls[caller]? = some call →
    call.wakesPulls = true →
    ∃ old, shared.calls[caller]? = some old ∧ old.wakesPulls = true

theorem Clears.refl (shared : SharedQueue α) : Clears shared shared :=
  ⟨fun _ _ found _ => found, fun _ call found wakes => ⟨call, found, wakes⟩⟩

theorem Clears.trans (first : Clears shared middle) (second : Clears middle next) :
    Clears shared next := by
  constructor
  · intro caller call found waits
    exact first.waits caller call (second.waits caller call found waits) waits
  · intro caller call found wakes
    obtain ⟨old, before, woke⟩ := second.wakes caller call found wakes
    exact first.wakes caller old before woke

/-- What comes before a step does not matter as long as it leaves the calls alone. -/
theorem Clears.after (clears : Clears middle next) (same : middle.calls = shared.calls) :
    Clears shared next := by
  constructor
  · intro caller call found waits
    rw [← same]
    exact clears.waits caller call found waits
  · intro caller call found wakes
    rw [← same]
    exact clears.wakes caller call found wakes

/-- Nor does what comes after it. -/
theorem Clears.onto (clears : Clears shared middle) (same : next.calls = middle.calls) :
    Clears shared next := by
  constructor
  · intro caller call found
    rw [same] at found
    exact clears.waits caller call found
  · intro caller call found
    rw [same] at found
    exact clears.wakes caller call found

/-- Whoever is new to a queue does not wait in it yet. -/
theorem clears_append (calls : next.calls = shared.calls ++ [.idle]) : Clears shared next := by
  constructor
  · intro caller call found waits
    rw [calls] at found
    rcases last_or_before found with ⟨-, rfl⟩ | before
    · contradiction
    · exact before
  · intro caller call found wakes
    rw [calls] at found
    rcases last_or_before found with ⟨-, rfl⟩ | before
    · contradiction
    · exact ⟨call, before, wakes⟩

/-- A call goes on to a stage at which it does not wait. -/
theorem clears_setCall {new : Call α} (proceeds : new.isWaiting = false)
    (wakes : new.wakesPulls = true →
      ∃ old, shared.calls[caller]? = some old ∧ old.wakesPulls = true) :
    Clears shared (shared.setCall caller new) := by
  constructor
  · intro place call found waits
    rcases set_or_before found with ⟨-, rfl⟩ | before
    · rw [proceeds] at waits
      contradiction
    · exact before
  · intro place call found woke
    rcases set_or_before found with ⟨rfl, rfl⟩ | before
    · exact wakes woke
    · exact ⟨call, before, woke⟩

/-- A call goes on to a stage at which it neither waits nor has anything to send to all. -/
theorem clears_setQuiet {new : Call α} (proceeds : new.isWaiting = false)
    (quiet : new.wakesPulls = false) : Clears shared (shared.setCall caller new) :=
  clears_setCall proceeds fun wakes => by
    rw [quiet] at wakes
    contradiction

/-- Calls are notified. -/
theorem clears_map (change : Call α → Call α)
    (waits : ∀ call, (change call).isWaiting = true → change call = call)
    (wakes : ∀ call, (change call).wakesPulls = true → call.wakesPulls = true)
    (calls : next.calls = shared.calls.map change) : Clears shared next := by
  constructor
  · intro caller call found waiting
    rw [calls, List.getElem?_map, Option.map_eq_some_iff] at found
    obtain ⟨old, before, rfl⟩ := found
    rw [waits old waiting]
    exact before
  · intro caller call found woke
    rw [calls, List.getElem?_map, Option.map_eq_some_iff] at found
    obtain ⟨old, before, rfl⟩ := found
    exact ⟨old, before, wakes old woke⟩

theorem clears_notifyAllRoom : Clears shared shared.notifyAllRoom := by
  refine clears_map Call.notifyRoom (fun call => ?_) (fun call => ?_) rfl
  · cases call <;> simp [Call.notifyRoom, Call.isWaiting, Call.isAwaitingRoom, Call.isAwaitingEntry]
  · cases call <;> simp [Call.notifyRoom, Call.wakesPulls]

theorem clears_notifyAllEntry : Clears shared shared.notifyAllEntry := by
  refine clears_map Call.notifyEntry (fun call => ?_) (fun call => ?_) rfl
  · cases call <;>
      simp [Call.notifyEntry, Call.isWaiting, Call.isAwaitingRoom, Call.isAwaitingEntry]
  · cases call <;> simp [Call.notifyEntry, Call.wakesPulls]

theorem clears_notifyOneRoom {target : Option Nat}
    (notified : shared.notifyOneRoom target = some next) : Clears shared next := by
  rcases reached_of_notifyOneRoom notified with ⟨-, rfl⟩ | ⟨woken, entry, found, rfl⟩
  · exact Clears.refl _
  · exact clears_setQuiet rfl rfl

theorem clears_notifyOneEntry {target : Option Nat}
    (notified : shared.notifyOneEntry target = some next) : Clears shared next := by
  rcases reached_of_notifyOneEntry notified with ⟨-, rfl⟩ | ⟨woken, found, rfl⟩
  · exact Clears.refl _
  · exact clears_setQuiet rfl rfl

theorem clears_observe (size : UInt64) : Clears shared (shared.observe size) := by
  unfold observe
  dsimp only
  split
  · exact clears_notifyAllRoom.after rfl
  · exact (Clears.refl _).after rfl

/-- A queue on which closing has no effect is closed, or all producers are done and it is
empty. -/
theorem over_cases (atEnd : shared.queue.isClosable = false) :
    shared.queue.closed = true ∨
      (shared.queue.producersFinished = true ∧ shared.queue.buffer = []) := by
  cases status : shared.queue.status with
  | accepting | draining => simp [Queue.isClosable, status] at atEnd
  | done => exact .inr (Queue.status_eq_done.mp status).2
  | closed => exact .inl (Queue.status_eq_closed.mp status)

/-- An insert finds room, or is refused. -/
theorem clears_tryPush {waited : Bool} (atEnd : shared.queue.isClosable = false)
    (positive : 1 ≤ shared.queue.capacity.limit) :
    Clears shared (shared.tryPush caller entry waited) := by
  unfold tryPush
  split
  · exact clears_setQuiet rfl rfl
  · rename_i stillOpen
    obtain ⟨-, empty⟩ := (over_cases atEnd).resolve_left stillOpen
    have room : shared.queue.isFull = false := by
      simp only [Queue.isFull, empty, List.length_nil, decide_eq_false_iff_not]
      omega
    rw [if_neg (by simp [room])]
    exact (clears_setQuiet rfl rfl).after rfl

/-- A pull finds the end of the queue. -/
theorem clears_tryPull (atEnd : shared.queue.isClosable = false) :
    Clears shared (shared.tryPull caller) := by
  unfold tryPull
  split
  · exact clears_setQuiet rfl rfl
  · rename_i stillOpen
    obtain ⟨finished, -⟩ := (over_cases atEnd).resolve_left stillOpen
    split
    · exact (clears_setQuiet rfl rfl).after rfl
    · rw [if_pos finished]
      exact clears_setQuiet rfl rfl

/-- An insert that has just arrived is refused, whatever its measurement changes. -/
theorem clears_firstInsert {size : Option UInt64} (atEnd : shared.queue.isClosable = false) :
    Clears shared (shared.firstInsert caller entry size) := by
  have refuses : ∀ observed : SharedQueue α, SameContents shared.queue observed.queue →
      observed.queue.refuses = true := by
    intro observed contents
    rw [contents, Queue.refuses, Bool.or_eq_true]
    refine (over_cases atEnd).imp_right fun done => ?_
    simpa [Queue.producersFinished] using done.1
  unfold firstInsert
  dsimp only
  cases size with
  | none =>
    rw [if_pos (refuses shared rfl)]
    exact clears_setQuiet rfl rfl
  | some bytes =>
    rw [if_pos (refuses _ (observe_contents bytes))]
    exact (clears_observe bytes).trans (clears_setQuiet rfl rfl)

theorem clears_enter (atEnd : shared.queue.isClosable = false)
    (positive : 1 ≤ shared.queue.capacity.limit) (entered : shared.enter caller = some next) :
    Clears shared next := by
  unfold enter at entered
  split at entered
  · cases entered
    exact clears_firstInsert atEnd
  · cases entered
    exact clears_tryPush atEnd positive
  · cases entered
    exact clears_tryPull atEnd
  · cases entered
    exact clears_tryPull atEnd
  · contradiction

theorem clears_notify {target : Option Nat} (notified : shared.notify caller target = some next) :
    Clears shared next := by
  unfold notify at notified
  split at notified
  · obtain ⟨middle, first, rfl⟩ := Option.map_eq_some_iff.mp notified
    exact (clears_notifyOneEntry first).trans (clears_setQuiet rfl rfl)
  · obtain ⟨middle, first, rfl⟩ := Option.map_eq_some_iff.mp notified
    exact (clears_notifyOneRoom first).trans (clears_setQuiet rfl rfl)
  · rename_i found
    cases notified
    refine clears_notifyAllRoom.trans (clears_setCall rfl fun _ => ⟨.closedRoom, ?_, rfl⟩)
    simp [notifyAllRoom, found, Call.notifyRoom]
  · cases notified
    exact clears_notifyAllEntry.trans (clears_setQuiet rfl rfl)
  · contradiction

theorem clears_report (reported : shared.report caller = some next) : Clears shared next := by
  unfold report at reported
  split at reported
  · rename_i waited found
    cases reported
    cases waited <;> exact (clears_setQuiet rfl rfl).after rfl
  · cases reported
    exact (clears_setQuiet rfl rfl).after rfl
  · contradiction

theorem clears_markDone : Clears shared shared.markDone := by
  unfold markDone
  dsimp only
  split
  · exact (clears_notifyAllEntry.trans clears_notifyAllRoom).after rfl
  · exact (Clears.refl _).after rfl

/-- Once closing has no effect, no step makes anybody wait. -/
theorem clears_of_step (atEnd : shared.queue.isClosable = false)
    (positive : 1 ≤ shared.queue.capacity.limit) (stepped : shared.step event = some next) :
    Clears shared next := by
  cases event with
  | enter caller => exact clears_enter atEnd positive stepped
  | notify caller target => exact clears_notify stepped
  | report caller => exact clears_report stepped
  | markDone =>
    cases stepped
    exact clears_markDone
  | close caller =>
    simp only [step] at stepped
    split at stepped
    · cases stepped
      rw [close, if_neg (by simp [atEnd])]
      exact clears_setQuiet rfl rfl
    · contradiction
  | insert caller entry =>
    simp only [step] at stepped
    split at stepped
    · cases stepped
      refine (clears_setQuiet ?_ ?_).after rfl
      · split <;> rfl
      · split <;> rfl
    · contradiction
  | measured caller | measuringPanicked caller | pull caller | leave caller =>
    simp only [step] at stepped
    split at stepped
    · cases stepped
      exact clears_setQuiet rfl rfl
    · contradiction

/-! ### Who still waits -/

/-- Nobody waits inside the queue. -/
def Released (shared : SharedQueue α) : Prop := ∀ call ∈ shared.calls, call.isWaiting = false

/-- Some close has notifications to send, and as soon as it has sent them, which takes it at most
two steps whenever it takes them, nobody waits. -/
def SoonReleased (shared : SharedQueue α) : Prop :=
  ∃ (caller : Nat) (call : Call α) (steps : Nat) (released : SharedQueue α),
    shared.calls[caller]? = some call ∧ call.wakesPulls = true ∧ steps ≤ 2 ∧
      shared.run (List.replicate steps (.notify caller none)) = some released ∧
      released.Released

theorem not_isAwaitingRoom_notifyRoom (call : Call α) :
    (Call.notifyRoom call).isAwaitingRoom = false := by
  cases call <;> rfl

theorem not_isWaiting_notifyEntry {call : Call α} (proceeds : call.isAwaitingRoom = false) :
    (Call.notifyEntry call).isWaiting = false := by
  cases call <;> first | rfl | contradiction

/-- The second notification of a close. -/
theorem released_of_closedEntries (found : shared.calls[caller]? = some .closedEntries)
    (nobody : ∀ call ∈ shared.calls, call.isAwaitingRoom = false) :
    ∃ released, shared.run [.notify caller none] = some released ∧ released.Released := by
  refine ⟨shared.notifyAllEntry.setCall caller (.returned .closed), ?_, ?_⟩
  · simp [run, step, notify, found]
  · intro call among
    rcases List.mem_or_eq_of_mem_set among with before | rfl
    · obtain ⟨old, there, rfl⟩ := List.mem_map.mp before
      exact not_isWaiting_notifyEntry (nobody old there)
    · rfl

/-- Both notifications of a close. -/
theorem released_of_closedRoom (found : shared.calls[caller]? = some .closedRoom) :
    ∃ released, shared.run (List.replicate 2 (.notify caller none)) = some released ∧
      released.Released := by
  have inside := (List.getElem?_eq_some_iff.mp found).1
  let middle := shared.notifyAllRoom.setCall caller .closedEntries
  have first : shared.step (.notify caller none) = some middle := by
    simp [step, notify, found, middle]
  have second : middle.calls[caller]? = some .closedEntries :=
    List.getElem?_set_self (by simpa [notifyAllRoom] using inside)
  obtain ⟨released, ran, nobody⟩ := released_of_closedEntries second fun call among => by
    rcases List.mem_or_eq_of_mem_set among with before | rfl
    · obtain ⟨old, -, rfl⟩ := List.mem_map.mp before
      exact not_isAwaitingRoom_notifyRoom old
    · rfl
  refine ⟨released, ?_, nobody⟩
  rw [List.replicate_succ, run, first]
  exact ran

/-- Whoever waits in a closed queue waits only for the close to go on. -/
theorem soonReleased (attended : shared.Attended) (closed : shared.queue.closed = true)
    {call : Call α} (found : call ∈ shared.calls) (waits : call.isWaiting = true) :
    shared.SoonReleased := by
  by_cases room : ∃ waiting ∈ shared.calls, waiting.isAwaitingRoom = true
  · have waker := attended.inserts closed (List.countP_pos_iff.mpr room)
    obtain ⟨closer, among, wakes⟩ := List.countP_pos_iff.mp waker
    obtain ⟨caller, there⟩ := List.mem_iff_getElem?.mp among
    obtain rfl : closer = .closedRoom := by cases closer <;> first | rfl | contradiction
    obtain ⟨released, ran, nobody⟩ := released_of_closedRoom there
    exact ⟨caller, _, 2, released, there, rfl, Nat.le_refl 2, ran, nobody⟩
  · have noRoom : ∀ call ∈ shared.calls, call.isAwaitingRoom = false := by
      intro call among
      rw [Bool.eq_false_iff]
      exact fun awaits => room ⟨call, among, awaits⟩
    have entry : call.isAwaitingEntry = true := by
      simpa [Call.isWaiting, noRoom call found] using waits
    have waker := attended.pulls closed (List.countP_pos_iff.mpr ⟨call, found, entry⟩)
    obtain ⟨closer, among, wakes⟩ := List.countP_pos_iff.mp waker
    obtain ⟨caller, there⟩ := List.mem_iff_getElem?.mp among
    cases closer with
    | closedRoom =>
      obtain ⟨released, ran, nobody⟩ := released_of_closedRoom there
      exact ⟨caller, _, 2, released, there, rfl, Nat.le_refl 2, ran, nobody⟩
    | closedEntries =>
      obtain ⟨released, ran, nobody⟩ := released_of_closedEntries there noRoom
      exact ⟨caller, _, 1, released, there, rfl, Nat.le_succ 1, ran, nobody⟩
    | _ => contradiction

end SharedQueue

end BoundedIngest

/-
Module: BoundedIngest.Proofs.Queue.Work
Purpose: How much the calls on a queue have left to do, and that every step does some of it.
Main exports:
  Call.work, SharedQueue.work, SharedQueue.work_of_enter, SharedQueue.work_of_notify,
  SharedQueue.work_of_report, SharedQueue.work_insert, SharedQueue.work_markDone
-/
import BoundedIngest.Proofs.Queue.Outline

namespace BoundedIngest

/-!
A call that is notified may find that it has to wait again, so it can go round for a while.
But each round was paid for by the call that sent the notification, and an entry in the
queue pays for the pull that takes it.  Where a step notifies everybody, the work ahead of
it counts one for each call.
-/

variable {α : Type}

/-- What is left to do for a call, among as many calls as given. -/
def Call.work (callers : Nat) : Call α → Nat
  | .idle => 0
  | .measuring _ => callers + 12
  | .inserting .. => callers + 11
  | .retryingInsert _ => 11
  | .awaitingRoom _ => 10
  | .pushed .. => 4
  | .reportingPush .. => 2
  | .returned .inserted | .returned .refused | .returned .closed => 1
  | .pulling | .retryingPull => 6
  | .awaitingEntry | .returned (.ended _) => 5
  | .pulled .. => 11
  | .reportingPull .. => 9
  | .returned (.entry _) => 8
  | .closedRoom => 2 * callers + 3
  | .closedEntries => callers + 2

theorem Call.work_notifyRoom (callers : Nat) (call : Call α) :
    call.notifyRoom.work callers ≤ call.work callers + 1 := by
  cases call <;> first | exact Nat.le_succ _ | exact Nat.le_refl _

theorem Call.work_notifyEntry (callers : Nat) (call : Call α) :
    call.notifyEntry.work callers ≤ call.work callers + 1 := by
  cases call <;> first | exact Nat.le_succ _ | exact Nat.le_refl _

namespace SharedQueue

/-- What is left to do for all calls, with the pulls that the buffered entries will need. -/
def work (shared : SharedQueue α) : Nat :=
  (shared.calls.map (Call.work shared.calls.length)).sum + 6 * shared.queue.buffer.length

variable {shared next : SharedQueue α} {caller : Nat}

theorem work_of_same (queue : next.queue.buffer = shared.queue.buffer)
    (calls : next.calls = shared.calls) : next.work = shared.work := by
  rw [work, work, queue, calls]

theorem work_setCall {old new : Call α} (found : shared.calls[caller]? = some old) :
    (shared.setCall caller new).work + old.work shared.calls.length =
      shared.work + new.work shared.calls.length := by
  have summed := sum_map_set_add (Call.work shared.calls.length) new found
  simp only [work, setCall, List.length_set]
  omega

theorem length_setCall (call : Call α) :
    (shared.setCall caller call).calls.length = shared.calls.length := List.length_set ..

theorem work_notifyAllRoom : shared.notifyAllRoom.work ≤ shared.work + shared.calls.length := by
  have summed := sum_map_le_add_length (Call.work shared.calls.length) Call.notifyRoom
    shared.calls (Call.work_notifyRoom _)
  simp only [work, notifyAllRoom, List.length_map]
  omega

theorem work_notifyAllEntry :
    shared.notifyAllEntry.work ≤ shared.work + shared.calls.length := by
  have summed := sum_map_le_add_length (Call.work shared.calls.length) Call.notifyEntry
    shared.calls (Call.work_notifyEntry _)
  simp only [work, notifyAllEntry, List.length_map]
  omega

/-! ### Taking the lock -/

theorem work_tryPush {old : Call α} {entry : α} {waited : Bool}
    (found : shared.calls[caller]? = some old) :
    (shared.tryPush caller entry waited).work + old.work shared.calls.length ≤
      shared.work + 10 := by
  unfold tryPush
  split
  · have moved : (shared.setCall caller (.returned .refused)).work +
        old.work shared.calls.length = shared.work + 1 := work_setCall found
    omega
  · split
    · have moved : (shared.setCall caller (.awaitingRoom entry)).work +
          old.work shared.calls.length = shared.work + 10 := work_setCall found
      omega
    · have longer : SharedQueue.work { shared with queue := shared.queue.push entry } =
          shared.work + 6 := by
        simp only [work, Queue.push, List.length_append, List.length_singleton]
        omega
      have moved : SharedQueue.work ({ shared with queue := shared.queue.push entry }.setCall
          caller (.pushed (shared.queue.push entry).buffer.length
            (shared.queue.push entry).capacity.limit waited)) + old.work shared.calls.length =
          SharedQueue.work { shared with queue := shared.queue.push entry } + 4 :=
        work_setCall found
      rw [longer] at moved
      exact Nat.le_of_eq moved

theorem work_tryPull {old : Call α} (found : shared.calls[caller]? = some old) :
    (shared.tryPull caller).work + old.work shared.calls.length ≤ shared.work + 5 := by
  unfold tryPull
  split
  · have moved : (shared.setCall caller (.returned (.ended .closed))).work +
        old.work shared.calls.length = shared.work + 5 := work_setCall found
    omega
  · split
    · rename_i entry queue popped
      obtain ⟨rest, front, same⟩ := Queue.front_of_pop popped
      have shorter : SharedQueue.work { shared with queue } + 6 = shared.work := by
        simp only [work, same, front, List.length_cons]
        omega
      have moved : SharedQueue.work ({ shared with queue }.setCall caller
          (.pulled entry queue.buffer.length queue.capacity.limit)) +
            old.work shared.calls.length = SharedQueue.work { shared with queue } + 11 :=
        work_setCall found
      omega
    · split
      · have moved : (shared.setCall caller (.returned (.ended .done))).work +
            old.work shared.calls.length = shared.work + 5 := work_setCall found
        omega
      · have moved : (shared.setCall caller .awaitingEntry).work +
            old.work shared.calls.length = shared.work + 5 := work_setCall found
        omega

theorem work_observe (size : UInt64) :
    (shared.observe size).work ≤ shared.work + shared.calls.length := by
  unfold observe
  dsimp only
  split
  · exact work_notifyAllRoom
  · exact Nat.le_add_right _ _

theorem length_observe (size : UInt64) :
    (shared.observe size).calls.length = shared.calls.length := by
  unfold observe
  dsimp only
  split
  · exact List.length_map _
  · rfl

theorem work_firstInsert {entry : α} {size : Option UInt64}
    (found : shared.calls[caller]? = some (.inserting entry size)) :
    (shared.firstInsert caller entry size).work < shared.work := by
  have arrives : ∀ observed : SharedQueue α,
      observed.calls[caller]? = some (.inserting entry size) →
      observed.work ≤ shared.work + shared.calls.length →
      observed.calls.length = shared.calls.length →
      (if observed.queue.refuses then observed.setCall caller (.returned .refused)
        else observed.tryPush caller entry false).work < shared.work := by
    intro observed found grown length
    split
    · have moved : (observed.setCall caller (.returned .refused)).work +
          (observed.calls.length + 11) = observed.work + 1 := work_setCall found
      omega
    · have moved : (observed.tryPush caller entry false).work +
          (observed.calls.length + 11) ≤ observed.work + 10 := work_tryPush found
      omega
  cases size with
  | none => exact arrives shared found (Nat.le_add_right _ _) rfl
  | some bytes =>
    exact arrives _ (found_observe found rfl) (work_observe bytes) (length_observe bytes)

/-- A call that takes the lock gets on. -/
theorem work_of_enter (entered : shared.enter caller = some next) :
    next.work < shared.work := by
  unfold enter at entered
  split at entered
  · rename_i found
    cases entered
    exact work_firstInsert found
  · rename_i entry found
    cases entered
    have moved : (shared.tryPush caller entry true).work + 11 ≤ shared.work + 10 :=
      work_tryPush found
    omega
  · rename_i found
    cases entered
    have moved : (shared.tryPull caller).work + 6 ≤ shared.work + 5 := work_tryPull found
    omega
  · rename_i found
    cases entered
    have moved : (shared.tryPull caller).work + 6 ≤ shared.work + 5 := work_tryPull found
    omega
  · contradiction

/-! ### What calls owe -/

theorem work_notifyOneRoom {target : Option Nat}
    (notified : shared.notifyOneRoom target = some next) : next.work ≤ shared.work + 1 := by
  rcases reached_of_notifyOneRoom notified with ⟨-, rfl⟩ | ⟨woken, entry, found, rfl⟩
  · exact Nat.le_succ _
  · have moved : (shared.setCall woken (.retryingInsert entry)).work + 10 =
        shared.work + 11 := work_setCall found
    omega

theorem work_notifyOneEntry {target : Option Nat}
    (notified : shared.notifyOneEntry target = some next) : next.work ≤ shared.work + 1 := by
  rcases reached_of_notifyOneEntry notified with ⟨-, rfl⟩ | ⟨woken, found, rfl⟩
  · exact Nat.le_succ _
  · have moved : (shared.setCall woken .retryingPull).work + 5 = shared.work + 6 :=
      work_setCall found
    omega

/-- A notification reaches somebody who waits, and nobody else. -/
theorem found_notifyOneRoom {target : Option Nat} {call : Call α}
    (notified : shared.notifyOneRoom target = some next)
    (found : shared.calls[caller]? = some call) (awake : call.isAwaitingRoom = false) :
    next.calls[caller]? = some call ∧ next.calls.length = shared.calls.length := by
  rcases reached_of_notifyOneRoom notified with ⟨-, rfl⟩ | ⟨woken, entry, waits, rfl⟩
  · exact ⟨found, rfl⟩
  · have apart : woken ≠ caller := by
      rintro rfl
      rw [found] at waits
      cases waits
      contradiction
    exact ⟨(List.getElem?_set_ne apart).trans found, length_setCall _⟩

theorem found_notifyOneEntry {target : Option Nat} {call : Call α}
    (notified : shared.notifyOneEntry target = some next)
    (found : shared.calls[caller]? = some call) (awake : call.isAwaitingEntry = false) :
    next.calls[caller]? = some call ∧ next.calls.length = shared.calls.length := by
  rcases reached_of_notifyOneEntry notified with ⟨-, rfl⟩ | ⟨woken, waits, rfl⟩
  · exact ⟨found, rfl⟩
  · have apart : woken ≠ caller := by
      rintro rfl
      rw [found] at waits
      cases waits
      contradiction
    exact ⟨(List.getElem?_set_ne apart).trans found, length_setCall _⟩

/-- A call that sends a notification gets on, and pays for those it wakes. -/
theorem work_of_notify {target : Option Nat}
    (notified : shared.notify caller target = some next) : next.work < shared.work := by
  unfold notify at notified
  split at notified
  · rename_i length capacity waited found
    obtain ⟨middle, first, rfl⟩ := Option.map_eq_some_iff.mp notified
    obtain ⟨here, -⟩ := found_notifyOneEntry first found rfl
    have woken := work_notifyOneEntry first
    have moved : (middle.setCall caller (.reportingPush length capacity waited)).work + 4 =
        middle.work + 2 := work_setCall here
    omega
  · rename_i entry length capacity found
    obtain ⟨middle, first, rfl⟩ := Option.map_eq_some_iff.mp notified
    obtain ⟨here, -⟩ := found_notifyOneRoom first found rfl
    have woken := work_notifyOneRoom first
    have moved : (middle.setCall caller (.reportingPull entry length capacity)).work + 11 =
        middle.work + 9 := work_setCall here
    omega
  · rename_i found
    cases notified
    have here : shared.notifyAllRoom.calls[caller]? = some .closedRoom := by
      simp [notifyAllRoom, found, Call.notifyRoom]
    have length : shared.notifyAllRoom.calls.length = shared.calls.length := List.length_map _
    have woken : shared.notifyAllRoom.work ≤ shared.work + shared.calls.length :=
      work_notifyAllRoom
    have moved : (shared.notifyAllRoom.setCall caller .closedEntries).work +
        (2 * shared.notifyAllRoom.calls.length + 3) =
          shared.notifyAllRoom.work + (shared.notifyAllRoom.calls.length + 2) :=
      work_setCall here
    omega
  · rename_i found
    cases notified
    have here : shared.notifyAllEntry.calls[caller]? = some .closedEntries := by
      simp [notifyAllEntry, found, Call.notifyEntry]
    have length : shared.notifyAllEntry.calls.length = shared.calls.length := List.length_map _
    have woken : shared.notifyAllEntry.work ≤ shared.work + shared.calls.length :=
      work_notifyAllEntry
    have moved : (shared.notifyAllEntry.setCall caller (.returned .closed)).work +
        (shared.notifyAllEntry.calls.length + 2) = shared.notifyAllEntry.work + 1 :=
      work_setCall here
    omega
  · contradiction

/-- A call that records its metrics gets on. -/
theorem work_of_report (reported : shared.report caller = some next) :
    next.work < shared.work := by
  unfold report at reported
  split at reported
  · rename_i waited found
    have moved : (shared.setCall caller (.returned .inserted)).work + 2 = shared.work + 1 :=
      work_setCall found
    cases reported
    have less : (shared.setCall caller (.returned .inserted)).work < shared.work := by omega
    cases waited
    · exact Nat.lt_of_le_of_lt (Nat.le_of_eq (work_of_same rfl rfl)) less
    · exact Nat.lt_of_le_of_lt (Nat.le_of_eq (work_of_same rfl rfl)) less
  · rename_i entry _ _ found
    have moved : (shared.setCall caller (.returned (.entry entry))).work + 9 =
        shared.work + 8 := work_setCall found
    have less : (shared.setCall caller (.returned (.entry entry))).work < shared.work := by
      omega
    cases reported
    exact Nat.lt_of_le_of_lt (Nat.le_of_eq (work_of_same rfl rfl)) less
  · contradiction

/-! ### What others give a call to do -/

theorem work_insert {entry : α} (stepped : shared.step (.insert caller entry) = some next) :
    next.work ≤ shared.work + (shared.calls.length + 12) := by
  simp only [step] at stepped
  split at stepped
  · rename_i found
    cases stepped
    have begins : ∀ new : Call α, new.work shared.calls.length ≤ shared.calls.length + 12 →
        SharedQueue.work ({ shared with sampler := shared.sampler.draw.2 }.setCall caller new) ≤
          shared.work + (shared.calls.length + 12) := by
      intro new little
      have moved : (shared.setCall caller new).work + 0 =
          shared.work + new.work shared.calls.length := work_setCall found
      have same : SharedQueue.work ({ shared with sampler := shared.sampler.draw.2 }.setCall
          caller new) = (shared.setCall caller new).work := work_of_same rfl rfl
      omega
    cases shared.sampler.draw.1
    · exact begins _ (Nat.le_succ _)
    · exact begins _ (Nat.le_refl _)
  · contradiction

theorem work_measured {size : UInt64} (stepped : shared.step (.measured caller size) = some next) :
    next.work < shared.work := by
  simp only [step] at stepped
  split at stepped
  · rename_i entry found
    cases stepped
    have moved : (shared.setCall caller (.inserting entry (some (measuredSize size)))).work +
        (shared.calls.length + 12) = shared.work + (shared.calls.length + 11) :=
      work_setCall found
    omega
  · contradiction

theorem work_pull (stepped : shared.step (.pull caller) = some next) :
    next.work = shared.work + 6 := by
  simp only [step] at stepped
  split at stepped
  · rename_i found
    cases stepped
    have moved : (shared.setCall caller .pulling).work + 0 = shared.work + 6 :=
      work_setCall found
    exact moved
  · contradiction

theorem work_leave {reply : Reply α} (replied : shared.reply? caller = some reply)
    (stepped : shared.step (.leave caller) = some next) :
    next.work + (Call.returned reply).work shared.calls.length = shared.work := by
  simp only [step] at stepped
  unfold reply? at replied
  split at stepped
  · rename_i found
    rw [found] at replied
    cases replied
    cases stepped
    exact work_setCall found
  · contradiction

theorem work_markDone : shared.markDone.work ≤ shared.work + 2 * shared.calls.length := by
  unfold markDone
  dsimp only
  split
  · have entry : shared.notifyAllEntry.work ≤ shared.work + shared.calls.length :=
      work_notifyAllEntry
    have length : shared.notifyAllEntry.calls.length = shared.calls.length := List.length_map _
    have room : shared.notifyAllEntry.notifyAllRoom.work ≤
        shared.notifyAllEntry.work + shared.notifyAllEntry.calls.length := work_notifyAllRoom
    refine Nat.le_trans (Nat.le_of_eq (work_of_same rfl rfl)) (Nat.le_trans room ?_)
    omega
  · exact Nat.le_add_right _ _

/-! ### Nobody joins or leaves -/

theorem length_of_step {event : Event α} (stepped : shared.step event = some next) :
    next.calls.length = shared.calls.length := by
  have same : next.outlines.length = shared.outlines.length := by
    cases event with
    | insert caller entry => simp [(insert_outline stepped).2.2]
    | measured caller size => simp [(measured_outline stepped).2]
    | measuringPanicked caller => simp [(measuringPanicked_outline stepped).2.2]
    | pull caller => simp [(pull_outline stepped).2.2]
    | enter caller => cases entered_of_enter stepped <;> simp [*]
    | notify caller target => simp [(notify_outline stepped).2]
    | report caller => simp [(report_outline stepped).2]
    | close caller => simp [(close_outline stepped).2.2]
    | markDone => simp [(markDone_outline stepped).2]
    | leave caller =>
      simp only [step] at stepped
      split at stepped
      · cases stepped
        simp
      · contradiction
  simpa [outlines] using same

end SharedQueue

end BoundedIngest

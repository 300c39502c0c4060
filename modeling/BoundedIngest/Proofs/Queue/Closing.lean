/-
Module: BoundedIngest.Proofs.Queue.Closing
Purpose: A call that closes a queue is never held up: nobody else moves it, and it has at most
  two notifications to send.
Main exports:
  SharedQueue.Event.caller?, SharedQueue.kept_of_others, Call.toSend, SharedQueue.toSend_of_notify,
  SharedQueue.toSend_of_step
-/
import BoundedIngest.Proofs.Queue.Work

namespace BoundedIngest

/-!
Others touch a call only to wake it, so a call that does not wait moves by its own steps alone.
A call that closes the queue never waits: once it has left the lock, it sends its notifications,
and its thread takes the reply.
-/

variable {α : Type}

/-- How many notifications a call that closes the queue still has to send. -/
def Call.toSend : Call α → Nat
  | .closedRoom => 2
  | .closedEntries => 1
  | _ => 0

theorem Call.toSend_le (call : Call α) : call.toSend ≤ 2 := by
  cases call <;> simp [Call.toSend]

theorem Call.toSend_of_outline {call : Call α} (other : call.outline ≠ .closing) :
    call.toSend = 0 := by
  cases call <;> first | rfl | exact absurd rfl other

theorem Call.notify_of_awake {call : Call α} (awake : call.isWaiting = false) :
    call.notifyRoom = call ∧ call.notifyEntry = call := by
  cases call <;> first | exact ⟨rfl, rfl⟩ | contradiction

namespace SharedQueue

/-- Whose call takes the step. -/
def Event.caller? : Event α → Option Nat
  | .insert caller _ | .measured caller _ | .measuringPanicked caller | .pull caller
  | .enter caller | .notify caller _ | .report caller | .close caller | .leave caller =>
      some caller
  | .markDone => none

variable {shared middle next : SharedQueue α} {caller other : Nat} {call new : Call α}
  {event : Event α}

/-! ### Nobody else moves a call that does not wait -/

theorem kept_setCall (apart : other ≠ caller) (found : middle.calls[caller]? = some call) :
    (middle.setCall other new).calls[caller]? = some call :=
  (List.getElem?_set_ne apart).trans found

theorem kept_notifyAllRoom (found : shared.calls[caller]? = some call)
    (awake : call.isWaiting = false) : shared.notifyAllRoom.calls[caller]? = some call := by
  simp [notifyAllRoom, found, Call.notify_of_awake awake]

theorem kept_notifyAllEntry (found : shared.calls[caller]? = some call)
    (awake : call.isWaiting = false) : shared.notifyAllEntry.calls[caller]? = some call := by
  simp [notifyAllEntry, found, Call.notify_of_awake awake]

theorem kept_tryPush {entry : α} {waited : Bool} (apart : other ≠ caller)
    (found : shared.calls[caller]? = some call) :
    (shared.tryPush other entry waited).calls[caller]? = some call := by
  unfold tryPush
  split
  · exact kept_setCall apart found
  · split <;> exact kept_setCall apart found

theorem kept_firstInsert {entry : α} {size : Option UInt64} (apart : other ≠ caller)
    (found : shared.calls[caller]? = some call) (awake : call.isWaiting = false) :
    (shared.firstInsert other entry size).calls[caller]? = some call := by
  have arrives : ∀ observed : SharedQueue α, observed.calls[caller]? = some call →
      (if observed.queue.refuses then observed.setCall other (.returned .refused)
        else observed.tryPush other entry false).calls[caller]? = some call := by
    intro observed found
    split
    · exact kept_setCall apart found
    · exact kept_tryPush apart found
  cases size with
  | none => exact arrives shared found
  | some size => exact arrives _ (found_observe found (Call.notify_of_awake awake).1)

theorem kept_tryPull (apart : other ≠ caller) (found : shared.calls[caller]? = some call) :
    (shared.tryPull other).calls[caller]? = some call := by
  unfold tryPull
  split
  · exact kept_setCall apart found
  · split
    · exact kept_setCall apart found
    · split <;> exact kept_setCall apart found

theorem kept_enter (apart : other ≠ caller) (found : shared.calls[caller]? = some call)
    (awake : call.isWaiting = false) (entered : shared.enter other = some next) :
    next.calls[caller]? = some call := by
  unfold enter at entered
  split at entered
  · cases entered
    exact kept_firstInsert apart found awake
  · cases entered
    exact kept_tryPush apart found
  · cases entered
    exact kept_tryPull apart found
  · cases entered
    exact kept_tryPull apart found
  · contradiction

theorem kept_notify {target : Option Nat} (apart : other ≠ caller)
    (found : shared.calls[caller]? = some call) (awake : call.isWaiting = false)
    (notified : shared.notify other target = some next) : next.calls[caller]? = some call := by
  obtain ⟨notRoom, notEntry⟩ := Bool.or_eq_false_iff.mp awake
  unfold notify at notified
  split at notified
  · obtain ⟨middle, first, rfl⟩ := Option.map_eq_some_iff.mp notified
    exact kept_setCall apart (found_notifyOneEntry first found notEntry).1
  · obtain ⟨middle, first, rfl⟩ := Option.map_eq_some_iff.mp notified
    exact kept_setCall apart (found_notifyOneRoom first found notRoom).1
  · cases notified
    exact kept_setCall apart (kept_notifyAllRoom found awake)
  · cases notified
    exact kept_setCall apart (kept_notifyAllEntry found awake)
  · contradiction

theorem kept_report (apart : other ≠ caller) (found : shared.calls[caller]? = some call)
    (reported : shared.report other = some next) : next.calls[caller]? = some call := by
  unfold report at reported
  split at reported
  · rename_i waited _
    cases reported
    cases waited <;> exact kept_setCall apart found
  · cases reported
    exact kept_setCall apart found
  · contradiction

/-- Nobody else moves a call that does not wait. -/
theorem kept_of_others (found : shared.calls[caller]? = some call)
    (awake : call.isWaiting = false) (others : event.caller? ≠ some caller)
    (stepped : shared.step event = some next) : next.calls[caller]? = some call := by
  have apart : ∀ {other : Nat}, event.caller? = some other → other ≠ caller := by
    rintro other whose rfl
    exact others whose
  cases event with
  | enter other => exact kept_enter (apart rfl) found awake stepped
  | notify other target => exact kept_notify (apart rfl) found awake stepped
  | report other => exact kept_report (apart rfl) found stepped
  | markDone =>
    cases stepped
    unfold markDone
    dsimp only
    split
    · exact kept_notifyAllRoom (kept_notifyAllEntry found awake) awake
    · exact found
  | close other =>
    simp only [step] at stepped
    split at stepped
    · cases stepped
      unfold close
      split <;> exact kept_setCall (apart rfl) found
    · contradiction
  | insert other | measured other | measuringPanicked other | pull other | leave other =>
    simp only [step] at stepped
    split at stepped
    · cases stepped
      exact kept_setCall (apart rfl) found
    · contradiction

/-! ### A call that closes the queue -/

theorem awake_of_closing (closing : call.outline = .closing) : call.isWaiting = false := by
  cases call <;> first | rfl | contradiction

/-- A notification that a call sends itself is one less to send. -/
theorem toSend_of_notify {target : Option Nat} (found : shared.calls[caller]? = some call)
    (closing : call.outline = .closing) (notified : shared.notify caller target = some next)
    (there : next.calls[caller]? = some new) : new.toSend < call.toSend := by
  have inside : ∀ {middle : SharedQueue α}, middle.calls.length = shared.calls.length →
      caller < middle.calls.length :=
    fun same => same ▸ (List.getElem?_eq_some_iff.mp found).1
  unfold notify at notified
  rw [found] at notified
  split at notified
  · rename_i same
    cases same
    contradiction
  · rename_i same
    cases same
    contradiction
  · rename_i same
    cases same
    cases notified
    cases (List.getElem?_set_self (inside (by simp [notifyAllRoom]))).symm.trans there
    exact Nat.one_lt_two
  · rename_i same
    cases same
    cases notified
    cases (List.getElem?_set_self (inside (by simp [notifyAllEntry]))).symm.trans there
    exact Nat.one_pos
  · contradiction

/-- Whoever takes a step, a call that closes the queue gets no more to send. -/
theorem toSend_of_step (found : shared.calls[caller]? = some call)
    (closing : call.outline = .closing) (stepped : shared.step event = some next)
    (there : next.calls[caller]? = some new) (still : new.outline = .closing) :
    new.toSend ≤ call.toSend := by
  by_cases own : event.caller? = some caller
  · -- Between its notifications such a call has nothing to do, and after them it only leaves.
    cases event with
    | notify other target =>
      cases own
      exact (toSend_of_notify found closing stepped there).le
    | leave other =>
      cases own
      simp only [step, found] at stepped
      split at stepped
      · cases stepped
        cases (List.getElem?_set_self (List.getElem?_eq_some_iff.mp found).1).symm.trans there
        contradiction
      · contradiction
    | markDone => contradiction
    | insert other | measured other | measuringPanicked other | pull other | enter other
    | report other | close other =>
      cases own
      simp only [step, enter, report, found] at stepped
      cases call <;> contradiction
  · have kept := kept_of_others found (awake_of_closing closing) own stepped
    cases kept.symm.trans there
    exact le_rfl

end SharedQueue

end BoundedIngest

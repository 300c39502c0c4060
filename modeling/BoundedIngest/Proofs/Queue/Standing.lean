/-
Module: BoundedIngest.Proofs.Queue.Standing
Purpose: How a call stands, as far as its wait for room, the length it leaves behind and its return
  are concerned, and what one step makes of that.
Main exports:
  Standing, Call.standing, SharedQueue.standings, SharedQueue.Proceeds, SharedQueue.Advanced,
  SharedQueue.advanced_of_step, SharedQueue.Reported, SharedQueue.reported_of_step
-/
import BoundedIngest.Proofs.Queue.Closing
import BoundedIngest.Proofs.Queue.Measurements

namespace BoundedIngest

/-!
A step moves the call that takes it, and apart from that it wakes calls that wait.  Being woken is
no progress: whoever is notified of room may have to wait again.  So a call that waits stands as it
did, however often it is notified, until it has the lock and is admitted or turned away.
-/

/-- How a call stands. -/
inductive Standing where
  | idle
  /-- An insert that has not had the lock yet. -/
  | arriving
  /-- An insert that has found no room so far. -/
  | waiting
  /-- An insert that has added its entry, left the queue at this length and has yet to return. -/
  | added (waited : Bool) (length : Nat)
  /-- An insert that has returned, its entry added. -/
  | admitted
  /-- An insert that has returned, its entry refused. -/
  | turnedAway
  /-- A pull that has taken no entry so far, or a close that has notifications to send. -/
  | working
  /-- A pull that has taken an entry, left the queue at this length and has yet to return. -/
  | took (length : Nat)
  /-- A pull or a close that has returned. -/
  | served
deriving Repr, DecidableEq

namespace Standing

/-- Nothing is in progress. -/
def isOver : Standing → Bool
  | .idle | .admitted | .turnedAway | .served => true
  | _ => false

/-- The length that is still to be recorded. -/
def length? : Standing → Option Nat
  | .added _ length | .took length => some length
  | _ => none

/-- An insert that is not in yet, and has waited or not. -/
def outside : Bool → Standing
  | true => .waiting
  | false => .arriving

theorem isOver_of_length {standing : Standing} {length : Nat}
    (owed : standing.length? = some length) : standing.isOver = false := by
  cases standing <;> first | rfl | contradiction

end Standing

def Call.standing {α : Type} : Call α → Standing
  | .idle => .idle
  | .measuring _ | .inserting .. => .arriving
  | .awaitingRoom _ | .retryingInsert _ => .waiting
  | .pushed length _ waited | .reportingPush length _ waited => .added waited length
  | .returned .inserted => .admitted
  | .returned .refused => .turnedAway
  | .pulling | .awaitingEntry | .retryingPull | .closedRoom | .closedEntries => .working
  | .pulled _ length _ | .reportingPull _ length _ => .took length
  | .returned _ => .served

variable {α : Type}

@[simp] theorem Call.standing_notifyRoom (call : Call α) :
    call.notifyRoom.standing = call.standing := by
  cases call <;> rfl

@[simp] theorem Call.standing_notifyEntry (call : Call α) :
    call.notifyEntry.standing = call.standing := by
  cases call <;> rfl

theorem Call.standing_returned (reply : Reply α) :
    (Call.returned reply).standing.isOver = true ∧ (Call.returned reply).standing ≠ .idle := by
  cases reply <;> exact ⟨rfl, by simp [standing]⟩

namespace SharedQueue

def standings (shared : SharedQueue α) : List Standing := shared.calls.map Call.standing

variable {shared middle next : SharedQueue α} {event : Event α} {caller : Nat} {entry : α}

theorem standings_getElem? {call : Call α} (found : shared.calls[caller]? = some call) :
    shared.standings[caller]? = some call.standing := by
  simp [standings, found]

@[simp] theorem standings_setCall (call : Call α) :
    (shared.setCall caller call).standings = shared.standings.set caller call.standing := by
  simp [standings, setCall]

@[simp] theorem standings_notifyAllRoom :
    shared.notifyAllRoom.standings = shared.standings := by
  simp [standings, notifyAllRoom]

@[simp] theorem standings_notifyAllEntry :
    shared.notifyAllEntry.standings = shared.standings := by
  simp [standings, notifyAllEntry]

theorem standings_setCall_same {old call : Call α} (found : shared.calls[caller]? = some old)
    (same : call.standing = old.standing) :
    (shared.setCall caller call).standings = shared.standings := by
  rw [standings_setCall, same]
  exact set_eq_self (standings_getElem? found)

@[simp] theorem standings_observe (size : UInt64) :
    (shared.observe size).standings = shared.standings := by
  unfold observe
  dsimp only
  split
  · exact standings_notifyAllRoom
  · rfl

theorem standings_notifyOneRoom {target : Option Nat}
    (notified : shared.notifyOneRoom target = some next) :
    next.standings = shared.standings := by
  rcases reached_of_notifyOneRoom notified with ⟨-, rfl⟩ | ⟨woken, entry, found, rfl⟩
  · rfl
  · exact standings_setCall_same found rfl

theorem standings_notifyOneEntry {target : Option Nat}
    (notified : shared.notifyOneEntry target = some next) :
    next.standings = shared.standings := by
  rcases reached_of_notifyOneEntry notified with ⟨-, rfl⟩ | ⟨woken, found, rfl⟩
  · rfl
  · exact standings_setCall_same found rfl

/-! ### One step -/

/-- What a step makes of the call that takes it, where the step leaves the entries alone. -/
inductive Proceeds (closed : Bool) : Event α → Standing → Standing → Prop
  | arrives (caller : Nat) (entry : α) : Proceeds closed (.insert caller entry) .idle .arriving
  | measures (caller : Nat) (size : UInt64) :
      Proceeds closed (.measured caller size) .arriving .arriving
  | panics (caller : Nat) : Proceeds closed (.measuringPanicked caller) .arriving .idle
  | waits (caller : Nat) (waited : Bool) :
      Proceeds closed (.enter caller) (.outside waited) .waiting
  /-- Only a close makes an insert give up that has waited. -/
  | givesUp (caller : Nat) (waited : Bool) (shut : waited = true → closed = true) :
      Proceeds closed (.enter caller) (.outside waited) .turnedAway
  | notifies (caller : Nat) (target : Option Nat) (old : Standing) (length : Nat)
      (owes : old.length? = some length) : Proceeds closed (.notify caller target) old old
  | reportsPush (caller : Nat) (waited : Bool) (length : Nat) :
      Proceeds closed (.report caller) (.added waited length) .admitted
  | reportsPull (caller length : Nat) : Proceeds closed (.report caller) (.took length) .served
  | pulls (caller : Nat) : Proceeds closed (.pull caller) .idle .working
  /-- There is nothing to close. -/
  | passes (caller : Nat) : Proceeds closed (.close caller) .idle .served
  | starves (caller : Nat) : Proceeds closed (.enter caller) .working .working
  | ends (caller : Nat) : Proceeds closed (.enter caller) .working .served
  | releases (caller : Nat) (target : Option Nat) :
      Proceeds closed (.notify caller target) .working .working
  | finishes (caller : Nat) (target : Option Nat) :
      Proceeds closed (.notify caller target) .working .served
  | leaves (caller : Nat) (old : Standing) (finished : old.isOver = true) (there : old ≠ .idle) :
      Proceeds closed (.leave caller) old .idle

/-- A step moves one call at most, and the entries change with an insert that adds one, a pull that
takes one, and a close. -/
inductive Advanced (shared : SharedQueue α) (event : Event α) (next : SharedQueue α) : Prop
  | marked (marks : event = .markDone) (kept : next.queue.buffer = shared.queue.buffer)
      (standings : next.standings = shared.standings)
  | proceeded (caller : Nat) (old new : Standing) (whose : event.caller? = some caller)
      (was : shared.standings[caller]? = some old)
      (proceeds : Proceeds shared.queue.closed event old new)
      (kept : next.queue.buffer = shared.queue.buffer)
      (standings : next.standings = shared.standings.set caller new)
  | added (caller : Nat) (waited : Bool) (enters : event = .enter caller)
      (was : shared.standings[caller]? = some (.outside waited))
      (stillOpen : shared.queue.closed = false)
      (standings : next.standings =
        shared.standings.set caller (.added waited next.queue.buffer.length))
  | took (caller : Nat) (enters : event = .enter caller)
      (was : shared.standings[caller]? = some .working)
      (stillOpen : shared.queue.closed = false)
      (standings : next.standings =
        shared.standings.set caller (.took next.queue.buffer.length))
  | closed (caller : Nat) (closes : event = .close caller)
      (was : shared.standings[caller]? = some .idle)
      (closable : shared.queue.isClosable = true) (emptied : next.queue.buffer = [])
      (standings : next.standings = shared.standings.set caller .working)

/-- An insert inside the lock, where `observed` has perhaps a measurement folded in. -/
theorem advanced_of_tryPush {observed : SharedQueue α} {waited : Bool}
    (contents : SameContents shared.queue observed.queue)
    (same : observed.standings = shared.standings)
    (was : shared.standings[caller]? = some (.outside waited)) :
    Advanced shared (.enter caller) (observed.tryPush caller entry waited) := by
  have closed : observed.queue.closed = shared.queue.closed := by rw [contents]
  have buffer : observed.queue.buffer = shared.queue.buffer := by rw [contents]
  unfold tryPush
  split
  · rename_i shut
    exact .proceeded caller _ .turnedAway rfl was
      (.givesUp caller waited fun _ => closed.symm.trans shut) buffer
      (by rw [standings_setCall, same]; rfl)
  · rename_i notClosed
    split
    · exact .proceeded caller _ .waiting rfl was (.waits caller waited) buffer
        (by rw [standings_setCall, same]; rfl)
    · refine .added caller waited rfl was ?_ ?_
      · rw [← closed]
        exact Bool.eq_false_of_not_eq_true notClosed
      · rw [standings_setCall]
        exact congrArg (fun standings : List Standing => standings.set caller _) same

theorem advanced_of_firstInsert {size : Option UInt64}
    (was : shared.standings[caller]? = some .arriving) :
    Advanced shared (.enter caller) (shared.firstInsert caller entry size) := by
  have arrives : ∀ observed : SharedQueue α, SameContents shared.queue observed.queue →
      observed.standings = shared.standings →
      Advanced shared (.enter caller)
        (if observed.queue.refuses then observed.setCall caller (.returned .refused)
          else observed.tryPush caller entry false) := by
    intro observed contents same
    split
    · exact .proceeded caller _ .turnedAway rfl was (.givesUp caller false (by simp))
        (by rw [queue_setCall, contents]) (by rw [standings_setCall, same]; rfl)
    · exact advanced_of_tryPush contents same was
  cases size with
  | none => exact arrives shared rfl rfl
  | some size => exact arrives _ (observe_contents size) (standings_observe size)

theorem advanced_of_tryPull (was : shared.standings[caller]? = some .working) :
    Advanced shared (.enter caller) (shared.tryPull caller) := by
  unfold tryPull
  split
  · exact .proceeded caller _ .served rfl was (.ends caller) rfl (standings_setCall _)
  · rename_i notClosed
    split
    · refine .took caller rfl was (Bool.eq_false_of_not_eq_true notClosed) ?_
      rw [standings_setCall]
      rfl
    · split
      · exact .proceeded caller _ .served rfl was (.ends caller) rfl (standings_setCall _)
      · exact .proceeded caller _ .working rfl was (.starves caller) rfl (standings_setCall _)

theorem advanced_of_enter (entered : shared.enter caller = some next) :
    Advanced shared (.enter caller) next := by
  unfold enter at entered
  split at entered
  · rename_i found
    cases entered
    exact advanced_of_firstInsert (standings_getElem? found)
  · rename_i found
    cases entered
    exact advanced_of_tryPush rfl rfl (standings_getElem? found)
  · rename_i found
    cases entered
    exact advanced_of_tryPull (standings_getElem? found)
  · rename_i found
    cases entered
    exact advanced_of_tryPull (standings_getElem? found)
  · contradiction

/-- A call that sends a notification may have moved on by that, and those that are notified have
not. -/
theorem advanced_of_notify {target : Option Nat}
    (notified : shared.notify caller target = some next) :
    Advanced shared (.notify caller target) next := by
  have buffer : next.queue.buffer = shared.queue.buffer := by rw [(notify_outline notified).1]
  unfold notify at notified
  split at notified
  · rename_i length capacity waited found
    obtain ⟨middle, first, rfl⟩ := Option.map_eq_some_iff.mp notified
    exact .proceeded caller _ _ rfl (standings_getElem? found) (.notifies caller _ _ length rfl)
      buffer (by rw [standings_setCall, standings_notifyOneEntry first]; rfl)
  · rename_i length capacity found
    obtain ⟨middle, first, rfl⟩ := Option.map_eq_some_iff.mp notified
    exact .proceeded caller _ _ rfl (standings_getElem? found) (.notifies caller _ _ length rfl)
      buffer (by rw [standings_setCall, standings_notifyOneRoom first]; rfl)
  · rename_i found
    cases notified
    exact .proceeded caller _ .working rfl (standings_getElem? found) (.releases caller none) buffer
      (by rw [standings_setCall, standings_notifyAllRoom]; rfl)
  · rename_i found
    cases notified
    exact .proceeded caller _ .served rfl (standings_getElem? found) (.finishes caller none) buffer
      (by rw [standings_setCall, standings_notifyAllEntry]; rfl)
  · contradiction

theorem advanced_of_report (reported : shared.report caller = some next) :
    Advanced shared (.report caller) next := by
  have buffer : next.queue.buffer = shared.queue.buffer := by rw [(report_outline reported).1]
  unfold report at reported
  split at reported
  · rename_i length capacity waited found
    refine .proceeded caller _ .admitted rfl (standings_getElem? found)
      (.reportsPush caller waited length) buffer ?_
    cases reported
    cases waited <;> exact standings_setCall _
  · rename_i length capacity found
    refine .proceeded caller _ .served rfl (standings_getElem? found)
      (.reportsPull caller length) buffer ?_
    cases reported
    exact standings_setCall _
  · contradiction

theorem advanced_of_step (stepped : shared.step event = some next) :
    Advanced shared event next := by
  cases event with
  | enter caller => exact advanced_of_enter stepped
  | notify caller target => exact advanced_of_notify stepped
  | report caller => exact advanced_of_report stepped
  | insert caller entry =>
    dsimp only [step] at stepped
    split at stepped
    · rename_i found
      cases stepped
      refine .proceeded caller _ .arriving rfl (standings_getElem? found) (.arrives caller entry)
        rfl ?_
      rw [standings_setCall]
      cases shared.sampler.draw.1 <;> rfl
    · contradiction
  | measured caller size =>
    dsimp only [step] at stepped
    split at stepped
    · rename_i found
      cases stepped
      exact .proceeded caller _ _ rfl (standings_getElem? found) (.measures caller size) rfl
        (standings_setCall _)
    · contradiction
  | measuringPanicked caller =>
    dsimp only [step] at stepped
    split at stepped
    · rename_i found
      cases stepped
      exact .proceeded caller _ _ rfl (standings_getElem? found) (.panics caller) rfl
        (standings_setCall _)
    · contradiction
  | pull caller =>
    dsimp only [step] at stepped
    split at stepped
    · rename_i found
      cases stepped
      exact .proceeded caller _ _ rfl (standings_getElem? found) (.pulls caller) rfl
        (standings_setCall _)
    · contradiction
  | close caller =>
    dsimp only [step] at stepped
    split at stepped
    · rename_i found
      cases stepped
      unfold close
      split
      · rename_i closable
        exact .closed caller rfl (standings_getElem? found) closable rfl (standings_setCall _)
      · exact .proceeded caller _ _ rfl (standings_getElem? found) (.passes caller) rfl
          (standings_setCall _)
    · contradiction
  | markDone =>
    refine .marked rfl (by rw [(markDone_outline stepped).1]; rfl) ?_
    cases stepped
    unfold markDone
    dsimp only
    split
    · exact standings_notifyAllRoom.trans standings_notifyAllEntry
    · rfl
  | leave caller =>
    dsimp only [step] at stepped
    split at stepped
    · rename_i reply found
      cases stepped
      obtain ⟨finished, there⟩ := Call.standing_returned reply
      exact .proceeded caller _ _ rfl (standings_getElem? found)
        (.leaves caller _ finished there) rfl (standings_setCall _)
    · contradiction

/-! ### What a step records -/

/-- A call that reports records the length that it has left behind, and with it that it has waited,
if it has.  No other step records either. -/
inductive Reported (shared : SharedQueue α) (event : Event α) (next : SharedQueue α) : Prop
  | push (caller : Nat) (waited : Bool) (length capacity : Nat) (reports : event = .report caller)
      (was : shared.standings[caller]? = some (.added waited length))
      (metrics : next.metrics =
        (if waited then shared.metrics.record .blockedInsert else shared.metrics).record
          (.queueDepth length capacity))
  | pull (caller length capacity : Nat) (reports : event = .report caller)
      (was : shared.standings[caller]? = some (.took length))
      (metrics : next.metrics = shared.metrics.record (.queueDepth length capacity))
  | other (unreported : ∀ caller, event ≠ .report caller)
      (metrics : next.metrics =
        { shared.metrics with averageEntryBytes := next.metrics.averageEntryBytes })

theorem reported_of_step (stepped : shared.step event = some next) :
    Reported shared event next := by
  have recorded := metrics_of_step stepped
  cases event with
  | report caller =>
    simp only [step, report] at stepped
    dsimp only [measurements] at recorded
    split at stepped
    · rename_i length capacity waited found
      rw [found] at recorded
      apply Reported.push caller waited length capacity rfl (standings_getElem? found)
      rw [recorded]
      cases waited <;> rfl
    · rename_i length capacity found
      rw [found] at recorded
      exact .pull caller length capacity rfl (standings_getElem? found) recorded
    · contradiction
  | enter caller =>
    apply Reported.other (by simp)
    rw [recorded]
    dsimp only [measurements]
    cases shared.folded? (.enter caller) with
    | none => rfl
    | some size =>
      dsimp only [Capacity.announcement]
      split <;> rfl
  | insert | measured | measuringPanicked | pull | notify | close | markDone | leave =>
    apply Reported.other (by simp)
    rw [recorded]
    rfl

end SharedQueue

end BoundedIngest

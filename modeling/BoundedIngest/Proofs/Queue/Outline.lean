/-
Module: BoundedIngest.Proofs.Queue.Outline
Purpose: What calls on a queue come to once waiting, notifications and metrics are left
  out, and what each step does to it.
Main exports:
  Outline, Call.outline, Queue.front_of_pop, SharedQueue.outlines, SharedQueue.Entered,
  SharedQueue.entered_of_enter, SharedQueue.reached_of_notifyOneRoom,
  SharedQueue.reached_of_notifyOneEntry, SharedQueue.Hinted
-/
import BoundedIngest.Queue.Shared
import BoundedIngest.Proofs.Lists

namespace BoundedIngest

/-!
A call does what it is there for in one critical section.  Before that it may wait and be
notified any number of times, and afterwards it owes notifications and metrics.  Its
outline tells only on which side of that critical section it is, and with what result.
-/

/-- How far a call has come, as far as the contents of the queue are concerned. -/
inductive Outline (α : Type) where
  | idle
  /-- Has an entry that is not in the queue yet. -/
  | inserting (entry : α)
  /-- Has added its entry. -/
  | inserted
  /-- Will not add its entry. -/
  | refused
  /-- Has taken no entry yet. -/
  | pulling
  /-- Has taken an entry. -/
  | holding (entry : α)
  /-- Has found the end of the queue. -/
  | ended (status : QueueStatus)
  /-- Has closed the queue, or had nothing to do. -/
  | closing
deriving Repr, DecidableEq

def Call.outline {α : Type} : Call α → Outline α
  | .idle => .idle
  | .measuring entry | .inserting entry _ | .awaitingRoom entry | .retryingInsert entry =>
      .inserting entry
  | .pushed .. | .reportingPush .. | .returned .inserted => .inserted
  | .returned .refused => .refused
  | .pulling | .awaitingEntry | .retryingPull => .pulling
  | .pulled entry .. | .reportingPull entry .. | .returned (.entry entry) => .holding entry
  | .returned (.ended status) => .ended status
  | .closedRoom | .closedEntries | .returned .closed => .closing

variable {α : Type}

@[simp] theorem Call.outline_notifyRoom (call : Call α) :
    call.notifyRoom.outline = call.outline := by
  cases call <;> rfl

@[simp] theorem Call.outline_notifyEntry (call : Call α) :
    call.notifyEntry.outline = call.outline := by
  cases call <;> rfl

/-- Taking the oldest entry leaves the others. -/
theorem Queue.front_of_pop {queue next : Queue α} {entry : α}
    (popped : queue.pop? = some (entry, next)) :
    ∃ rest, queue.buffer = entry :: rest ∧
      next = { queue with buffer := rest, lengthHint := rest.length } := by
  unfold Queue.pop? at popped
  split at popped
  · contradiction
  · rename_i rest front
    cases popped
    exact ⟨_, front, rfl⟩

theorem Queue.empty_of_pop {queue : Queue α} (popped : queue.pop? = none) :
    queue.buffer = [] := by
  unfold Queue.pop? at popped
  split at popped
  · assumption
  · contradiction

namespace SharedQueue

def outlines (shared : SharedQueue α) : List (Outline α) := shared.calls.map Call.outline

variable {shared next : SharedQueue α} {caller : Nat}

theorem outlines_getElem? {call : Call α} (found : shared.calls[caller]? = some call) :
    shared.outlines[caller]? = some call.outline := by
  simp [outlines, found]

@[simp] theorem outlines_setCall (call : Call α) :
    (shared.setCall caller call).outlines = shared.outlines.set caller call.outline := by
  simp [outlines, setCall]

@[simp] theorem outlines_notifyAllRoom : shared.notifyAllRoom.outlines = shared.outlines := by
  simp [outlines, notifyAllRoom]

@[simp] theorem outlines_notifyAllEntry : shared.notifyAllEntry.outlines = shared.outlines := by
  simp [outlines, notifyAllEntry]

@[simp] theorem queue_setCall (call : Call α) :
    (shared.setCall caller call).queue = shared.queue := rfl

/-- Setting a call to a stage of the same outline changes no outline. -/
theorem outlines_setCall_same {old call : Call α} (found : shared.calls[caller]? = some old)
    (same : call.outline = old.outline) :
    (shared.setCall caller call).outlines = shared.outlines := by
  rw [outlines_setCall, same]
  exact set_eq_self (outlines_getElem? found)

/-! ### The critical section of an insert or a pull -/

/-- Two queues that differ at most in their capacity. -/
def SameContents (first second : Queue α) : Prop :=
  second = { first with capacity := second.capacity }

theorem sameContents_of_eq {first second : Queue α} (same : second = first) :
    SameContents first second := by
  rw [same]
  rfl

/-- What a call does once it has the lock. -/
inductive Entered (shared : SharedQueue α) (caller : Nat) (next : SharedQueue α) : Prop
  /-- Gives up for good. -/
  | refused (entry : α) (was : shared.outlines[caller]? = some (.inserting entry))
      (reason : shared.queue.refuses = true)
      (contents : SameContents shared.queue next.queue)
      (outlines : next.outlines = shared.outlines.set caller .refused)
  /-- Waits for room. -/
  | delayed (contents : SameContents shared.queue next.queue)
      (outlines : next.outlines = shared.outlines)
  /-- Adds its entry. -/
  | pushed (entry : α) (was : shared.outlines[caller]? = some (.inserting entry))
      (stillOpen : shared.queue.closed = false)
      (contents : SameContents (shared.queue.push entry) next.queue)
      (outlines : next.outlines = shared.outlines.set caller .inserted)
  /-- Takes the oldest entry. -/
  | taken (entry : α) (was : shared.outlines[caller]? = some .pulling)
      (stillOpen : shared.queue.closed = false)
      (contents : shared.queue.pop? = some (entry, next.queue))
      (outlines : next.outlines = shared.outlines.set caller (.holding entry))
  /-- Finds the queue closed. -/
  | endedClosed (was : shared.outlines[caller]? = some .pulling)
      (reason : shared.queue.closed = true) (contents : next.queue = shared.queue)
      (outlines : next.outlines = shared.outlines.set caller (.ended .closed))
  /-- Finds the queue done. -/
  | endedDone (was : shared.outlines[caller]? = some .pulling)
      (reason : shared.queue.status = .done) (contents : next.queue = shared.queue)
      (outlines : next.outlines = shared.outlines.set caller (.ended .done))
  /-- Waits for an entry. -/
  | starved (contents : next.queue = shared.queue) (outlines : next.outlines = shared.outlines)

theorem observe_contents (size : UInt64) :
    SameContents shared.queue (shared.observe size).queue := by
  unfold observe SameContents
  dsimp only
  split <;> rfl

@[simp] theorem outlines_observe (size : UInt64) :
    (shared.observe size).outlines = shared.outlines := by
  unfold observe
  dsimp only
  split
  · exact outlines_notifyAllRoom
  · rfl

/-- Folding in a measurement moves only those who wait for room. -/
theorem found_observe {call : Call α} {size : UInt64}
    (found : shared.calls[caller]? = some call) (stays : call.notifyRoom = call) :
    (shared.observe size).calls[caller]? = some call := by
  unfold observe
  dsimp only
  split
  · simp [notifyAllRoom, record, found, stays]
  · exact found

theorem entered_of_tryPull (was : shared.outlines[caller]? = some .pulling) :
    Entered shared caller (shared.tryPull caller) := by
  unfold tryPull
  split
  · rename_i closed
    exact .endedClosed was closed rfl (by simp [Call.outline])
  · rename_i notClosed
    split
    · rename_i entry queue popped
      exact .taken entry was (by simpa using notClosed) popped
        (by simp [Call.outline, outlines, setCall])
    · rename_i popped
      have empty : shared.queue.buffer = [] := Queue.empty_of_pop popped
      split
      · rename_i finished
        exact .endedDone was
          (by simp [Queue.status, empty, finished, notClosed]) rfl (by simp [Call.outline])
      · refine .starved rfl ?_
        rw [outlines_setCall]
        exact set_eq_self was

/-- Folding in a measurement first, which `observed` stands for, makes no difference to
what an insert does with the contents. -/
theorem entered_of_tryPush {observed : SharedQueue α} {entry : α} {waited : Bool}
    (contents : SameContents shared.queue observed.queue)
    (same : observed.outlines = shared.outlines)
    (was : shared.outlines[caller]? = some (.inserting entry)) :
    Entered shared caller (observed.tryPush caller entry waited) := by
  have closedSame : observed.queue.closed = shared.queue.closed := by rw [contents]
  unfold tryPush
  split
  · rename_i closed
    refine .refused entry was ?_ contents (by simp [Call.outline, same])
    simp [Queue.refuses, ← closedSame, closed]
  · rename_i notClosed
    split
    · refine .delayed contents ?_
      rw [outlines_setCall, same]
      exact set_eq_self was
    · refine .pushed entry was (by simpa [← closedSame] using notClosed) ?_ ?_
      · rw [contents]
        rfl
      · rw [outlines_setCall]
        exact congrArg (·.set caller .inserted) same

theorem entered_of_firstInsert {entry : α} {size : Option UInt64}
    (was : shared.outlines[caller]? = some (.inserting entry)) :
    Entered shared caller (shared.firstInsert caller entry size) := by
  have arrive : ∀ observed : SharedQueue α,
      SameContents shared.queue observed.queue → observed.outlines = shared.outlines →
      Entered shared caller
        (if observed.queue.refuses then observed.setCall caller (.returned .refused)
          else observed.tryPush caller entry false) := by
    intro observed contents same
    split
    · rename_i refuses
      rw [contents] at refuses
      exact .refused entry was refuses contents (by simp [Call.outline, same])
    · exact entered_of_tryPush contents same was
  cases size with
  | none => exact arrive shared rfl rfl
  | some bytes => exact arrive _ (observe_contents bytes) (outlines_observe bytes)

theorem entered_of_enter (entered : shared.enter caller = some next) :
    Entered shared caller next := by
  unfold enter at entered
  split at entered
  · rename_i found
    cases entered
    exact entered_of_firstInsert (outlines_getElem? found)
  · rename_i found
    cases entered
    exact entered_of_tryPush rfl rfl (outlines_getElem? found)
  · rename_i found
    cases entered
    exact entered_of_tryPull (outlines_getElem? found)
  · rename_i found
    cases entered
    exact entered_of_tryPull (outlines_getElem? found)
  · simp at entered

/-! ### What calls owe -/

/-- A notification for room reaches nobody only if nobody waits. -/
theorem reached_of_notifyOneRoom {target : Option Nat}
    (notified : shared.notifyOneRoom target = some next) :
    (shared.calls.any Call.isAwaitingRoom = false ∧ next = shared) ∨
      ∃ woken entry, shared.calls[woken]? = some (.awaitingRoom entry) ∧
        next = shared.setCall woken (.retryingInsert entry) := by
  unfold notifyOneRoom at notified
  split at notified
  · split at notified
    · contradiction
    · rename_i nobody
      exact .inl ⟨Bool.eq_false_of_not_eq_true nobody, (Option.some.inj notified).symm⟩
  · split at notified
    · rename_i found
      exact .inr ⟨_, _, found, (Option.some.inj notified).symm⟩
    · contradiction

/-- A notification for an entry reaches nobody only if nobody waits. -/
theorem reached_of_notifyOneEntry {target : Option Nat}
    (notified : shared.notifyOneEntry target = some next) :
    (shared.calls.any Call.isAwaitingEntry = false ∧ next = shared) ∨
      ∃ woken, shared.calls[woken]? = some .awaitingEntry ∧
        next = shared.setCall woken .retryingPull := by
  unfold notifyOneEntry at notified
  split at notified
  · split at notified
    · contradiction
    · rename_i nobody
      exact .inl ⟨Bool.eq_false_of_not_eq_true nobody, (Option.some.inj notified).symm⟩
  · split at notified
    · rename_i found
      exact .inr ⟨_, found, (Option.some.inj notified).symm⟩
    · contradiction

theorem notifyOneRoom_outline {target : Option Nat}
    (notified : shared.notifyOneRoom target = some next) :
    next.queue = shared.queue ∧ next.outlines = shared.outlines := by
  rcases reached_of_notifyOneRoom notified with ⟨-, rfl⟩ | ⟨woken, entry, found, rfl⟩
  · exact ⟨rfl, rfl⟩
  · exact ⟨rfl, outlines_setCall_same found rfl⟩

theorem notifyOneEntry_outline {target : Option Nat}
    (notified : shared.notifyOneEntry target = some next) :
    next.queue = shared.queue ∧ next.outlines = shared.outlines := by
  rcases reached_of_notifyOneEntry notified with ⟨-, rfl⟩ | ⟨woken, found, rfl⟩
  · exact ⟨rfl, rfl⟩
  · exact ⟨rfl, outlines_setCall_same found rfl⟩

/-- A call that sends a notification stays on its side of its critical section, and so do
those that are notified. -/
theorem notify_outline {target : Option Nat}
    (notified : shared.notify caller target = some next) :
    next.queue = shared.queue ∧ next.outlines = shared.outlines := by
  have settle : ∀ {middle : SharedQueue α} {old call : Call α},
      shared.calls[caller]? = some old → call.outline = old.outline →
      middle.outlines = shared.outlines →
      (middle.setCall caller call).outlines = shared.outlines := by
    intro middle old call found stage same
    rw [outlines_setCall, same, stage]
    exact set_eq_self (outlines_getElem? found)
  unfold notify at notified
  split at notified
  · rename_i found
    obtain ⟨middle, first, rfl⟩ := Option.map_eq_some_iff.mp notified
    obtain ⟨queue, same⟩ := notifyOneEntry_outline first
    exact ⟨queue, settle found rfl same⟩
  · rename_i found
    obtain ⟨middle, first, rfl⟩ := Option.map_eq_some_iff.mp notified
    obtain ⟨queue, same⟩ := notifyOneRoom_outline first
    exact ⟨queue, settle found rfl same⟩
  · rename_i found
    cases notified
    exact ⟨rfl, settle found rfl outlines_notifyAllRoom⟩
  · rename_i found
    cases notified
    exact ⟨rfl, settle found rfl outlines_notifyAllEntry⟩
  · simp at notified

theorem report_outline (reported : shared.report caller = some next) :
    next.queue = shared.queue ∧ next.outlines = shared.outlines := by
  unfold report at reported
  split at reported
  · rename_i waited found
    have same : (shared.setCall caller (.returned .inserted)).outlines = shared.outlines :=
      outlines_setCall_same found rfl
    cases reported
    cases waited <;> exact ⟨rfl, same⟩
  · rename_i entry _ _ found
    have same : (shared.setCall caller (.returned (.entry entry))).outlines =
        shared.outlines := outlines_setCall_same found rfl
    cases reported
    exact ⟨rfl, same⟩
  · simp at reported

/-! ### Between two critical sections -/

theorem insert_outline {entry : α} (stepped : shared.step (.insert caller entry) = some next) :
    shared.outlines[caller]? = some .idle ∧ next.queue = shared.queue ∧
      next.outlines = shared.outlines.set caller (.inserting entry) := by
  simp only [step] at stepped
  split at stepped
  · rename_i found
    cases stepped
    refine ⟨outlines_getElem? found, rfl, ?_⟩
    rw [outlines_setCall]
    cases shared.sampler.draw.1 <;> rfl
  · simp at stepped

theorem measured_outline {size : UInt64}
    (stepped : shared.step (.measured caller size) = some next) :
    next.queue = shared.queue ∧ next.outlines = shared.outlines := by
  simp only [step] at stepped
  split at stepped
  · rename_i found
    cases stepped
    exact ⟨rfl, outlines_setCall_same found rfl⟩
  · simp at stepped

theorem measuringPanicked_outline
    (stepped : shared.step (.measuringPanicked caller) = some next) :
    (∃ entry, shared.outlines[caller]? = some (.inserting entry)) ∧
      next.queue = shared.queue ∧ next.outlines = shared.outlines.set caller .idle := by
  simp only [step] at stepped
  split at stepped
  · rename_i entry found
    cases stepped
    exact ⟨⟨entry, outlines_getElem? found⟩, rfl, outlines_setCall _⟩
  · simp at stepped

theorem pull_outline (stepped : shared.step (.pull caller) = some next) :
    shared.outlines[caller]? = some .idle ∧ next.queue = shared.queue ∧
      next.outlines = shared.outlines.set caller .pulling := by
  simp only [step] at stepped
  split at stepped
  · rename_i found
    cases stepped
    exact ⟨outlines_getElem? found, rfl, outlines_setCall _⟩
  · simp at stepped

theorem close_outline (stepped : shared.step (.close caller) = some next) :
    shared.outlines[caller]? = some .idle ∧
      next.queue = (if shared.queue.isClosable then shared.queue.close else shared.queue) ∧
      next.outlines = shared.outlines.set caller .closing := by
  simp only [step] at stepped
  split at stepped
  · rename_i found
    cases stepped
    refine ⟨outlines_getElem? found, ?_⟩
    unfold close
    split <;> exact ⟨rfl, outlines_setCall _⟩
  · simp at stepped

theorem markDone_outline (stepped : shared.step .markDone = some next) :
    next.queue = shared.queue.markDone ∧ next.outlines = shared.outlines := by
  cases stepped
  unfold markDone
  dsimp only
  split
  · rw [outlines_notifyAllRoom, outlines_notifyAllEntry]
    exact ⟨rfl, rfl⟩
  · exact ⟨rfl, rfl⟩

theorem leave_contents (stepped : shared.step (.leave caller) = some next) :
    next.queue = shared.queue ∧ next.outlines = shared.outlines.set caller .idle := by
  simp only [step] at stepped
  split at stepped
  · cases stepped
    exact ⟨rfl, outlines_setCall _⟩
  · contradiction

/-- A reply is what the outline of the call says. -/
theorem outline_of_reply {reply : Reply α} (replied : shared.reply? caller = some reply) :
    shared.outlines[caller]? = some (Call.returned reply).outline := by
  unfold reply? at replied
  split at replied
  · rename_i found
    cases replied
    exact outlines_getElem? found
  · contradiction

/-- Only a call that has returned is left. -/
theorem reply_of_leave (stepped : shared.step (.leave caller) = some next) :
    ∃ reply, shared.reply? caller = some reply := by
  simp only [step] at stepped
  unfold reply?
  split at stepped
  · rename_i reply found
    exact ⟨reply, rfl⟩
  · contradiction

/-- Taking a reply takes it from a call that has returned with it. -/
theorem leave_outline {reply : Reply α} (replied : shared.reply? caller = some reply)
    (stepped : shared.step (.leave caller) = some next) :
    shared.outlines[caller]? = some (Call.returned reply).outline ∧
      next.queue = shared.queue ∧ next.outlines = shared.outlines.set caller .idle := by
  simp only [step] at stepped
  unfold reply? at replied
  split at stepped
  · rename_i found
    rw [found] at replied
    cases replied
    cases stepped
    exact ⟨outlines_getElem? found, rfl, outlines_setCall _⟩
  · simp at stepped

/-! ### The length that is read without the lock -/

/-- The length read without the lock is the length. -/
def Hinted (shared : SharedQueue α) : Prop :=
  shared.queue.lengthHint = shared.queue.buffer.length

theorem Hinted.same (hinted : shared.Hinted) (contents : SameContents shared.queue next.queue) :
    next.Hinted := by
  rw [Hinted, contents]
  exact hinted

theorem Hinted.enter (hinted : shared.Hinted) (entered : shared.enter caller = some next) :
    next.Hinted := by
  cases entered_of_enter entered with
  | refused entry was reason contents outlines => exact hinted.same contents
  | delayed contents outlines => exact hinted.same contents
  | pushed entry was stillOpen contents outlines =>
    rw [Hinted, contents]
    rfl
  | taken entry was stillOpen contents outlines =>
    obtain ⟨rest, front, queue⟩ := Queue.front_of_pop contents
    rw [Hinted, queue]
  | endedClosed was reason contents outlines => rwa [Hinted, contents]
  | endedDone was reason contents outlines => rwa [Hinted, contents]
  | starved contents outlines => rwa [Hinted, contents]

theorem Hinted.step {event : Event α} (hinted : shared.Hinted)
    (stepped : shared.step event = some next) : next.Hinted := by
  have same : next.queue = shared.queue → next.Hinted := by
    intro queue
    rwa [Hinted, queue]
  cases event with
  | insert caller entry => exact same (insert_outline stepped).2.1
  | measured caller size => exact same (measured_outline stepped).1
  | measuringPanicked caller => exact same (measuringPanicked_outline stepped).2.1
  | pull caller => exact same (pull_outline stepped).2.1
  | enter caller => exact hinted.enter stepped
  | notify caller target => exact same (notify_outline stepped).1
  | report caller => exact same (report_outline stepped).1
  | close caller =>
    rw [Hinted, (close_outline stepped).2.1]
    split
    · rfl
    · exact hinted
  | markDone =>
    rw [Hinted, (markDone_outline stepped).1]
    exact hinted
  | leave caller => exact same (leave_contents stepped).1

end SharedQueue

end BoundedIngest

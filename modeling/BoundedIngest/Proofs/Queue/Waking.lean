/-
Module: BoundedIngest.Proofs.Queue.Waking
Purpose: No notification is lost: once none is owed and nobody has yet to act on one,
  whoever waits inside a queue has to wait.
Main exports:
  Call.owesNotification, Call.wasNotified, SharedQueue.Quiet, SharedQueue.producers_of_run,
  SharedQueue.waits_only_if_it_must
-/
import BoundedIngest.Proofs.Queue.Waiting

namespace BoundedIngest

/-!
A push notifies one pull and a pull notifies one insert, although a newcomer may take the
entry or the place before the notified call has the lock again.  This suffices because the
newcomer then owes a notification itself.  So there is nothing to be seen of it while calls
are on their way; it shows once they all have arrived.
-/

variable {α : Type}

namespace Call

/-- The call has released the lock and has not sent its notification yet. -/
def owesNotification : Call α → Bool
  | .pushed .. | .pulled .. | .closedRoom | .closedEntries => true
  | _ => false

/-- The call was notified and has not looked at the queue again yet. -/
def wasNotified : Call α → Bool
  | .retryingInsert _ | .retryingPull => true
  | _ => false

/-- A call is on its way because it owes a notification or because it got one. -/
theorem isOnTheWay_eq (call : Call α) :
    call.isOnTheWay = (call.owesNotification || call.wasNotified) := by
  cases call <;> rfl

end Call

namespace SharedQueue

/-- No notification is owed, and nobody has yet to act on one. -/
def Quiet (shared : SharedQueue α) : Prop :=
  ∀ call ∈ shared.calls, call.owesNotification = false ∧ call.wasNotified = false

variable {shared next : SharedQueue α}

/-- Where all is quiet, no call does anything for others. -/
theorem Quiet.nobody (quiet : shared.Quiet) {test : Call α → Bool}
    (part : ∀ call, test call = true → call.isOnTheWay = true) :
    shared.calls.countP test = 0 := by
  rw [List.countP_eq_zero]
  intro call present does
  obtain ⟨owes, notified⟩ := quiet call present
  have moving : call.isOnTheWay = true := part call does
  rw [Call.isOnTheWay_eq, owes, notified] at moving
  contradiction

namespace Attended

variable {caller : Nat} {entry : α}

/-- Where all is quiet, an insert waits only for room in a full queue. -/
theorem full_of_waits (attended : shared.Attended) (quiet : shared.Quiet)
    (waits : shared.calls[caller]? = some (.awaitingRoom entry)) :
    shared.queue.closed = false ∧
      shared.queue.capacity.limit ≤ shared.queue.buffer.length := by
  have somebody : 0 < shared.calls.countP Call.isAwaitingRoom :=
    List.countP_pos_iff.mpr ⟨_, List.mem_of_getElem? waits, rfl⟩
  cases closed : shared.queue.closed with
  | true =>
    have wakes := attended.inserts closed somebody
    rw [quiet.nobody fun call does => by simp [Call.isOnTheWay, does]] at wakes
    exact absurd wakes (Nat.lt_irrefl 0)
  | false =>
    have room := attended.room closed somebody
    rw [quiet.nobody fun call does => by simp [Call.isOnTheWay, does]] at room
    exact ⟨rfl, room⟩

/-- Where all is quiet, a pull waits only for a producer, at an empty queue. -/
theorem empty_of_waits (attended : shared.Attended) (quiet : shared.Quiet)
    (waits : shared.calls[caller]? = some .awaitingEntry) :
    shared.queue.closed = false ∧ shared.queue.buffer = [] ∧
      shared.queue.producersFinished = false := by
  have somebody : 0 < shared.calls.countP Call.isAwaitingEntry :=
    List.countP_pos_iff.mpr ⟨_, List.mem_of_getElem? waits, rfl⟩
  cases closed : shared.queue.closed with
  | true =>
    have wakes := attended.pulls closed somebody
    rw [quiet.nobody fun call does => by simp [Call.isOnTheWay, does]] at wakes
    exact absurd wakes (Nat.lt_irrefl 0)
  | false =>
    have entry := attended.entry closed somebody
    rw [quiet.nobody fun call does => by simp [Call.isOnTheWay, does]] at entry
    exact ⟨rfl, List.length_eq_zero_iff.mp (Nat.le_zero.mp entry),
      attended.unfinished closed somebody⟩

end Attended

/-! ### Which producers are done -/

/-- A producer is marked done. -/
def Event.marks : Event α → Bool
  | .markDone => true
  | _ => false

/-- How many producers are done once so many more were marked. -/
def doneAfter (queue : Queue α) (marks : Nat) : Nat :=
  min (queue.producersDone + marks) queue.producersTotal

theorem producers_of_same (contents : SameContents shared.queue next.queue) :
    next.queue.producersTotal = shared.queue.producersTotal ∧
      next.queue.producersDone = shared.queue.producersDone := by
  rw [contents]
  exact ⟨rfl, rfl⟩

theorem producers_of_enter {caller : Nat} (entered : shared.enter caller = some next) :
    next.queue.producersTotal = shared.queue.producersTotal ∧
      next.queue.producersDone = shared.queue.producersDone := by
  cases entered_of_enter entered with
  | refused entry was reason contents outlines => exact producers_of_same contents
  | delayed contents outlines => exact producers_of_same contents
  | pushed entry was stillOpen contents outlines =>
    rw [contents]
    exact ⟨rfl, rfl⟩
  | taken entry was stillOpen contents outlines =>
    obtain ⟨rest, -, queue⟩ := Queue.front_of_pop contents
    rw [queue]
    exact ⟨rfl, rfl⟩
  | endedClosed was reason contents outlines =>
    exact producers_of_same (sameContents_of_eq contents)
  | endedDone was reason contents outlines => exact producers_of_same (sameContents_of_eq contents)
  | starved contents outlines => exact producers_of_same (sameContents_of_eq contents)

/-- A producer is done only when it is marked. -/
theorem producers_of_step {event : Event α} (stepped : shared.step event = some next)
    (bound : shared.queue.producersDone ≤ shared.queue.producersTotal) :
    next.queue.producersTotal = shared.queue.producersTotal ∧
      next.queue.producersDone = doneAfter shared.queue event.marks.toNat := by
  have unmarked : event.marks = false →
      next.queue.producersTotal = shared.queue.producersTotal ∧
        next.queue.producersDone = shared.queue.producersDone →
      next.queue.producersTotal = shared.queue.producersTotal ∧
        next.queue.producersDone = doneAfter shared.queue event.marks.toNat := by
    rintro none ⟨total, done⟩
    rw [none, doneAfter, Bool.toNat_false, Nat.add_zero, Nat.min_eq_left bound]
    exact ⟨total, done⟩
  have same : next.queue = shared.queue →
      next.queue.producersTotal = shared.queue.producersTotal ∧
        next.queue.producersDone = shared.queue.producersDone :=
    fun queue => producers_of_same (sameContents_of_eq queue)
  cases event with
  | insert caller entry => exact unmarked rfl (same (insert_outline stepped).2.1)
  | measured caller size => exact unmarked rfl (same (measured_outline stepped).1)
  | measuringPanicked caller =>
    exact unmarked rfl (same (measuringPanicked_outline stepped).2.1)
  | pull caller => exact unmarked rfl (same (pull_outline stepped).2.1)
  | enter caller => exact unmarked rfl (producers_of_enter stepped)
  | notify caller target => exact unmarked rfl (same (notify_outline stepped).1)
  | report caller => exact unmarked rfl (same (report_outline stepped).1)
  | leave caller => exact unmarked rfl (same (leave_contents stepped).1)
  | close caller =>
    refine unmarked rfl ?_
    rw [(close_outline stepped).2.1]
    split <;> exact ⟨rfl, rfl⟩
  | markDone =>
    rw [(markDone_outline stepped).1]
    exact ⟨rfl, rfl⟩

/-- As many producers are done as were marked, up to all there are. -/
theorem producers_of_run {events : List (Event α)}
    (bound : shared.queue.producersDone ≤ shared.queue.producersTotal)
    (ran : shared.run events = some next) :
    next.queue.producersTotal = shared.queue.producersTotal ∧
      next.queue.producersDone = doneAfter shared.queue (events.countP Event.marks) := by
  induction events generalizing shared with
  | nil =>
    cases ran
    exact ⟨rfl, (Nat.min_eq_left bound).symm⟩
  | cons event rest ih =>
    obtain ⟨middle, stepped, ran⟩ := Option.bind_eq_some_iff.mp ran
    obtain ⟨total, done⟩ := producers_of_step stepped bound
    have stillBound : middle.queue.producersDone ≤ middle.queue.producersTotal := by
      rw [total, done]
      exact Nat.min_le_right _ _
    obtain ⟨finalTotal, finalDone⟩ := ih stillBound ran
    refine ⟨finalTotal.trans total, ?_⟩
    rw [finalDone, doneAfter, doneAfter, total, done, doneAfter, List.countP_cons]
    cases event.marks <;> simp only [Bool.toNat_false, Bool.toNat_true] <;> simp <;> omega

/-- A fresh queue has a producer left as long as fewer were marked than it expects. -/
theorem unfinished_iff {config : ExecutorConfig} {producers callers : Nat}
    {events : List (Event α)} (ran : (start config producers callers).run events = some shared) :
    shared.queue.producersFinished = false ↔ events.countP Event.marks < producers := by
  obtain ⟨total, done⟩ := producers_of_run (Nat.zero_le _) ran
  rw [Queue.producersFinished, decide_eq_false_iff_not, total, done]
  simp [doneAfter, start, Queue.start]

/-! ### Nobody waits in vain -/

/-- Whatever the calls on a queue do, and in which order: if no call owes a notification
and none has yet to look at the queue again after it was notified, an insert that waits
faces a queue that is open and full, and a pull that waits faces one that is open and empty
and has a producer that was not marked done. -/
theorem waits_only_if_it_must {config : ExecutorConfig} {producers callers : Nat}
    {events : List (Event α)} (ran : (start config producers callers).run events = some shared)
    (quiet : shared.Quiet) :
    (∀ (caller : Nat) (entry : α), shared.calls[caller]? = some (.awaitingRoom entry) →
        shared.queue.closed = false ∧
          shared.queue.capacity.limit ≤ shared.queue.buffer.length) ∧
      ∀ caller : Nat, shared.calls[caller]? = some .awaitingEntry →
        shared.queue.closed = false ∧ shared.queue.buffer = [] ∧
          events.countP Event.marks < producers := by
  have attended : shared.Attended := (attended_start config producers callers).run ran
  constructor
  · intro caller entry waits
    exact attended.full_of_waits quiet waits
  · intro caller waits
    obtain ⟨stillOpen, empty, unfinished⟩ := attended.empty_of_waits quiet waits
    exact ⟨stillOpen, empty, (unfinished_iff ran).mp unfinished⟩

/-- A pull makes room for an insert that waits, a newcomer takes the place before the
notified insert has the lock again, and so it waits once more. -/
def robbing : List (Event Nat) :=
  [.insert 0 1, .measured 0 10, .enter 0, .notify 0 none, .report 0, .leave 0,
    .insert 1 2, .measured 1 10, .enter 1, .pull 2, .enter 2, .insert 3 3, .measured 3 10,
    .enter 3, .notify 2 (some 1), .report 2, .notify 3 none, .report 3, .enter 1]

/-- A pull finds an entry, and the next one waits although a producer is done. -/
def starving : List (Event Nat) :=
  [.insert 0 1, .measured 0 10, .enter 0, .notify 0 none, .report 0, .pull 1, .enter 1,
    .notify 1 none, .report 1, .leave 1, .markDone, .pull 1, .enter 1]

theorem waits_only_if_it_must_inhabited :
    (∃ shared : SharedQueue Nat,
      (start { writeBufferLimitBytes := 10 } 2 4).run robbing = some shared ∧ shared.Quiet ∧
        shared.calls[1]? = some (.awaitingRoom 2) ∧ shared.queue.closed = false ∧
        shared.queue.capacity.limit ≤ shared.queue.buffer.length) ∧
      ∃ shared : SharedQueue Nat,
        (start { writeBufferLimitBytes := 10 } 2 2).run starving = some shared ∧
          shared.Quiet ∧ shared.calls[1]? = some .awaitingEntry ∧
          shared.queue.closed = false ∧ shared.queue.buffer = [] ∧
          starving.countP Event.marks < 2 := by
  constructor
  · have runs : ((start { writeBufferLimitBytes := 10 } 2 4).run robbing).map (fun shared =>
        shared.calls.all (fun call => !call.owesNotification && !call.wasNotified) &&
          decide (shared.calls[1]? = some (.awaitingRoom 2))) = some true := by
      decide +kernel
    obtain ⟨shared, ran, holds⟩ := Option.map_eq_some_iff.mp runs
    rw [Bool.and_eq_true] at holds
    have quiet : shared.Quiet := by simpa [Quiet] using holds.1
    have waits := of_decide_eq_true holds.2
    exact ⟨shared, ran, quiet, waits, (waits_only_if_it_must ran quiet).1 1 2 waits⟩
  · have runs : ((start { writeBufferLimitBytes := 10 } 2 2).run starving).map (fun shared =>
        shared.calls.all (fun call => !call.owesNotification && !call.wasNotified) &&
          decide (shared.calls[1]? = some .awaitingEntry)) = some true := by
      decide +kernel
    obtain ⟨shared, ran, holds⟩ := Option.map_eq_some_iff.mp runs
    rw [Bool.and_eq_true] at holds
    have quiet : shared.Quiet := by simpa [Quiet] using holds.1
    have waits := of_decide_eq_true holds.2
    exact ⟨shared, ran, quiet, waits, (waits_only_if_it_must ran quiet).2 1 waits⟩

end SharedQueue

end BoundedIngest

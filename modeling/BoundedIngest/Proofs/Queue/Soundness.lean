/-
Module: BoundedIngest.Proofs.Queue.Soundness
Purpose: How the fields of a queue hang together whenever nobody has the lock.
Main exports:
  SharedQueue.Sound, SharedQueue.Sound.step, SharedQueue.Sound.run, SharedQueue.fields_agree
-/
import BoundedIngest.Proofs.Queue.Admission
import BoundedIngest.Proofs.Queue.Traffic
import BoundedIngest.Proofs.Queue.Waking

namespace BoundedIngest

/-!
Each critical section updates several fields of a queue, and it may end early, with a refusal or a
wait.  Whichever way it ends, the length that is read without the lock is the length again when the
lock is free, a close has left nothing behind, no more producers are done than there are, and the
limit is one that the settings allow.
-/

variable {α : Type}

namespace SharedQueue

variable {shared next final : SharedQueue α} {event : Event α} {events : List (Event α)}
  {most : Nat}

/-- A closed queue is empty, and only an open one is filled. -/
theorem emptied_of_step (emptied : shared.queue.closed = true → shared.queue.buffer = [])
    (stepped : shared.step event = some next) (closed : next.queue.closed = true) :
    next.queue.buffer = [] := by
  have watched : (Watch.begin shared).step event =
      some { shared := next, traffic := Traffic.extend {} shared event next } := by
    rw [Watch.step, Watch.begin, stepped]
    rfl
  exact Watch.empty_of_moved emptied (Watch.moved_of_step watched) closed

/-- What holds of a queue whenever nobody has the lock. -/
structure Sound (most : Nat) (shared : SharedQueue α) : Prop where
  hinted : shared.Hinted
  emptied : shared.queue.closed = true → shared.queue.buffer = []
  marked : shared.queue.producersDone ≤ shared.queue.producersTotal
  /-- Whoever waits has somebody to wake it, so the limit is one entry at least. -/
  attended : shared.Attended
  confined : shared.Confined most

theorem sound_start (config : ExecutorConfig) (producers callers : Nat) :
    (start config producers callers : SharedQueue α).Sound
      (max 1 config.maxCachedRecords.toNat) where
  hinted := rfl
  emptied := fun _ => rfl
  marked := Nat.zero_le _
  attended := attended_start config producers callers
  confined := confined_start config producers callers

theorem Sound.step (sound : shared.Sound most) (stepped : shared.step event = some next) :
    next.Sound most where
  hinted := sound.hinted.step stepped
  emptied := emptied_of_step sound.emptied stepped
  marked := by
    obtain ⟨total, done⟩ := producers_of_step stepped sound.marked
    rw [total, done]
    exact Nat.min_le_right _ _
  attended := sound.attended.step stepped
  confined := sound.confined.step stepped

theorem Sound.run (sound : shared.Sound most) (ran : shared.run events = some final) :
    final.Sound most := by
  induction events generalizing shared with
  | nil =>
    cases ran
    exact sound
  | cons event rest ih =>
    obtain ⟨middle, stepped, ran⟩ := Option.bind_eq_some_iff.mp ran
    exact ih (sound.step stepped) ran

/-- Something is buffered exactly if the length read without the lock says so. -/
theorem Hinted.hasRemaining_iff (hinted : shared.Hinted) :
    shared.queue.hasRemaining = true ↔ 0 < shared.queue.buffer.length := by
  rw [Queue.hasRemaining, hinted, decide_eq_true_iff]

/-- Whatever the settings are, and however inserts, pulls, marks and closes interleave: whenever
nobody has the lock, the length that is read without it is the length, a closed queue is empty, as
many producers are done as were marked, up to all there are, and the limit lies between one entry
and what the settings admit at most. -/
theorem fields_agree (config : ExecutorConfig) (producers callers : Nat)
    (ran : (start config producers callers).run events = some shared) :
    shared.queue.lengthHint = shared.queue.buffer.length ∧
      (shared.queue.hasRemaining = true ↔ 0 < shared.queue.buffer.length) ∧
      (shared.queue.closed = true → shared.queue.buffer = []) ∧
      shared.queue.producersTotal = producers ∧
      shared.queue.producersDone = min (events.countP Event.marks) producers ∧
      shared.queue.producersDone ≤ shared.queue.producersTotal ∧
      1 ≤ shared.queue.capacity.limit ∧
      shared.queue.capacity.limit ≤ max 1 config.maxCachedRecords.toNat := by
  have sound := (sound_start config producers callers).run ran
  obtain ⟨total, done⟩ := producers_of_run (Nat.zero_le _) ran
  refine ⟨sound.hinted, sound.hinted.hasRemaining_iff, sound.emptied, total, ?_, sound.marked,
    sound.attended.positive, sound.confined.limit⟩
  rw [done, doneAfter, start, Queue.start, Nat.zero_add]

/-- Settings that are all zero. -/
def zeroSettings : ExecutorConfig :=
  { writeBufferLimitBytes := 0, sampleWarmup := 0, sampleRate := 0, maxCachedRecords := 0 }

/-- An entry is pushed and a second insert waits for room; a close drops the entry, and the second
insert gives up; the only producer is marked twice, and a third insert is measured and refused. -/
def closingEarly : List (Event Nat) :=
  [.insert 0 7, .measured 0 0, .enter 0, .insert 1 8, .measured 1 5, .enter 1, .close 2,
    .notify 2 none, .notify 2 none, .enter 1, .markDone, .markDone, .notify 0 none, .report 0,
    .leave 0, .insert 0 9, .measured 0 3, .enter 0]

theorem fields_agree_inhabited :
    ∃ shared : SharedQueue Nat,
      (start zeroSettings 1 3).run closingEarly = some shared ∧ shared.queue.closed = true ∧
        shared.calls[1]? = some (.returned .refused) ∧ shared.queue.buffer = [] ∧
        shared.queue.hasRemaining = false ∧ shared.queue.producersDone = 1 ∧
        shared.queue.capacity.limit = 1 := by
  have runs : ((start zeroSettings 1 3).run closingEarly).map (fun shared : SharedQueue Nat =>
      decide (shared.queue.closed = true ∧ shared.calls[1]? = some (.returned .refused))) =
        some true := by
    decide +kernel
  obtain ⟨shared, ran, holds⟩ := Option.map_eq_some_iff.mp runs
  obtain ⟨closed, refused⟩ := of_decide_eq_true holds
  obtain ⟨-, remaining, emptied, -, marks, -, least, most⟩ := fields_agree zeroSettings 1 3 ran
  have empty := emptied closed
  refine ⟨shared, ran, closed, refused, empty, ?_, marks, Nat.le_antisymm most least⟩
  rw [Bool.eq_false_iff, ne_eq, remaining, empty]
  exact Nat.lt_irrefl 0

end SharedQueue

end BoundedIngest

/-
Module: BoundedIngest.Proofs.Queue.Measurements
Purpose: What each step of a queue records in the metrics, and what it folds into the average.
Main exports:
  SharedQueue.folded?, SharedQueue.capacity_of_step, SharedQueue.measurements,
  SharedQueue.metrics_of_step
-/
import BoundedIngest.Proofs.Queue.Weighing

namespace BoundedIngest

/-!
Metrics are recorded at two places only.  An insert that folds its measurement in does so inside
the lock, and then it records the average if the limit has changed.  And a call that has pushed or
pulled records the length it left behind once it has sent its notification; an insert that had to
wait for room records that at the same time.
-/

variable {α : Type}

/-- The size that an insert folds in when it first takes the lock. -/
def Call.size? : Call α → Option UInt64
  | .inserting _ size => size
  | _ => none

/-- What is recorded when a size is folded in: the new average, if the limit changes with it. -/
def Capacity.announcement (capacity : Capacity) (size : UInt64) : List Measurement :=
  if (capacity.observe size).2 then
    [.averageEntryBytes (capacity.observe size).1.averageBytes]
  else []

/-- What a call still has to record. -/
def Call.toRecord : Call α → List Measurement
  | .reportingPush length capacity waited =>
      (if waited then [.blockedInsert] else []) ++ [.queueDepth length capacity]
  | .reportingPull _ length capacity => [.queueDepth length capacity]
  | _ => []

namespace SharedQueue

variable {shared next : SharedQueue α} {event : Event α} {caller : Nat} {entry : α}

/-! ### The average -/

/-- The size that a step folds into the average: the one that an insert has brought along when it
first takes the lock. -/
def folded? (shared : SharedQueue α) : Event α → Option UInt64
  | .enter caller => shared.calls[caller]?.bind Call.size?
  | _ => none

theorem capacity_of_enter (entered : shared.enter caller = some next) :
    next.queue.capacity = shared.queue.capacity.fold (shared.folded? (.enter caller)) := by
  have pulled : (shared.tryPull caller).queue.capacity = shared.queue.capacity := by
    unfold tryPull
    split
    · rfl
    · split
      · rename_i popped
        obtain ⟨rest, -, rfl⟩ := Queue.front_of_pop popped
        rfl
      · split <;> rfl
  unfold enter at entered
  dsimp only [folded?]
  split at entered
  · rename_i entry size found
    cases entered
    obtain ⟨scales, -⟩ := @scales_firstInsert _ shared (fun _ => none) caller entry size
    rw [found]
    exact congrArg Scales.capacity scales
  · rename_i entry found
    cases entered
    obtain ⟨scales, -⟩ := @scales_tryPush _ shared (fun _ => none) caller entry true
    rw [found]
    exact congrArg Scales.capacity scales
  · rename_i found
    cases entered
    rw [found]
    exact pulled
  · rename_i found
    cases entered
    rw [found]
    exact pulled
  · contradiction

/-- The capacity after a step is the one before it, with the measurement folded in that the step
brings along. -/
theorem capacity_of_step (stepped : shared.step event = some next) :
    next.queue.capacity = shared.queue.capacity.fold (shared.folded? event) := by
  have same : next.queue = shared.queue → next.queue.capacity = shared.queue.capacity :=
    congrArg Queue.capacity
  cases event with
  | enter caller => exact capacity_of_enter stepped
  | insert caller entry => exact same (insert_outline stepped).2.1
  | measured caller size => exact same (measured_outline stepped).1
  | measuringPanicked caller => exact same (measuringPanicked_outline stepped).2.1
  | pull caller => exact same (pull_outline stepped).2.1
  | notify caller target => exact same (notify_outline stepped).1
  | report caller => exact same (report_outline stepped).1
  | close caller =>
    rw [(close_outline stepped).2.1]
    split <;> rfl
  | markDone =>
    rw [(markDone_outline stepped).1]
    rfl
  | leave caller => exact same (leave_contents stepped).1

/-! ### The metrics -/

/-- What a step records, in this order. -/
def measurements (shared : SharedQueue α) (event : Event α) : List Measurement :=
  match event with
  | .enter _ =>
      match shared.folded? event with
      | some size => shared.queue.capacity.announcement size
      | none => []
  | .report caller => (shared.calls[caller]?.map Call.toRecord).getD []
  | _ => []

theorem metrics_observe (size : UInt64) :
    (shared.observe size).metrics =
      (shared.queue.capacity.announcement size).foldl Metrics.record shared.metrics := by
  unfold observe Capacity.announcement
  dsimp only
  split <;> rfl

theorem metrics_tryPush {waited : Bool} :
    (shared.tryPush caller entry waited).metrics = shared.metrics := by
  unfold tryPush
  split
  · rfl
  · split <;> rfl

theorem metrics_tryPull : (shared.tryPull caller).metrics = shared.metrics := by
  unfold tryPull
  split
  · rfl
  · split
    · rfl
    · split <;> rfl

theorem metrics_firstInsert {size : Option UInt64} :
    (shared.firstInsert caller entry size).metrics =
      match size with
      | some size => (shared.observe size).metrics
      | none => shared.metrics := by
  have arrives : ∀ observed : SharedQueue α,
      (if observed.queue.refuses then observed.setCall caller (.returned .refused)
        else observed.tryPush caller entry false).metrics = observed.metrics := by
    intro observed
    split
    · rfl
    · exact metrics_tryPush
  cases size with
  | none => exact arrives shared
  | some size => exact arrives (shared.observe size)

theorem metrics_of_enter (entered : shared.enter caller = some next) :
    next.metrics = (shared.measurements (.enter caller)).foldl Metrics.record shared.metrics := by
  unfold enter at entered
  dsimp only [measurements, folded?]
  split at entered
  · rename_i entry size found
    cases entered
    rw [found, metrics_firstInsert]
    cases size with
    | none => rfl
    | some size => exact metrics_observe size
  · rename_i found
    cases entered
    rw [found]
    exact metrics_tryPush
  · rename_i found
    cases entered
    rw [found]
    exact metrics_tryPull
  · rename_i found
    cases entered
    rw [found]
    exact metrics_tryPull
  · contradiction

theorem metrics_notifyOneRoom {target : Option Nat}
    (notified : shared.notifyOneRoom target = some next) : next.metrics = shared.metrics := by
  rcases reached_of_notifyOneRoom notified with ⟨-, rfl⟩ | ⟨woken, entry, found, rfl⟩ <;> rfl

theorem metrics_notifyOneEntry {target : Option Nat}
    (notified : shared.notifyOneEntry target = some next) : next.metrics = shared.metrics := by
  rcases reached_of_notifyOneEntry notified with ⟨-, rfl⟩ | ⟨woken, found, rfl⟩ <;> rfl

/-- Notifications are not counted. -/
theorem metrics_of_notify {target : Option Nat}
    (notified : shared.notify caller target = some next) : next.metrics = shared.metrics := by
  unfold notify at notified
  split at notified
  · obtain ⟨middle, first, rfl⟩ := Option.map_eq_some_iff.mp notified
    have same : middle.metrics = shared.metrics := metrics_notifyOneEntry first
    exact same
  · obtain ⟨middle, first, rfl⟩ := Option.map_eq_some_iff.mp notified
    have same : middle.metrics = shared.metrics := metrics_notifyOneRoom first
    exact same
  · cases notified
    rfl
  · cases notified
    rfl
  · contradiction

theorem metrics_of_report (reported : shared.report caller = some next) :
    next.metrics = (shared.measurements (.report caller)).foldl Metrics.record shared.metrics := by
  unfold report at reported
  dsimp only [measurements]
  split at reported
  · rename_i waited found
    cases reported
    rw [found]
    cases waited <;> rfl
  · rename_i found
    cases reported
    rw [found]
    rfl
  · contradiction

/-- The metrics after a step are those before it, with everything recorded that the step records. -/
theorem metrics_of_step (stepped : shared.step event = some next) :
    next.metrics = (shared.measurements event).foldl Metrics.record shared.metrics := by
  cases event with
  | enter caller => exact metrics_of_enter stepped
  | notify caller target => exact metrics_of_notify stepped
  | report caller => exact metrics_of_report stepped
  | markDone =>
    cases stepped
    unfold markDone
    dsimp only
    split <;> rfl
  | close caller =>
    dsimp only [step] at stepped
    split at stepped
    · cases stepped
      unfold close
      split <;> rfl
    · contradiction
  | insert | measured | measuringPanicked | pull | leave =>
    dsimp only [step] at stepped
    split at stepped
    · cases stepped
      rfl
    · contradiction

end SharedQueue

end BoundedIngest

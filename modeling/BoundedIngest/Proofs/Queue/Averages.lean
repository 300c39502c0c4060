/-
Module: BoundedIngest.Proofs.Queue.Averages
Purpose: The gauge of the average shows the average as it was when the limit last changed.
Main exports:
  Metrics.gaugeReading_roundWord, Capacity.lastChange, Capacity.lastChange_concat,
  SharedQueue.folds, SharedQueue.capacity_of_run, SharedQueue.gauge_of_run,
  SharedQueue.average_at_last_change
-/
import BoundedIngest.Proofs.Queue.Measurements
import BoundedIngest.Proofs.Sizing.Comparison

namespace BoundedIngest

/-!
Each measurement moves the average, but the gauge is set only by those that move the limit as well.
A limit of one entry, or of as many as the settings admit, or a quotient that stays between the
same two integers keeps the gauge at a value that the average has left, or keeps it from being set
at all.
-/

variable {α : Type}

/-! ### What the gauge can show -/

namespace Metrics

open Number

theorem gaugeReading_of_isExact {word : Nat} (exact : IsExact word) (bounded : word ≤ maxWord) :
    gaugeReading word = word := by
  have floor : (word : Rat).floor = word := Int.floor_natCast (R := Rat) word
  rw [gaugeReading, nearestOfNat_eq, nearest_of_isExact exact, floorWord, floor]
  exact min_eq_left bounded

/-- An average in whole bytes is shown as it is: one that is too large for 53 bits was a whole
number before, or it is cut down to the largest word. -/
theorem gaugeReading_roundWord {average : Rat} (exact : IsExact average) :
    gaugeReading (roundWord average) = roundWord average := by
  have small : average ≤ 2 ^ 53 → gaugeReading (roundWord average) = roundWord average := by
    intro bounded
    have word : roundWord average ≤ 2 ^ 53 :=
      (floorWord_mono (add_le_add_left bounded (1 / 2))).trans (by decide +kernel)
    exact gaugeReading_of_isExact (isExact_natCast word) (word.trans (by decide))
  rcases lt_or_ge 0 average with positive | notPositive
  · rcases exact.multiple_or_le positive 1 with ⟨half, twice⟩ | bounded
    · have whole : average = (half * 2 : Nat) := by
        rw [twice]
        push_cast
        ring
      have floor : (((half * 2 : Nat) : Rat) + 1 / 2).floor = (half * 2 : Nat) := by
        have cut := Int.floor_natCast_add (half * 2) (1 / 2 : Rat)
        rwa [show ⌊(1 / 2 : Rat)⌋ = 0 by norm_num, add_zero] at cut
      have word : roundWord average = min (half * 2) maxWord := by
        rw [roundWord, whole, floorWord, floor, Int.toNat_natCast]
      rw [word]
      rcases le_total (half * 2) maxWord with fits | cutDown
      · rw [min_eq_left fits]
        exact gaugeReading_of_isExact (whole ▸ exact) fits
      · rw [min_eq_right cutDown]
        decide +kernel
    · exact small (bounded.trans (by norm_num))
  · exact small (notPositive.trans (by norm_num))

end Metrics

namespace Capacity

/-- The model as it was right after the last of these measurements that changed its limit. -/
def lastChange (capacity : Capacity) : List UInt64 → Option Capacity
  | [] => none
  | size :: rest =>
      ((capacity.observe size).1.lastChange rest).or
        (if (capacity.observe size).2 then some (capacity.observe size).1 else none)

theorem lastChange_append (capacity : Capacity) (sizes more : List UInt64) :
    capacity.lastChange (sizes ++ more) =
      ((capacity.observeAll sizes).lastChange more).or (capacity.lastChange sizes) := by
  induction sizes generalizing capacity with
  | nil => exact Option.or_none.symm
  | cons size rest ih =>
    rw [List.cons_append, lastChange, lastChange, ih, Option.or_assoc]
    rfl

/-- One measurement more is the last change, or it changes nothing. -/
theorem lastChange_concat (capacity : Capacity) (sizes : List UInt64) (size : UInt64) :
    capacity.lastChange (sizes ++ [size]) =
      if ((capacity.observeAll sizes).observe size).2 then
        some ((capacity.observeAll sizes).observe size).1
      else capacity.lastChange sizes := by
  rw [lastChange_append, lastChange]
  split <;> rfl

end Capacity

namespace SharedQueue

variable {shared next final : SharedQueue α} {event : Event α} {events : List (Event α)}
variable {config : ExecutorConfig} {producers callers : Nat} {earlier : List UInt64} {size : UInt64}

/-- The sizes that a run folds into the average, each by the insert that was measured, when it first
has the lock. -/
def folds (shared : SharedQueue α) : List (Event α) → List UInt64
  | [] => []
  | event :: rest =>
      match shared.step event with
      | none => []
      | some next => (shared.folded? event).toList ++ next.folds rest

theorem capacity_of_run (ran : shared.run events = some final) :
    final.queue.capacity = shared.queue.capacity.observeAll (shared.folds events) := by
  induction events generalizing shared with
  | nil =>
    cases ran
    rfl
  | cons event rest ih =>
    obtain ⟨middle, stepped, ran⟩ := Option.bind_eq_some_iff.mp ran
    rw [ih ran, capacity_of_step stepped, folds, stepped]
    cases shared.folded? event <;> rfl

/-- Only a measurement that changes the limit sets the gauge of the average. -/
theorem gauge_of_step (stepped : shared.step event = some next) :
    next.metrics.averageEntryBytes =
      ((shared.queue.capacity.lastChange (shared.folded? event).toList).map
        Capacity.averageBytes).or shared.metrics.averageEntryBytes := by
  rw [metrics_of_step stepped]
  cases event with
  | enter caller =>
    dsimp only [measurements]
    cases shared.folded? (.enter caller) with
    | none => rfl
    | some size =>
      dsimp only [Capacity.announcement, Option.toList, Capacity.lastChange]
      split <;> rfl
  | report caller =>
    have kept : ∀ call : Call α, (call.toRecord.foldl Metrics.record
        shared.metrics).averageEntryBytes = shared.metrics.averageEntryBytes := by
      intro call
      cases call with
      | reportingPush length capacity waited => cases waited <;> rfl
      | _ => rfl
    dsimp only [measurements]
    cases shared.calls[caller]? with
    | none => rfl
    | some call => exact kept call
  | insert | measured | measuringPanicked | pull | notify | close | markDone | leave => rfl

theorem gauge_of_run (ran : shared.run events = some final) :
    final.metrics.averageEntryBytes =
      ((shared.queue.capacity.lastChange (shared.folds events)).map
        Capacity.averageBytes).or shared.metrics.averageEntryBytes := by
  induction events generalizing shared with
  | nil =>
    cases ran
    rfl
  | cons event rest ih =>
    obtain ⟨middle, stepped, ran⟩ := Option.bind_eq_some_iff.mp ran
    have folded : middle.queue.capacity =
        shared.queue.capacity.observeAll (shared.folded? event).toList := by
      rw [capacity_of_step stepped]
      cases shared.folded? event <;> rfl
    rw [ih ran, gauge_of_step stepped, folds, stepped]
    dsimp only
    rw [Capacity.lastChange_append, folded, Option.map_or, Option.or_assoc]

/-- Take any settings and any interleaving of calls on a queue, whatever the entries measure, after
some insert was measured and has had the lock, and before the next such insert has it.  The average
is that of all sizes so far.  The gauge shows it if that insert has changed the limit, and otherwise
it shows what it did before, which is the average after the last measurement that has changed the
limit, or nothing if none ever has.  So the two agree exactly if the insert has changed the limit or
the averages are the same in whole bytes; the rounding of the gauge makes no difference. -/
theorem average_at_last_change (ran : (start config producers callers).run events = some final)
    (measured : (start config producers callers : SharedQueue α).folds events = earlier ++ [size]) :
    let fresh := Capacity.start config.writeBufferLimitBytes config.maxCachedRecords
    let before := fresh.observeAll earlier
    let now := final.queue.capacity
    let shown := (fresh.lastChange earlier).map Capacity.averageBytes
    let gauge := final.metrics.averageEntryBytes
    now = (before.observe size).1 ∧
      gauge = (if now.limit ≠ before.limit then some now.averageBytes else shown) ∧
      (gauge = some now.averageBytes ↔
        now.limit ≠ before.limit ∨ shown = some now.averageBytes) ∧
      Metrics.gaugeReading now.averageBytes = now.averageBytes := by
  intro fresh before now shown gauge
  have folded : now = (before.observe size).1 := by
    have capacity := capacity_of_run ran
    rwa [measured, Capacity.observeAll_concat] at capacity
  have last : gauge = if now.limit ≠ before.limit then some now.averageBytes else shown := by
    have set := gauge_of_run ran
    rw [measured] at set
    change gauge = ((fresh.lastChange (earlier ++ [size])).map Capacity.averageBytes).or none at set
    rw [Option.or_none, Capacity.lastChange_concat] at set
    have told := Capacity.changed_iff before size
    rw [← folded] at told
    by_cases changed : now.limit ≠ before.limit
    · rw [if_pos changed, set, if_pos (told.mpr changed), ← folded]
      rfl
    · rw [if_neg changed, set, if_neg (mt told.mp changed)]
  have exact : Number.IsExact now.average := by
    rw [folded]
    exact Number.isExact_nearest _
  refine ⟨folded, last, ?_, Metrics.gaugeReading_roundWord exact⟩
  rw [last]
  by_cases changed : now.limit ≠ before.limit
  · simp [changed]
  · simp [changed]

/-- An entry of 30 bytes gets in, and one of 28 bytes comes when the queue is closed. -/
def trailing : List (Event Nat) :=
  [.insert 0 1, .measured 0 30, .enter 0, .notify 0 none, .report 0, .leave 0, .close 1,
    .insert 0 2, .measured 0 28, .enter 0]

/-- The second measurement leaves the limit at three entries, so the gauge stays where it was. -/
theorem average_at_last_change_inhabited :
    ∃ final : SharedQueue Nat,
      (start { writeBufferLimitBytes := 100 } 1 2).run trailing = some final ∧
        (start { writeBufferLimitBytes := 100 } 1 2).folds trailing = [30] ++ [28] ∧
        final.reply? 0 = some .refused ∧ final.queue.capacity.averageBytes = 29 ∧
        final.metrics.averageEntryBytes = some 30 ∧
        final.metrics.averageEntryBytes ≠ some final.queue.capacity.averageBytes := by
  have runs : ((start { writeBufferLimitBytes := 100 } 1 2).run trailing).map
      (fun final : SharedQueue Nat =>
        decide ((start { writeBufferLimitBytes := 100 } 1 2 : SharedQueue Nat).folds trailing =
            [30] ++ [28] ∧ final.reply? 0 = some .refused ∧
          final.queue.capacity.averageBytes = 29 ∧ final.queue.capacity.limit = 3)) =
      some true := by
    decide +kernel
  obtain ⟨final, ran, holds⟩ := Option.map_eq_some_iff.mp runs
  obtain ⟨measured, refused, average, limit⟩ := of_decide_eq_true holds
  obtain ⟨-, gauge, -⟩ := average_at_last_change ran measured
  have before : ((Capacity.start 100 131072).observeAll [30]).limit = 3 ∧
      ((Capacity.start 100 131072).lastChange [30]).map Capacity.averageBytes = some 30 := by
    decide +kernel
  have shown : final.metrics.averageEntryBytes = some 30 := by
    rw [gauge, limit, if_neg (not_not.mpr before.1.symm)]
    exact before.2
  refine ⟨final, ran, measured, refused, average, shown, ?_⟩
  rw [shown, average]
  decide

/-- Two entries of 30 and 28 bytes, inserted one after the other. -/
def lightening : List (Event Nat) :=
  [.insert 0 1, .measured 0 30, .enter 0, .notify 0 none, .report 0, .leave 0,
    .insert 0 2, .measured 0 28, .enter 0, .notify 0 none, .report 0]

/-- Both inserts were measured and have returned, and the gauge shows the size of the first. -/
theorem average_at_last_change_outrun :
    ∃ final : SharedQueue Nat,
      (start { writeBufferLimitBytes := 100 } 1 1).run lightening = some final ∧
        (start { writeBufferLimitBytes := 100 } 1 1).folds lightening = [30, 28] ∧
        final.reply? 0 = some .inserted ∧ final.queue.capacity.averageBytes = 29 ∧
        final.metrics.averageEntryBytes = some 30 := by
  have runs : ((start { writeBufferLimitBytes := 100 } 1 1).run lightening).map
      (fun final : SharedQueue Nat =>
        decide ((start { writeBufferLimitBytes := 100 } 1 1 : SharedQueue Nat).folds lightening =
            [30, 28] ∧ final.reply? 0 = some .inserted ∧
          final.queue.capacity.averageBytes = 29 ∧
          final.metrics.averageEntryBytes = some 30)) = some true := by
    decide +kernel
  obtain ⟨final, ran, holds⟩ := Option.map_eq_some_iff.mp runs
  exact ⟨final, ran, of_decide_eq_true holds⟩

end SharedQueue

end BoundedIngest

/-
Module: BoundedIngest.Proofs.Queue.Budget
Purpose: The entries in a queue never weigh more than the byte budget allows for.
Main exports:
  Fitting, SharedQueue.Event.Fits, Queue.bufferedBytes, SharedQueue.Budgeted,
  SharedQueue.Budgeted.run, SharedQueue.buffered_bytes_bounded
-/
import BoundedIngest.Proofs.Queue.Outline
import BoundedIngest.Proofs.Sizing.Capacity
import Mathlib.Algebra.Order.BigOperators.Group.List

namespace BoundedIngest

/-!
An entry is measured before the lock is taken, and perhaps it is not measured at all, so the
entries in a queue need not be those that its limit was computed from.  What can be relied on is
that the limit never exceeds what the budget holds of the smallest entry, and that an entry is
added only while there are fewer entries than the limit.  A limit that shrinks later sends
nobody away.
-/

variable {α : Type} {estimate : α → UInt64} {budget least most : Nat}

/-- An estimate counts as a number of bytes between two bounds. -/
def Fitting (least most : Nat) (size : UInt64) : Prop :=
  least ≤ (measuredSize size).toNat ∧ (measuredSize size).toNat ≤ most

instance (least most : Nat) (size : UInt64) : Decidable (Fitting least most size) :=
  inferInstanceAs (Decidable (_ ∧ _))

/-- The estimates of all buffered entries together. -/
def Queue.bufferedBytes (estimate : α → UInt64) (queue : Queue α) : Nat :=
  (queue.buffer.map fun entry => (measuredSize (estimate entry)).toNat).sum

/-- What the call is to insert has a fitting estimate, and so has what was measured of it. -/
def Call.Fits (estimate : α → UInt64) (least most : Nat) : Call α → Prop
  | .measuring entry | .awaitingRoom entry | .retryingInsert entry | .inserting entry none =>
      Fitting least most (estimate entry)
  | .inserting entry (some size) =>
      Fitting least most (estimate entry) ∧ least ≤ size.toNat ∧ size.toNat ≤ most
  | _ => True

theorem Call.Fits.notifyRoom {call : Call α} (fits : call.Fits estimate least most) :
    call.notifyRoom.Fits estimate least most := by
  cases call <;> exact fits

theorem Call.Fits.notifyEntry {call : Call α} (fits : call.Fits estimate least most) :
    call.notifyEntry.Fits estimate least most := by
  cases call <;> exact fits

namespace SharedQueue

variable {shared next : SharedQueue α} {caller : Nat} {entry : α}

/-- The estimates that a step brings along are fitting. -/
def Event.Fits (estimate : α → UInt64) (least most : Nat) : Event α → Prop
  | .insert _ entry => Fitting least most (estimate entry)
  | .measured _ size => Fitting least most size
  | _ => True

instance (event : Event α) : Decidable (event.Fits estimate least most) :=
  match event with
  | .insert _ entry => inferInstanceAs (Decidable (Fitting least most (estimate entry)))
  | .measured _ size => inferInstanceAs (Decidable (Fitting least most size))
  | .measuringPanicked _ | .pull _ | .enter _ | .notify _ _ | .report _ | .close _ | .markDone
  | .leave _ => .isTrue trivial

/-- Everything in the queue and on its way there fits, and there are not too many entries. -/
structure Budgeted (estimate : α → UInt64) (budget least most : Nat) (shared : SharedQueue α) :
    Prop where
  given : shared.queue.capacity.budget.toNat = budget
  capacity : shared.queue.capacity.Within least most
  calls : ∀ call ∈ shared.calls, call.Fits estimate least most
  buffer : ∀ entry ∈ shared.queue.buffer, Fitting least most (estimate entry)
  length : shared.queue.buffer.length ≤ max 1 (budget / least)

theorem budgeted_start (config : ExecutorConfig) (producers callers : Nat) :
    (start config producers callers : SharedQueue α).Budgeted estimate
      config.writeBufferLimitBytes.toNat least most := by
  refine ⟨rfl, Capacity.within_start least most _ _, fun call found => ?_,
    fun entry found => ?_, Nat.zero_le _⟩
  · rw [List.eq_of_mem_replicate found]
    trivial
  · contradiction

namespace Budgeted

/-- A step that leaves the queue alone. -/
theorem of_calls (budgeted : shared.Budgeted estimate budget least most)
    (queue : next.queue = shared.queue)
    (calls : ∀ call ∈ next.calls, call.Fits estimate least most) :
    next.Budgeted estimate budget least most := by
  obtain ⟨given, capacity, -, buffer, length⟩ := budgeted
  rw [← queue] at given capacity buffer length
  exact ⟨given, capacity, calls, buffer, length⟩

/-- A step that adds no entry. -/
theorem of_fewer (budgeted : shared.Budgeted estimate budget least most)
    (capacity : next.queue.capacity = shared.queue.capacity)
    (buffer : next.queue.buffer.Sublist shared.queue.buffer) (calls : next.calls = shared.calls) :
    next.Budgeted estimate budget least most := by
  constructor
  · rw [capacity, budgeted.given]
  · rw [capacity]
    exact budgeted.capacity
  · rw [calls]
    exact budgeted.calls
  · exact fun entry found => budgeted.buffer entry (buffer.subset found)
  · exact buffer.length_le.trans budgeted.length

/-- A call goes on to a stage at which what it has fits. -/
theorem setCall {call : Call α} (budgeted : shared.Budgeted estimate budget least most)
    (fits : call.Fits estimate least most) :
    (shared.setCall caller call).Budgeted estimate budget least most := by
  refine budgeted.of_calls rfl fun other found => ?_
  rcases List.mem_or_eq_of_mem_set found with before | rfl
  · exact budgeted.calls other before
  · exact fits

theorem map (budgeted : shared.Budgeted estimate budget least most) (change : Call α → Call α)
    (keeps : ∀ call : Call α, call.Fits estimate least most →
      (change call).Fits estimate least most) :
    { shared with calls := shared.calls.map change }.Budgeted estimate budget least most := by
  refine budgeted.of_calls rfl fun call found => ?_
  obtain ⟨old, before, rfl⟩ := List.mem_map.mp found
  exact keeps old (budgeted.calls old before)

theorem notifyAllRoom (budgeted : shared.Budgeted estimate budget least most) :
    shared.notifyAllRoom.Budgeted estimate budget least most :=
  budgeted.map Call.notifyRoom fun _ => Call.Fits.notifyRoom

theorem notifyAllEntry (budgeted : shared.Budgeted estimate budget least most) :
    shared.notifyAllEntry.Budgeted estimate budget least most :=
  budgeted.map Call.notifyEntry fun _ => Call.Fits.notifyEntry

theorem notifyOneRoom {target : Option Nat} (budgeted : shared.Budgeted estimate budget least most)
    (notified : shared.notifyOneRoom target = some next) :
    next.Budgeted estimate budget least most := by
  rcases reached_of_notifyOneRoom notified with ⟨-, rfl⟩ | ⟨woken, entry, found, rfl⟩
  · exact budgeted
  · have fits := budgeted.calls _ (List.mem_of_getElem? found)
    exact budgeted.setCall fits

theorem notifyOneEntry {target : Option Nat} (budgeted : shared.Budgeted estimate budget least most)
    (notified : shared.notifyOneEntry target = some next) :
    next.Budgeted estimate budget least most := by
  rcases reached_of_notifyOneEntry notified with ⟨-, rfl⟩ | ⟨woken, found, rfl⟩
  · exact budgeted
  · exact budgeted.setCall trivial

theorem notify {target : Option Nat} (budgeted : shared.Budgeted estimate budget least most)
    (notified : shared.notify caller target = some next) :
    next.Budgeted estimate budget least most := by
  unfold SharedQueue.notify at notified
  split at notified
  · obtain ⟨middle, first, rfl⟩ := Option.map_eq_some_iff.mp notified
    exact (budgeted.notifyOneEntry first).setCall trivial
  · obtain ⟨middle, first, rfl⟩ := Option.map_eq_some_iff.mp notified
    exact (budgeted.notifyOneRoom first).setCall trivial
  · cases notified
    exact budgeted.notifyAllRoom.setCall trivial
  · cases notified
    exact budgeted.notifyAllEntry.setCall trivial
  · contradiction

theorem record (budgeted : shared.Budgeted estimate budget least most)
    (measurement : Measurement) :
    (shared.record measurement).Budgeted estimate budget least most :=
  budgeted.of_calls rfl budgeted.calls

theorem report (budgeted : shared.Budgeted estimate budget least most)
    (reported : shared.report caller = some next) : next.Budgeted estimate budget least most := by
  unfold SharedQueue.report at reported
  split at reported
  · rename_i waited found
    cases reported
    cases waited
    · exact (budgeted.record _).setCall trivial
    · exact ((budgeted.record _).record _).setCall trivial
  · cases reported
    exact (budgeted.record _).setCall trivial
  · contradiction

theorem markDone (budgeted : shared.Budgeted estimate budget least most) :
    shared.markDone.Budgeted estimate budget least most := by
  have marked : ({ shared with queue := shared.queue.markDone } : SharedQueue α).Budgeted
      estimate budget least most := budgeted.of_fewer rfl (List.Sublist.refl _) rfl
  unfold SharedQueue.markDone
  dsimp only
  split
  · exact marked.notifyAllEntry.notifyAllRoom
  · exact marked

theorem close (budgeted : shared.Budgeted estimate budget least most) :
    (shared.close caller).Budgeted estimate budget least most := by
  unfold SharedQueue.close
  split
  · have closed : ({ shared with queue := shared.queue.close } : SharedQueue α).Budgeted
        estimate budget least most := budgeted.of_fewer rfl (List.nil_sublist _) rfl
    exact closed.setCall trivial
  · exact budgeted.setCall trivial

/-- An entry is added only while there are fewer than the limit. -/
theorem tryPush {waited : Bool} (budgeted : shared.Budgeted estimate budget least most)
    (fits : Fitting least most (estimate entry)) :
    (shared.tryPush caller entry waited).Budgeted estimate budget least most := by
  unfold SharedQueue.tryPush
  split
  · exact budgeted.setCall trivial
  · split
    · exact budgeted.setCall fits
    · rename_i notFull
      have room : shared.queue.buffer.length < shared.queue.capacity.limit := by
        simpa [Queue.isFull] using notFull
      have pushed : ({ shared with queue := shared.queue.push entry } : SharedQueue α).Budgeted
          estimate budget least most := by
        refine ⟨budgeted.given, budgeted.capacity, budgeted.calls, fun other found => ?_, ?_⟩
        · rcases List.mem_append.mp found with before | new
          · exact budgeted.buffer other before
          · rwa [List.mem_singleton.mp new]
        · have limit := budgeted.capacity.limit
          rw [budgeted.given] at limit
          simp only [Queue.push, List.length_append, List.length_singleton]
          omega
      exact pushed.setCall trivial

theorem tryPull (budgeted : shared.Budgeted estimate budget least most) :
    (shared.tryPull caller).Budgeted estimate budget least most := by
  unfold SharedQueue.tryPull
  split
  · exact budgeted.setCall trivial
  · split
    · rename_i taken queue popped
      have fewer : ({ shared with queue } : SharedQueue α).Budgeted estimate budget least most := by
        unfold Queue.pop? at popped
        split at popped
        · contradiction
        · rename_i front
          cases popped
          refine budgeted.of_fewer rfl ?_ rfl
          rw [front]
          exact List.sublist_cons_self _ _
      exact fewer.setCall trivial
    · split <;> exact budgeted.setCall trivial

/-- A measurement that fits keeps the limit within the budget. -/
theorem observe {size : UInt64} (budgeted : shared.Budgeted estimate budget least most)
    (small : budget < 2 ^ 53) (positive : 1 ≤ least) (bounded : most ≤ 2 ^ 53)
    (atLeast : least ≤ size.toNat) (atMost : size.toNat ≤ most) :
    (shared.observe size).Budgeted estimate budget least most := by
  have within := budgeted.capacity.observe (budgeted.given ▸ small) positive bounded atLeast atMost
  have observed : ({ shared with queue := { shared.queue with
      capacity := (shared.queue.capacity.observe size).1 } } : SharedQueue α).Budgeted
        estimate budget least most :=
    ⟨budgeted.given, within, budgeted.calls, budgeted.buffer, budgeted.length⟩
  unfold SharedQueue.observe
  dsimp only
  split
  · exact (observed.record _).notifyAllRoom
  · exact observed

theorem firstInsert {size : Option UInt64} (budgeted : shared.Budgeted estimate budget least most)
    (small : budget < 2 ^ 53) (positive : 1 ≤ least) (bounded : most ≤ 2 ^ 53)
    (fits : (Call.inserting entry size).Fits estimate least most) :
    (shared.firstInsert caller entry size).Budgeted estimate budget least most := by
  have arrives : ∀ observed : SharedQueue α, observed.Budgeted estimate budget least most →
      Fitting least most (estimate entry) →
      (if observed.queue.refuses then observed.setCall caller (.returned .refused)
        else observed.tryPush caller entry false).Budgeted estimate budget least most := by
    intro observed kept fitting
    split
    · exact kept.setCall trivial
    · exact kept.tryPush fitting
  cases size with
  | none => exact arrives shared budgeted fits
  | some size =>
    obtain ⟨fitting, atLeast, atMost⟩ := fits
    exact arrives _ (budgeted.observe small positive bounded atLeast atMost) fitting

theorem enter (budgeted : shared.Budgeted estimate budget least most)
    (small : budget < 2 ^ 53) (positive : 1 ≤ least) (bounded : most ≤ 2 ^ 53)
    (entered : shared.enter caller = some next) : next.Budgeted estimate budget least most := by
  unfold SharedQueue.enter at entered
  split at entered
  · rename_i found
    cases entered
    exact budgeted.firstInsert small positive bounded
      (budgeted.calls _ (List.mem_of_getElem? found))
  · rename_i found
    cases entered
    have fits := budgeted.calls _ (List.mem_of_getElem? found)
    exact budgeted.tryPush fits
  · cases entered
    exact budgeted.tryPull
  · cases entered
    exact budgeted.tryPull
  · contradiction

/-- Every step keeps to the budget. -/
theorem step {event : Event α} (budgeted : shared.Budgeted estimate budget least most)
    (small : budget < 2 ^ 53) (positive : 1 ≤ least) (bounded : most ≤ 2 ^ 53)
    (fits : event.Fits estimate least most) (stepped : shared.step event = some next) :
    next.Budgeted estimate budget least most := by
  cases event with
  | enter caller => exact budgeted.enter small positive bounded stepped
  | notify caller target => exact budgeted.notify stepped
  | report caller => exact budgeted.report stepped
  | markDone =>
    cases stepped
    exact budgeted.markDone
  | close caller =>
    simp only [SharedQueue.step] at stepped
    split at stepped
    · cases stepped
      exact budgeted.close
    · contradiction
  | insert caller entry =>
    simp only [SharedQueue.step] at stepped
    split at stepped
    · cases stepped
      have drawn : ∀ sampler, ({ shared with sampler } : SharedQueue α).Budgeted
          estimate budget least most := fun _ => budgeted.of_calls rfl budgeted.calls
      apply (drawn _).setCall
      split <;> exact fits
    · contradiction
  | measured caller size =>
    simp only [SharedQueue.step] at stepped
    split at stepped
    · rename_i found
      cases stepped
      have fitting := budgeted.calls _ (List.mem_of_getElem? found)
      exact budgeted.setCall ⟨fitting, fits⟩
    · contradiction
  | measuringPanicked caller | pull caller | leave caller =>
    simp only [SharedQueue.step] at stepped
    split at stepped
    · cases stepped
      exact budgeted.setCall trivial
    · contradiction

/-- By induction on the steps. -/
theorem run {events : List (Event α)} (budgeted : shared.Budgeted estimate budget least most)
    (small : budget < 2 ^ 53) (positive : 1 ≤ least) (bounded : most ≤ 2 ^ 53)
    (fits : ∀ event ∈ events, event.Fits estimate least most)
    (ran : shared.run events = some next) : next.Budgeted estimate budget least most := by
  induction events generalizing shared with
  | nil =>
    cases ran
    exact budgeted
  | cons event rest ih =>
    obtain ⟨middle, stepped, ran⟩ := Option.bind_eq_some_iff.mp ran
    obtain ⟨first, later⟩ := List.forall_mem_cons.mp fits
    exact ih (budgeted.step small positive bounded first stepped) later ran

/-- As many entries as fit in weigh at most as much as that many of the largest. -/
theorem bufferedBytes_le (budgeted : shared.Budgeted estimate budget least most) :
    shared.queue.bufferedBytes estimate ≤ most * max 1 (budget / least) := by
  have each : ∀ bytes ∈ shared.queue.buffer.map fun entry => (measuredSize (estimate entry)).toNat,
      bytes ≤ most := by
    intro bytes found
    obtain ⟨entry, there, rfl⟩ := List.mem_map.mp found
    exact (budgeted.buffer entry there).2
  calc shared.queue.bufferedBytes estimate
      ≤ (shared.queue.buffer.map fun entry => (measuredSize (estimate entry)).toNat).length •
          most := List.sum_le_card_nsmul _ _ each
    _ = most * shared.queue.buffer.length := by rw [List.length_map, Nat.nsmul_eq_mul, Nat.mul_comm]
    _ ≤ most * max 1 (budget / least) := Nat.mul_le_mul_left _ budgeted.length

end Budgeted

/-! ### Every run -/

/-- Take any settings with a byte budget below `2 ^ 53`, and any run of a queue in which all
estimates, those of the entries inserted and those given when an entry is measured, count as
between `least` and `most` bytes.  However inserts, pulls, measurements and closes interleave, the
buffered entries together count at most `most` times the number of the smallest entries that the
budget holds, one at least; if all entries have one size, at most the budget or that size,
whichever is larger. -/
theorem buffered_bytes_bounded {config : ExecutorConfig} {producers callers : Nat}
    {events : List (Event α)} (small : config.writeBufferLimitBytes.toNat < 2 ^ 53)
    (positive : 1 ≤ least) (bounded : most ≤ 2 ^ 53)
    (fits : ∀ event ∈ events, event.Fits estimate least most)
    (ran : (start config producers callers).run events = some shared) :
    shared.queue.bufferedBytes estimate ≤
        most * max 1 (config.writeBufferLimitBytes.toNat / least) ∧
      (least = most → shared.queue.bufferedBytes estimate ≤
        max config.writeBufferLimitBytes.toNat most) := by
  have budgeted : shared.Budgeted estimate config.writeBufferLimitBytes.toNat least most :=
    (budgeted_start config producers callers).run small positive bounded fits ran
  have bytes := budgeted.bufferedBytes_le
  refine ⟨bytes, ?_⟩
  rintro rfl
  calc shared.queue.bufferedBytes estimate
      ≤ least * max 1 (config.writeBufferLimitBytes.toNat / least) := bytes
    _ = max least (least * (config.writeBufferLimitBytes.toNat / least)) := by
      rw [← Nat.mul_max_mul_left, Nat.mul_one]
    _ ≤ max config.writeBufferLimitBytes.toNat least := by
      rw [Nat.max_comm]
      exact max_le_max_right least (Nat.mul_div_le _ least)

/-- Two entries of three bytes and one of four.  One of the smaller ones is measured, and
meanwhile another one overtakes it. -/
def hoarding : List (Event Nat) :=
  [.insert 0 3, .insert 1 3, .enter 1, .insert 2 4, .measured 0 3, .enter 0, .enter 2]

/-- The limit is computed from one of the smaller entries, and the larger one gets in as well. -/
theorem buffered_bytes_bounded_inhabited :
    ∃ shared : SharedQueue Nat,
      (start { writeBufferLimitBytes := 10, sampleWarmup := 0 } 1 3).run hoarding = some shared ∧
        shared.queue.buffer = [3, 3, 4] ∧ shared.queue.bufferedBytes UInt64.ofNat ≤ 12 := by
  have runs : ((start { writeBufferLimitBytes := 10, sampleWarmup := 0 } 1 3).run hoarding).map
      (fun shared : SharedQueue Nat => shared.queue.buffer) = some [3, 3, 4] := by
    decide +kernel
  obtain ⟨shared, ran, buffer⟩ := Option.map_eq_some_iff.mp runs
  have fits : ∀ event ∈ hoarding, event.Fits UInt64.ofNat 3 4 := by decide
  refine ⟨shared, ran, buffer, ?_⟩
  exact (buffered_bytes_bounded (by decide) (by decide) (by decide) fits ran).1

end SharedQueue

end BoundedIngest

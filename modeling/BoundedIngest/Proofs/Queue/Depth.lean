/-
Module: BoundedIngest.Proofs.Queue.Depth
Purpose: Where calls come one at a time, the gauge of the length shows the length and, after a
  close, the entries that the close dropped.
Main exports:
  SharedQueue.isSequential, SharedQueue.lengths, SharedQueue.depth_of_step, Watch.left,
  Watch.Depicted, Watch.Depicted.step, Watch.depth_shown_until_close
-/
import BoundedIngest.Proofs.Queue.Averages
import BoundedIngest.Proofs.Queue.Standing

namespace BoundedIngest

/-!
A call that has pushed or pulled keeps the length that it has left behind and records it before it
returns.  If no other call is in progress, then that is still the length.  A close empties the queue
and records nothing, and since a closed queue takes no entry and gives none away, nobody does so
after it either.
-/

variable {α : Type}

namespace SharedQueue

variable {shared next final : SharedQueue α} {event : Event α} {caller : Nat}

/-- The step is the start of a call, or it is a call of its own. -/
def Event.begins : Event α → Bool
  | .insert .. | .pull _ | .close _ | .markDone => true
  | _ => false

/-- Calls begin only where all calls before them are over. -/
def isSequential : SharedQueue α → List (Event α) → Bool
  | _, [] => true
  | shared, event :: rest =>
      (!event.begins || shared.standings.all Standing.isOver) &&
        match shared.step event with
        | some next => next.isSequential rest
        | none => true

/-- How many calls are in progress. -/
def busy (shared : SharedQueue α) : Nat :=
  shared.standings.countP fun standing => !standing.isOver

/-- For each call, the length that it has still to record. -/
def lengths (shared : SharedQueue α) : List (Option Nat) :=
  shared.standings.map Standing.length?

theorem lengths_of_set {new : Standing}
    (standings : next.standings = shared.standings.set caller new) :
    next.lengths = shared.lengths.set caller new.length? := by
  rw [lengths, standings]
  exact List.map_set

theorem busy_of_over (finished : shared.standings.all Standing.isOver = true) :
    shared.busy = 0 := by
  apply List.countP_eq_zero.mpr
  intro standing there
  simp [List.all_eq_true.mp finished standing there]

/-- If the call that takes a step is the only one in progress, nobody else has anything to
record. -/
theorem not_mem_lengths {standing : Standing} (few : shared.busy ≤ 1)
    (was : shared.standings[caller]? = some standing) (inProgress : standing.isOver = false)
    (nothing : standing.length? = none) (length : Nat) : some length ∉ shared.lengths := by
  intro found
  obtain ⟨other, there, owed⟩ := List.mem_map.mp found
  obtain ⟨position, here⟩ := List.mem_iff_getElem?.mp there
  have apart : caller ≠ position := by
    rintro rfl
    cases was.symm.trans here
    cases nothing.symm.trans owed
  have two : 2 ≤ shared.busy := by
    apply two_le_countP apart was _ here
    · simp [Standing.isOver_of_length owed]
    · simp [inProgress]
  exact absurd (two.trans few) (by decide)

theorem not_mem_lengths_of_over (finished : shared.standings.all Standing.isOver = true)
    (length : Nat) : some length ∉ shared.lengths := by
  intro found
  obtain ⟨standing, there, owed⟩ := List.mem_map.mp found
  have done := List.all_eq_true.mp finished standing there
  rw [Standing.isOver_of_length owed] at done
  contradiction

/-! ### One step -/

/-- A step that is not the start of a call brings no call into progress. -/
theorem Proceeds.finished {closed : Bool} {old new : Standing}
    (proceeds : Proceeds closed event old new) (onward : event.begins = false)
    (finished : old.isOver = true) : new.isOver = true := by
  cases proceeds with
  | arrives | pulls | passes => contradiction
  | measures | starves | releases => contradiction
  | panics | givesUp | reportsPush | reportsPull | ends | finishes | leaves => rfl
  | waits caller waited => cases waited <;> contradiction
  | notifies caller target old length owes =>
    rw [Standing.isOver_of_length owes] at finished
    contradiction

/-- What a call has to record it keeps until it reports. -/
theorem Proceeds.length {closed : Bool} {old new : Standing}
    (proceeds : Proceeds closed event old new) :
    (new.length? = old.length? ∧ ∀ caller, event ≠ .report caller) ∨
      ∃ caller length, event = .report caller ∧ old.length? = some length ∧ new.length? = none := by
  cases proceeds with
  | reportsPush caller waited length => exact .inr ⟨caller, length, rfl, rfl, rfl⟩
  | reportsPull caller length => exact .inr ⟨caller, length, rfl, rfl, rfl⟩
  | waits caller waited => cases waited <;> exact .inl ⟨rfl, by simp⟩
  | givesUp caller waited shut => cases waited <;> exact .inl ⟨rfl, by simp⟩
  | leaves caller old finished there =>
    cases old <;> first | exact .inl ⟨rfl, by simp⟩ | contradiction
  | arrives | measures | panics | notifies | pulls | passes | starves | ends | releases
  | finishes => exact .inl ⟨rfl, by simp⟩

/-- Where one call at most is in progress, and none if the step is the start of one, it stays so. -/
theorem busy_of_step (few : shared.busy ≤ 1)
    (alone : event.begins = true → shared.standings.all Standing.isOver = true)
    (stepped : shared.step event = some next) : next.busy ≤ 1 := by
  have counted : ∀ {caller : Nat} {old new : Standing},
      shared.standings[caller]? = some old → next.standings = shared.standings.set caller new →
      next.busy + (!old.isOver).toNat = shared.busy + (!new.isOver).toNat := by
    intro caller old new was standings
    rw [busy, standings]
    exact countP_set_add _ new was
  have begun : ∀ {caller : Nat} {old new : Standing}, event.begins = true →
      shared.standings[caller]? = some old → next.standings = shared.standings.set caller new →
      next.busy ≤ 1 := by
    intro caller old new begins was standings
    have one := counted was standings
    have nobody := busy_of_over (alone begins)
    have least := Bool.toNat_le (!new.isOver)
    omega
  have goesOn : ∀ {caller : Nat} {old new : Standing}, old.isOver = false →
      shared.standings[caller]? = some old → next.standings = shared.standings.set caller new →
      next.busy ≤ 1 := by
    intro caller old new inProgress was standings
    have one := counted was standings
    have least := Bool.toNat_le (!new.isOver)
    rw [inProgress, Bool.not_false, Bool.toNat_true] at one
    omega
  cases advanced_of_step stepped with
  | marked marks kept standings => rwa [busy, standings]
  | proceeded caller old new whose was proceeds kept standings =>
    cases begins : event.begins with
    | true => exact begun begins was standings
    | false =>
      cases finished : old.isOver with
      | true =>
        have one := counted was standings
        rw [finished, proceeds.finished begins finished] at one
        omega
      | false => exact goesOn finished was standings
  | added caller waited enters was stillOpen standings =>
    cases waited <;> exact goesOn rfl was standings
  | took caller enters was stillOpen standings => exact goesOn rfl was standings
  | closed caller closes was closable emptied standings =>
    exact begun (by rw [closes]; rfl) was standings

/-- The length that a step records. -/
def recorded? (shared : SharedQueue α) : Event α → Option Nat
  | .report caller => shared.standings[caller]?.bind Standing.length?
  | _ => none

theorem recorded_of_other (other : ∀ caller, event ≠ .report caller) :
    shared.recorded? event = none := by
  cases event with
  | report caller => exact absurd rfl (other caller)
  | _ => rfl

/-- Only reports set the gauge of the length. -/
theorem depth_of_step (stepped : shared.step event = some next) :
    next.metrics.queueDepth = (shared.recorded? event).or shared.metrics.queueDepth := by
  cases reported_of_step stepped with
  | push caller waited length capacity reports was metrics =>
    rw [metrics, reports, recorded?, was]
    rfl
  | pull caller length capacity reports was metrics =>
    rw [metrics, reports, recorded?, was]
    rfl
  | other unreported metrics =>
    rw [metrics, recorded_of_other unreported]
    rfl

end SharedQueue

namespace Watch

open SharedQueue

variable {watch next final : Watch α} {event : Event α} {events : List (Event α)}
variable {config : ExecutorConfig} {producers callers : Nat}

/-- The entries in the queue and those that a close dropped. -/
def left (watch : Watch α) : Nat :=
  watch.shared.queue.buffer.length + watch.traffic.dropped.length

theorem left_of_kept (stepped : watch.step event = some next)
    (kept : next.shared.queue.buffer = watch.shared.queue.buffer) : next.left = watch.left := by
  have same : next.traffic.dropped = watch.traffic.dropped → next.left = watch.left := by
    intro dropped
    rw [left, kept, dropped, left]
  cases moved_of_step stepped with
  | pushed caller entry enters was stillOpen contents outlines traffic =>
    exact same (by rw [traffic])
  | pulled caller entry stillOpen contents outlines traffic => exact same (by rw [traffic])
  | ended caller status found contents outlines traffic => exact same (by rw [traffic])
  | closed caller closable contents outlines traffic =>
    -- Such a close has found nothing to drop.
    have nothing : watch.shared.queue.buffer = [] := by
      rw [← kept, contents]
      rfl
    apply same
    rw [traffic, nothing]
    exact List.append_nil _
  | marked contents outlines traffic => exact same (by rw [traffic])
  | passed contents outlines traffic => exact same (by rw [traffic])

theorem left_of_enter {caller : Nat} (stepped : watch.step (.enter caller) = some next)
    (nothing : watch.traffic.dropped = []) : next.left = next.shared.queue.buffer.length := by
  have same : next.traffic.dropped = watch.traffic.dropped := by
    rw [(shared_of_step stepped).2, Traffic.extend]
    unfold Traffic.note
    split <;> rfl
  rw [left, same, nothing]
  exact Nat.add_zero _

theorem left_of_close {caller : Nat} (stepped : watch.step (.close caller) = some next)
    (closable : watch.shared.queue.isClosable = true) (emptied : next.shared.queue.buffer = []) :
    next.left = watch.left := by
  have dropped : next.traffic.dropped = watch.traffic.dropped ++ watch.shared.queue.buffer := by
    rw [(shared_of_step stepped).2, Traffic.extend, if_pos closable]
  rw [left, emptied, dropped, List.length_append, left]
  simp +arith

/-! ### Calls that come one at a time -/

/-- One call at most is in progress.  If it has a length to record, then that is what is left, and
otherwise the gauge shows what is left.  A gauge that was never set counts as zero. -/
structure Depicted (watch : Watch α) : Prop where
  balanced : Balanced [] watch
  empty : watch.shared.queue.closed = true → watch.shared.queue.buffer = []
  few : watch.shared.busy ≤ 1
  owed : ∀ length, some length ∈ watch.shared.lengths → length = watch.left
  shown : (∀ length, some length ∉ watch.shared.lengths) →
    watch.shared.metrics.queueDepth.getD 0 = watch.left

namespace Depicted

/-- What a step has to see to, apart from what every step keeps. -/
theorem of_step (depicted : Depicted watch)
    (alone : event.begins = true → watch.shared.standings.all Standing.isOver = true)
    (stepped : watch.step event = some next)
    (owed : ∀ length, some length ∈ next.shared.lengths → length = next.left)
    (shown : (∀ length, some length ∉ next.shared.lengths) →
      next.shared.metrics.queueDepth.getD 0 = next.left) : Depicted next where
  balanced := depicted.balanced.step stepped
  empty := empty_of_moved depicted.empty (moved_of_step stepped)
  few := busy_of_step depicted.few alone (shared_of_step stepped).1
  owed := owed
  shown := shown

/-- A step with which no call has more to record, or less, and which leaves the gauge alone. -/
theorem same_step (depicted : Depicted watch)
    (alone : event.begins = true → watch.shared.standings.all Standing.isOver = true)
    (stepped : watch.step event = some next) (other : ∀ caller, event ≠ .report caller)
    (lengths : next.shared.lengths = watch.shared.lengths) (same : next.left = watch.left) :
    Depicted next := by
  have gauge := depth_of_step (shared_of_step stepped).1
  rw [recorded_of_other other, Option.none_or] at gauge
  apply depicted.of_step alone stepped
  · rw [lengths, same]
    exact depicted.owed
  · rw [lengths, same, gauge]
    exact depicted.shown

/-- A call adds an entry or takes one, and has the length to record. -/
theorem enter_step {caller : Nat} {old new : Standing} (depicted : Depicted watch)
    (stepped : watch.step (.enter caller) = some next)
    (was : watch.shared.standings[caller]? = some old) (inProgress : old.isOver = false)
    (nothing : old.length? = none) (stillOpen : watch.shared.queue.closed = false)
    (standings : next.shared.standings = watch.shared.standings.set caller new)
    (owes : new.length? = some next.shared.queue.buffer.length) : Depicted next := by
  have lengths := lengths_of_set standings
  rw [owes] at lengths
  have inside : caller < watch.shared.lengths.length := by
    rw [SharedQueue.lengths, List.length_map]
    exact (List.getElem?_eq_some_iff.mp was).1
  have left := left_of_enter stepped (depicted.balanced.kept stillOpen)
  apply depicted.of_step (by simp [Event.begins]) stepped
  · intro length found
    rw [lengths] at found
    rcases List.mem_or_eq_of_mem_set found with before | now
    · exact absurd before (not_mem_lengths depicted.few was inProgress nothing length)
    · rw [left]
      exact Option.some.inj now
  · intro none
    apply absurd _ (none next.shared.queue.buffer.length)
    rw [lengths]
    exact List.mem_set inside _

/-- A call records the length and has no more to record. -/
theorem report_step {caller length : Nat} {old new : Standing} (depicted : Depicted watch)
    (stepped : watch.step (.report caller) = some next)
    (was : watch.shared.standings[caller]? = some old) (owes : old.length? = some length)
    (kept : next.shared.queue.buffer = watch.shared.queue.buffer)
    (standings : next.shared.standings = watch.shared.standings.set caller new)
    (done : new.length? = none) : Depicted next := by
  have lengths := lengths_of_set standings
  rw [done] at lengths
  have there : some length ∈ watch.shared.lengths := by
    apply List.mem_map.mpr
    exact ⟨old, List.mem_of_getElem? was, owes⟩
  have same := left_of_kept stepped kept
  apply depicted.of_step (by simp [Event.begins]) stepped
  · intro other found
    rw [lengths] at found
    rcases List.mem_or_eq_of_mem_set found with before | now
    · rw [same]
      exact depicted.owed other before
    · contradiction
  · intro _
    rw [depth_of_step (shared_of_step stepped).1, recorded?, was, Option.bind_some, owes, same]
    exact depicted.owed length there

theorem step (depicted : Depicted watch)
    (alone : event.begins = true → watch.shared.standings.all Standing.isOver = true)
    (stepped : watch.step event = some next) : Depicted next := by
  cases advanced_of_step (shared_of_step stepped).1 with
  | marked marks kept standings =>
    apply depicted.same_step alone stepped (by simp [marks])
    · rw [lengths, standings, lengths]
    · exact left_of_kept stepped kept
  | proceeded caller old new whose was proceeds kept standings =>
    rcases proceeds.length with ⟨same, other⟩ | ⟨reporter, length, rfl, owes, done⟩
    · apply depicted.same_step alone stepped other
      · rw [lengths, standings]
        exact map_set_same was same
      · exact left_of_kept stepped kept
    · cases whose
      exact depicted.report_step stepped was owes kept standings done
  | added caller waited enters was stillOpen standings =>
    subst enters
    cases waited <;> exact depicted.enter_step stepped was rfl rfl stillOpen standings rfl
  | took caller enters was stillOpen standings =>
    subst enters
    exact depicted.enter_step stepped was rfl rfl stillOpen standings rfl
  | closed caller closes was closable emptied standings =>
    subst closes
    apply depicted.same_step alone stepped (by simp)
    · rw [lengths, standings]
      exact map_set_same was rfl
    · exact left_of_close stepped closable emptied

theorem run (depicted : Depicted watch)
    (sequential : isSequential watch.shared events = true) (ran : watch.run events = some final) :
    Depicted final := by
  induction events generalizing watch with
  | nil =>
    cases ran
    exact depicted
  | cons event rest ih =>
    obtain ⟨middle, stepped, ran⟩ := Option.bind_eq_some_iff.mp ran
    rw [isSequential, (shared_of_step stepped).1, Bool.and_eq_true] at sequential
    obtain ⟨allowed, sequential⟩ := sequential
    have alone : event.begins = true → watch.shared.standings.all Standing.isOver = true := by
      intro begins
      rwa [begins, Bool.not_true, Bool.false_or] at allowed
    exact ih (depicted.step alone stepped) sequential ran

end Depicted

theorem depicted_begin (config : ExecutorConfig) (producers callers : Nat) :
    Depicted (begin (start config producers callers) : Watch α) := by
  have finished : (start config producers callers : SharedQueue α).standings.all
      Standing.isOver = true := by
    simp [standings, start, Call.standing, Standing.isOver]
  refine ⟨⟨rfl, fun _ => rfl⟩, fun _ => rfl, ?_, ?_, fun _ => rfl⟩
  · exact (busy_of_over finished).le.trans (Nat.zero_le 1)
  · exact fun length found => absurd found (not_mem_lengths_of_over finished length)

/-- Take any settings and any calls on a queue, each of which begins when those before it are over:
inserts, pulls, producers marked done and closes, in any order and with any outcome.  Whenever all
calls are over, the gauge of the length shows the length, as long as the queue is not closed.  Once
it is closed, it is empty, and the gauge shows how many entries the close has dropped.  A gauge that
was never set counts as zero, and up to 2⁵³ entries it shows the number that it was set to. -/
theorem depth_shown_until_close
    (ran : (begin (start config producers callers)).run events = some final)
    (sequential : isSequential (start config producers callers) events = true)
    (finished : final.shared.standings.all Standing.isOver = true) :
    let gauge := final.shared.metrics.queueDepth.getD 0
    let length := final.shared.queue.buffer.length
    let dropped := final.traffic.dropped.length
    gauge = length + dropped ∧ (final.shared.queue.closed = false → dropped = 0) ∧
      (final.shared.queue.closed = true → length = 0) ∧
      (gauge ≤ 2 ^ 53 → Metrics.gaugeReading gauge = gauge) := by
  intro gauge length dropped
  have depicted := (depicted_begin config producers callers).run sequential ran
  refine ⟨depicted.shown (not_mem_lengths_of_over finished), ?_, ?_, ?_⟩
  · intro stillOpen
    exact List.length_eq_zero_iff.mpr (depicted.balanced.kept stillOpen)
  · intro closed
    exact List.length_eq_zero_iff.mpr (depicted.empty closed)
  · intro bounded
    exact Metrics.gaugeReading_of_isExact (Number.isExact_natCast bounded)
      (bounded.trans (by decide))

/-- Two entries get in, one is taken, and the only producer is done. -/
def passingThrough : List (Event Nat) :=
  [.insert 0 7, .measured 0 10, .enter 0, .notify 0 none, .report 0, .leave 0,
    .insert 0 8, .measured 0 10, .enter 0, .notify 0 none, .report 0, .leave 0,
    .pull 0, .enter 0, .notify 0 none, .report 0, .markDone, .leave 0]

theorem depth_shown_until_close_inhabited :
    ∃ final : Watch Nat,
      (begin (start { writeBufferLimitBytes := 100 } 1 1)).run passingThrough = some final ∧
        final.shared.queue.status = .draining ∧ final.traffic.pulled = [(0, 7)] ∧
        final.shared.queue.buffer.length = 1 ∧ final.shared.metrics.queueDepth.getD 0 = 1 := by
  have runs : ((begin (start { writeBufferLimitBytes := 100 } 1 1)).run passingThrough).map
      (fun final : Watch Nat => decide
        (isSequential (start { writeBufferLimitBytes := 100 } 1 1) passingThrough = true ∧
          final.shared.standings.all Standing.isOver = true ∧
          final.shared.queue.closed = false ∧ final.shared.queue.status = .draining ∧
          final.traffic.pulled = [(0, 7)] ∧ final.shared.queue.buffer.length = 1)) =
      some true := by
    decide +kernel
  obtain ⟨final, ran, holds⟩ := Option.map_eq_some_iff.mp runs
  obtain ⟨sequential, finished, stillOpen, status, pulled, length⟩ := of_decide_eq_true holds
  obtain ⟨gauge, kept, -, -⟩ := depth_shown_until_close ran sequential finished
  refine ⟨final, ran, status, pulled, length, ?_⟩
  rw [gauge, kept stillOpen, length]

/-- The queue is closed with one entry in it. -/
def droppingOne : List (Event Nat) :=
  passingThrough ++ [.close 0, .notify 0 none, .notify 0 none]

/-- All calls have returned, the queue is empty, and the gauge still shows an entry. -/
theorem depth_shown_until_close_dropped :
    ∃ final : SharedQueue Nat,
      (start { writeBufferLimitBytes := 100 } 1 1).run droppingOne = some final ∧
        isSequential (start { writeBufferLimitBytes := 100 } 1 1) droppingOne = true ∧
        final.reply? 0 = some .closed ∧ final.metrics.queueDepth = some 1 ∧
        final.queue.buffer.length = 0 := by
  have runs : ((start { writeBufferLimitBytes := 100 } 1 1).run droppingOne).map
      (fun final : SharedQueue Nat => decide
        (isSequential (start { writeBufferLimitBytes := 100 } 1 1) droppingOne = true ∧
          final.reply? 0 = some .closed ∧ final.metrics.queueDepth = some 1 ∧
          final.queue.buffer.length = 0)) = some true := by
    decide +kernel
  obtain ⟨final, ran, holds⟩ := Option.map_eq_some_iff.mp runs
  exact ⟨final, ran, of_decide_eq_true holds⟩

end Watch

end BoundedIngest

/-
Module: BoundedIngest.Proofs.Queue.Traffic
Purpose: What has gone through a queue, as a history that is kept beside it, and the
  balance between the history and the contents.
Main exports:
  Traffic, Watch, Watch.run, Watch.Moved, Watch.moved_of_step, Watch.balanced_of_run
-/
import BoundedIngest.Proofs.Queue.Outline

namespace BoundedIngest

/-!
A queue remembers neither who added an entry nor what it has handed out.  The traffic of a
queue does.  It is read off the call that takes the lock, from the side of its critical
section on which the call was before and is afterwards, and it has no influence on what
happens.
-/

variable {α : Type}

/-- What has gone through a queue. -/
structure Traffic (α : Type) where
  /-- The entries that were added, oldest first, each with the call that added it. -/
  pushed : List (Nat × α) := []
  /-- The entries that were taken, oldest first, each with the call that took it. -/
  pulled : List (Nat × α) := []
  /-- The ends that were found, oldest first, each with the call that found it. -/
  ended : List (Nat × QueueStatus) := []
  /-- The entries that a close dropped. -/
  dropped : List α := []
deriving DecidableEq

namespace Traffic

/-- Note what a call did that has held the lock. -/
def note (traffic : Traffic α) (caller : Nat) : Option (Outline α) → Option (Outline α) → Traffic α
  | some (.inserting entry), some .inserted =>
      { traffic with pushed := traffic.pushed ++ [(caller, entry)] }
  | some .pulling, some (.holding entry) =>
      { traffic with pulled := traffic.pulled ++ [(caller, entry)] }
  | some .pulling, some (.ended status) =>
      { traffic with ended := traffic.ended ++ [(caller, status)] }
  | _, _ => traffic

/-- The traffic after a step, given the queue before and after it. -/
def extend (traffic : Traffic α) (before : SharedQueue α) (event : SharedQueue.Event α)
    (after : SharedQueue α) : Traffic α :=
  match event with
  | .enter caller => traffic.note caller before.outlines[caller]? after.outlines[caller]?
  | .close _ =>
      if before.queue.isClosable then
        { traffic with dropped := traffic.dropped ++ before.queue.buffer }
      else traffic
  | _ => traffic

/-- A call that is still on the same side of its critical section leaves no trace. -/
theorem note_same (traffic : Traffic α) (caller : Nat) (outline : Option (Outline α)) :
    traffic.note caller outline outline = traffic := by
  rcases outline with _ | outline
  · rfl
  · cases outline <;> rfl

end Traffic

/-- A queue that is watched. -/
structure Watch (α : Type) where
  shared : SharedQueue α
  traffic : Traffic α := {}
deriving DecidableEq

namespace Watch

open SharedQueue

variable {watch next final : Watch α} {event : Event α}

/-- Begin to watch. -/
def begin (shared : SharedQueue α) : Watch α := { shared }

def step (watch : Watch α) (event : Event α) : Option (Watch α) :=
  (watch.shared.step event).map fun after =>
    { shared := after, traffic := watch.traffic.extend watch.shared event after }

def run (watch : Watch α) : List (Event α) → Option (Watch α)
  | [] => some watch
  | event :: rest => (watch.step event).bind (·.run rest)

theorem shared_of_step (stepped : watch.step event = some next) :
    watch.shared.step event = some next.shared ∧
      next.traffic = watch.traffic.extend watch.shared event next.shared := by
  obtain ⟨after, moved, rfl⟩ := Option.map_eq_some_iff.mp stepped
  exact ⟨moved, rfl⟩

/-- Every run of a queue can be watched, and watching does not change it. -/
theorem map_shared_run (watch : Watch α) (events : List (Event α)) :
    (watch.run events).map shared = watch.shared.run events := by
  induction events generalizing watch with
  | nil => rfl
  | cons event rest ih =>
    rw [run, SharedQueue.run, step]
    cases watch.shared.step event with
    | none => rfl
    | some after => exact ih _

/-- What each step keeps, a run keeps. -/
theorem keep_of_run {kept : Watch α → Prop} {events : List (Event α)}
    (keeps : ∀ watch event next, kept watch → Watch.step watch event = some next → kept next)
    (start : kept watch) (ran : watch.run events = some final) : kept final := by
  induction events generalizing watch with
  | nil =>
    cases ran
    exact start
  | cons event rest ih =>
    obtain ⟨middle, stepped, ran⟩ := Option.bind_eq_some_iff.mp ran
    exact ih (keeps watch event middle start stepped) ran

/-! ### What a step does -/

/-- A step moves an entry in, or out, or finds the end, or drops what is left, or counts a
producer, or does none of these. -/
inductive Moved (watch : Watch α) (event : Event α) (next : Watch α) : Prop
  | pushed (caller : Nat) (entry : α) (enters : event = .enter caller)
      (was : watch.shared.outlines[caller]? = some (.inserting entry))
      (stillOpen : watch.shared.queue.closed = false)
      (contents : SameContents (watch.shared.queue.push entry) next.shared.queue)
      (outlines : next.shared.outlines = watch.shared.outlines.set caller .inserted)
      (traffic : next.traffic =
        { watch.traffic with pushed := watch.traffic.pushed ++ [(caller, entry)] })
  | pulled (caller : Nat) (entry : α)
      (stillOpen : watch.shared.queue.closed = false)
      (contents : watch.shared.queue.pop? = some (entry, next.shared.queue))
      (outlines : next.shared.outlines = watch.shared.outlines.set caller (.holding entry))
      (traffic : next.traffic =
        { watch.traffic with pulled := watch.traffic.pulled ++ [(caller, entry)] })
  | ended (caller : Nat) (status : QueueStatus) (found : watch.shared.queue.status = status)
      (contents : next.shared.queue = watch.shared.queue)
      (outlines : next.shared.outlines = watch.shared.outlines.set caller (.ended status))
      (traffic : next.traffic =
        { watch.traffic with ended := watch.traffic.ended ++ [(caller, status)] })
  | closed (caller : Nat) (closable : watch.shared.queue.isClosable = true)
      (contents : next.shared.queue = watch.shared.queue.close)
      (outlines : next.shared.outlines = watch.shared.outlines.set caller .closing)
      (traffic : next.traffic =
        { watch.traffic with dropped := watch.traffic.dropped ++ watch.shared.queue.buffer })
  | marked (contents : next.shared.queue = watch.shared.queue.markDone)
      (outlines : next.shared.outlines = watch.shared.outlines)
      (traffic : next.traffic = watch.traffic)
  | passed (contents : SameContents watch.shared.queue next.shared.queue)
      (outlines : next.shared.outlines = watch.shared.outlines ∨
        ∃ caller outline, outline ≠ .inserted ∧
          next.shared.outlines = watch.shared.outlines.set caller outline)
      (traffic : next.traffic = watch.traffic)

/-- What a call that takes the lock does, and what is noted of it. -/
theorem moved_of_enter {caller : Nat} (entered : watch.shared.enter caller = some next.shared)
    (traffic : next.traffic = watch.traffic.note caller watch.shared.outlines[caller]?
      next.shared.outlines[caller]?) : Moved watch (.enter caller) next := by
  have unnoted : next.shared.outlines = watch.shared.outlines → next.traffic = watch.traffic := by
    intro same
    rw [traffic, same]
    exact Traffic.note_same _ _ _
  have now : ∀ {was outline : Outline α}, watch.shared.outlines[caller]? = some was →
      next.shared.outlines = watch.shared.outlines.set caller outline →
      next.traffic = watch.traffic.note caller (some was) (some outline) := by
    intro was outline found outlines
    obtain ⟨inside, -⟩ := List.getElem?_eq_some_iff.mp found
    rw [traffic, outlines, found, List.getElem?_set_self inside]
  cases entered_of_enter entered with
  | refused entry was reason contents outlines =>
    exact .passed contents (.inr ⟨caller, .refused, by simp, outlines⟩) (now was outlines)
  | delayed contents outlines => exact .passed contents (.inl outlines) (unnoted outlines)
  | pushed entry was stillOpen contents outlines =>
    exact .pushed caller entry rfl was stillOpen contents outlines (now was outlines)
  | taken entry was stillOpen contents outlines =>
    exact .pulled caller entry stillOpen contents outlines (now was outlines)
  | endedClosed was reason contents outlines =>
    exact .ended caller .closed (by simp [Queue.status, reason]) contents outlines
      (now was outlines)
  | endedDone was reason contents outlines =>
    exact .ended caller .done reason contents outlines (now was outlines)
  | starved contents outlines =>
    exact .passed (sameContents_of_eq contents) (.inl outlines) (unnoted outlines)

theorem moved_of_step (stepped : watch.step event = some next) : Moved watch event next := by
  obtain ⟨moved, traffic⟩ := shared_of_step stepped
  cases event with
  | insert caller entry =>
    obtain ⟨-, queue, outlines⟩ := insert_outline moved
    exact .passed (sameContents_of_eq queue) (.inr ⟨caller, _, by simp, outlines⟩) traffic
  | measured caller size =>
    obtain ⟨queue, outlines⟩ := measured_outline moved
    exact .passed (sameContents_of_eq queue) (.inl outlines) traffic
  | measuringPanicked caller =>
    obtain ⟨-, queue, outlines⟩ := measuringPanicked_outline moved
    exact .passed (sameContents_of_eq queue) (.inr ⟨caller, _, by simp, outlines⟩) traffic
  | pull caller =>
    obtain ⟨-, queue, outlines⟩ := pull_outline moved
    exact .passed (sameContents_of_eq queue) (.inr ⟨caller, _, by simp, outlines⟩) traffic
  | enter caller => exact moved_of_enter moved traffic
  | notify caller target =>
    obtain ⟨queue, outlines⟩ := notify_outline moved
    exact .passed (sameContents_of_eq queue) (.inl outlines) traffic
  | report caller =>
    obtain ⟨queue, outlines⟩ := report_outline moved
    exact .passed (sameContents_of_eq queue) (.inl outlines) traffic
  | close caller =>
    obtain ⟨-, queue, outlines⟩ := close_outline moved
    rw [Traffic.extend] at traffic
    split at queue
    · rename_i closable
      rw [if_pos closable] at traffic
      exact .closed caller closable queue outlines traffic
    · rename_i stays
      rw [if_neg stays] at traffic
      exact .passed (sameContents_of_eq queue) (.inr ⟨caller, _, by simp, outlines⟩) traffic
  | markDone =>
    obtain ⟨queue, outlines⟩ := markDone_outline moved
    exact .marked queue outlines traffic
  | leave caller =>
    obtain ⟨queue, outlines⟩ := leave_contents moved
    exact .passed (sameContents_of_eq queue) (.inr ⟨caller, _, by simp, outlines⟩) traffic

/-- A closed queue is empty. -/
theorem empty_of_moved
    (empty : watch.shared.queue.closed = true → watch.shared.queue.buffer = [])
    (moved : Moved watch event next) (closed : next.shared.queue.closed = true) :
    next.shared.queue.buffer = [] := by
  have notOpen : ∀ {p : Prop}, next.shared.queue.closed = watch.shared.queue.closed →
      watch.shared.queue.closed = false → p := by
    intro p same stillOpen
    cases closed.symm.trans (same.trans stillOpen)
  cases moved with
  | pushed caller entry enters was stillOpen contents outlines traffic =>
    exact notOpen (by rw [contents]; rfl) stillOpen
  | pulled caller entry stillOpen contents outlines traffic =>
    obtain ⟨rest, front, after⟩ := Queue.front_of_pop contents
    exact notOpen (by rw [after]) stillOpen
  | ended caller status found contents outlines traffic =>
    rw [contents] at closed ⊢
    exact empty closed
  | closed caller closable contents outlines traffic =>
    rw [contents]
    rfl
  | marked contents outlines traffic =>
    rw [contents] at closed ⊢
    exact empty closed
  | passed contents outlines traffic =>
    rw [contents] at closed ⊢
    exact empty closed

/-! ### The balance -/

/-- What was in a queue at first and what was added since are what was taken, what is in
it, and what was dropped, in this order; and nothing is dropped from a queue that stays
open. -/
structure Balanced (origin : List α) (watch : Watch α) : Prop where
  contents : origin ++ watch.traffic.pushed.map Prod.snd =
    watch.traffic.pulled.map Prod.snd ++ watch.shared.queue.buffer ++ watch.traffic.dropped
  kept : watch.shared.queue.closed = false → watch.traffic.dropped = []

theorem Balanced.step {origin : List α} (balanced : Balanced origin watch)
    (stepped : watch.step event = some next) : Balanced origin next := by
  obtain ⟨contents, kept⟩ := balanced
  have same : SameContents watch.shared.queue next.shared.queue →
      next.traffic.pushed = watch.traffic.pushed → next.traffic.pulled = watch.traffic.pulled →
      next.traffic.dropped = watch.traffic.dropped → Balanced origin next := by
    intro queue pushed pulled dropped
    constructor
    · rw [queue, pushed, pulled, dropped]
      exact contents
    · rw [queue, dropped]
      exact kept
  cases moved_of_step stepped with
  | pushed caller entry enters was stillOpen queue outlines traffic =>
    have none : watch.traffic.dropped = [] := kept stillOpen
    constructor
    · rw [queue, traffic, Queue.push, List.map_append, ← List.append_assoc, contents, none]
      simp
    · intro _
      rw [traffic]
      exact none
  | pulled caller entry stillOpen queue outlines traffic =>
    obtain ⟨rest, front, after⟩ := Queue.front_of_pop queue
    constructor
    · rw [after, traffic, contents, front]
      simp
    · intro _
      rw [traffic]
      exact kept stillOpen
  | ended caller status found queue outlines traffic =>
    exact same (sameContents_of_eq queue) (by rw [traffic]) (by rw [traffic]) (by rw [traffic])
  | closed caller closable queue outlines traffic =>
    have stillOpen : watch.shared.queue.closed = false := by
      cases closed : watch.shared.queue.closed with
      | false => rfl
      | true => simp [Queue.isClosable, Queue.status, closed] at closable
    constructor
    · rw [queue, traffic, contents, kept stillOpen, Queue.close]
      simp
    · intro opened
      rw [queue, Queue.close] at opened
      contradiction
  | marked queue outlines traffic =>
    constructor
    · rw [queue, traffic, Queue.markDone]
      exact contents
    · rw [queue, traffic, Queue.markDone]
      exact kept
  | passed queue outlines traffic =>
    exact same queue (by rw [traffic]) (by rw [traffic]) (by rw [traffic])

/-- A queue loses no entry, makes none up, and hands them out in the order in which they
came. -/
theorem balanced_of_run {shared : SharedQueue α} {events : List (Event α)}
    (ran : (begin shared).run events = some final) : Balanced shared.queue.buffer final := by
  have start : Balanced shared.queue.buffer (begin shared) :=
    ⟨by simp [begin], fun _ => rfl⟩
  exact keep_of_run (fun _ _ _ balanced stepped => balanced.step stepped) start ran

end Watch

end BoundedIngest

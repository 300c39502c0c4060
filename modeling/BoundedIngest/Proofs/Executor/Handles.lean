/-
Module: BoundedIngest.Proofs.Executor.Handles
Purpose: Whose handle was taken, and by whom its worker is joined.
Main exports:
  foldl_set_true, Executor.mem_joinable, Handled, Handled.step
-/
import BoundedIngest.Proofs.Executor.Lifetimes
import BoundedIngest.Proofs.Executor.Office

namespace BoundedIngest

/-!
The handle of a worker is taken once, by the first call that waits for termination and finds
it.  That call crosses the worker off when it has ended.  This holds in every run, however the
calls overlap.
-/

variable {ρ α β : Type}

/-- Whoever stands in the list, or was marked before, is marked. -/
theorem foldl_set_true (workers : List Nat) (marks : List Bool) (worker : Nat) :
    (workers.foldl (·.set · true) marks)[worker]? = some true ↔
      marks[worker]? = some true ∨ (worker ∈ workers ∧ worker < marks.length) := by
  induction workers generalizing marks with
  | nil => simp
  | cons first rest ih =>
    rw [List.foldl_cons, ih, List.length_set, List.mem_cons]
    by_cases same : first = worker
    · subst same
      by_cases inside : first < marks.length
      · simp [inside]
      · simp [inside]
    · rw [List.getElem?_set_ne same]
      simp [Ne.symm same]

namespace Executor

variable {executor : Executor ρ α β} {worker : Nat}

theorem length_handles : executor.handles.length = executor.consumerIndex + 1 := by
  simp [handles, consumerIndex]

/-- The handles that a call takes are those of the spawned workers that nobody has taken. -/
theorem mem_joinable : worker ∈ executor.joinable ↔
    executor.snapshot.Spawned worker ∧ executor.handles[worker]? = some false := by
  rw [joinable, List.mem_filter, mem_workers, Bool.and_eq_true, isSpawned_iff, length_phases]
  have mark : worker ≤ executor.consumerIndex → executor.handles[worker]? =
      some (executor.producers[worker]?.elim executor.consumer.joined (·.joined)) := by
    intro upTo
    cases found : executor.producers[worker]? with
    | some producer =>
      have inside := (List.getElem?_eq_some_iff.mp found).1
      rw [handles, List.getElem?_append_left (by simpa using inside)]
      simp [found]
    | none =>
      have last : worker = executor.producers.length :=
        Nat.le_antisymm upTo (List.getElem?_eq_none_iff.mp found)
      simp [handles, last]
  constructor
  · rintro ⟨upTo, spawned, free⟩
    refine ⟨spawned, ?_⟩
    rw [mark upTo]
    cases found : executor.producers[worker]? <;> simpa [found] using free
  · rintro ⟨spawned, free⟩
    have upTo : worker ≤ executor.consumerIndex := length_phases ▸ spawned.inside
    rw [mark upTo] at free
    refine ⟨upTo, spawned, ?_⟩
    cases found : executor.producers[worker]? <;> simpa [found] using free

end Executor

/-- Whoever's handle was taken was spawned, and has ended or is yet to be joined by the call
that took it. -/
structure Handled (executor : Executor ρ α β) : Prop where
  spawned : ∀ worker, executor.handles[worker]? = some true → executor.snapshot.Spawned worker
  listed : ∀ worker, executor.handles[worker]? = some true → executor.snapshot.Ended worker ∨
    ∃ rest total, .joining rest total ∈ executor.awaits ∧ worker ∈ rest

namespace Handled

variable {executor next : Executor ρ α β} {office : Office β} {event : Executor.Event ρ α β}

/-- Nobody takes a handle, and nobody is crossed off before it has ended. -/
theorem exchange (handled : Handled executor) (started : executor.snapshot.Started)
    (stepped : executor.step event = some next) (handles : next.handles = executor.handles)
    (awaits : ∀ rest total worker, .joining rest total ∈ executor.awaits → worker ∈ rest →
      next.snapshot.Ended worker ∨
        ∃ rest total, .joining rest total ∈ next.awaits ∧ worker ∈ rest) : Handled next := by
  have move := Executor.move_of_step stepped
  constructor
  · intro worker taken
    rw [handles] at taken
    exact (handled.spawned worker taken).move move
  · intro worker taken
    rw [handles] at taken
    rcases handled.listed worker taken with ended | ⟨rest, total, found, among⟩
    · exact .inl (ended.move started move)
    · exact awaits rest total worker found among

/-- A call takes all handles that are left. -/
theorem collects {call : Nat} (handled : Handled executor) (started : executor.snapshot.Started)
    (stepped : executor.step event = some next)
    (was : executor.awaits[call]? = some .collecting)
    (handles : next.handles = executor.joinable.foldl (·.set · true) executor.handles)
    (awaits : next.awaits =
      executor.awaits.set call (.joining executor.joinable executor.joinable.length)) :
    Handled next := by
  have move := Executor.move_of_step stepped
  have inside := (List.getElem?_eq_some_iff.mp was).1
  have taken : ∀ worker, next.handles[worker]? = some true →
      executor.handles[worker]? = some true ∨ worker ∈ executor.joinable := by
    intro worker marked
    rw [handles, foldl_set_true] at marked
    exact marked.imp_right fun found => found.1
  constructor
  · intro worker marked
    rcases taken worker marked with before | now
    · exact (handled.spawned worker before).move move
    · exact (Executor.mem_joinable.mp now).1.move move
  · intro worker marked
    rw [awaits]
    rcases taken worker marked with before | now
    · rcases handled.listed worker before with ended | ⟨rest, total, found, among⟩
      · exact .inl (ended.move started move)
      · exact .inr ⟨rest, total, mem_set_of_ne found was (by simp), among⟩
    · exact .inr ⟨_, _, List.mem_set inside _, now⟩

/-- Every step keeps it. -/
theorem step (handled : Handled executor) (started : executor.snapshot.Started)
    (stepped : executor.step event = some next) : Handled next := by
  have move := Executor.officeMove_of_step stepped
  generalize seen : next.office = office at move
  have handles : next.handles = office.handles := congrArg Office.handles seen
  have awaits : next.awaits = office.awaits := congrArg Office.awaits seen
  have same : next.handles = executor.handles → next.awaits = executor.awaits →
      Handled next := by
    intro handles awaits
    refine handled.exchange started stepped handles fun rest total worker found among => ?_
    rw [awaits]
    exact .inr ⟨rest, total, found, among⟩
  cases move with
  | awaits =>
    refine handled.exchange started stepped handles fun rest total worker found among => ?_
    rw [awaits]
    exact .inr ⟨rest, total, List.mem_append_left _ found, among⟩
  | collects was free => exact handled.collects started stepped was handles awaits
  | joins worker rest total was ended =>
    have gone := Executor.hasEnded_iff.mp ended
    refine handled.exchange started stepped handles fun others count other found among => ?_
    rw [awaits]
    by_cases mine : .joining (worker :: rest) total = AwaitPhase.joining others count
    · cases mine
      rcases List.mem_cons.mp among with rfl | among
      · exact .inl (gone.move started (Executor.move_of_step stepped))
      · exact .inr ⟨rest, total, List.mem_set (List.getElem?_eq_some_iff.mp was).1 _, among⟩
    · exact .inr ⟨others, count, mem_set_of_ne found was mine, among⟩
  | leaves total was =>
    refine handled.exchange started stepped handles fun others count other found among => ?_
    rw [awaits]
    refine .inr ⟨others, count, mem_set_of_ne found was ?_, among⟩
    intro mine
    cases mine
    contradiction
  | still | executes | aborts | enters | takesParts | takesSender | takesReceiver | starts
  | strands | spawns | serves | settles | retreats | cancels => exact same handles awaits

end Handled

end BoundedIngest

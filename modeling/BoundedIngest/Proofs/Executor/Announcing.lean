/-
Module: BoundedIngest.Proofs.Executor.Announcing
Purpose: The state that users see before the workers are there.
Main exports:
  ExecutePhase.isReadying, ExecutePhase.isServed, Executor.IsFresh, Announced, Announced.step
-/
import BoundedIngest.Proofs.Executor.Lifetimes
import BoundedIngest.Proofs.Executor.Office

namespace BoundedIngest

/-!
As long as some call may still become the one that starts, the executor is said to be created,
whoever shuts it down or waits for its termination.
-/

variable {ρ α β : Type}

namespace ExecutePhase

/-- The call may still become the one that starts. -/
def isReadying : ExecutePhase β → Bool
  | .takingSender hasParts | .takingReceiver hasParts _ => hasParts
  | .starting => true
  | _ => false

/-- The call has spawned everybody and does not know its outcome, or has yet to record it. -/
def isServed : ExecutePhase β → Bool
  | .waiting | .checkingFlag | .checkingSlot | .judging _ | .settling _ | .recording _ => true
  | _ => false

theorem frontier_of_isReadying {phase : ExecutePhase β} (readying : phase.isReadying = true) :
    phase.frontier? = some 0 := by
  cases phase <;> first | rfl | exact if_pos readying

end ExecutePhase

/-- The parts are still there, or a call has them that may start. -/
def Executor.IsFresh (executor : Executor ρ α β) : Prop :=
  executor.hasParts = true ∨ ∃ phase ∈ executor.executes, phase.isReadying = true

/-- Nothing is announced before a call starts, and nothing is settled before workers are there. -/
structure Announced (executor : Executor ρ α β) : Prop where
  served : ∀ phase ∈ executor.executes, phase.isServed = true →
    ∃ worker, executor.snapshot.Spawned worker
  fresh : executor.IsFresh → executor.lifecycle = .created

namespace Announced

variable {executor next : Executor ρ α β} {office : Office β} {event : Executor.Event ρ α β}
  {call worker : Nat} {old new : ExecutePhase β}

theorem not_fresh_of_spawned (started : executor.snapshot.Started)
    (spawned : executor.snapshot.Spawned worker) : ¬ executor.IsFresh := by
  rintro (parts | ⟨phase, found, readying⟩)
  · exact Snapshot.not_spawned_of_unborn (started.fresh parts) spawned
  · exact Snapshot.not_spawned_of_unborn
      (started.frontier phase found 0 (ExecutePhase.frontier_of_isReadying readying)) spawned

theorem fresh_of_set (executes : next.executes = executor.executes.set call new)
    (parts : next.hasParts = true → executor.hasParts = true)
    (readying : new.isReadying = true → executor.IsFresh) (fresh : next.IsFresh) :
    executor.IsFresh := by
  rcases fresh with has | ⟨phase, found, ready⟩
  · exact .inl (parts has)
  · rw [executes] at found
    rcases List.mem_or_eq_of_mem_set found with before | rfl
    · exact .inr ⟨phase, before, ready⟩
    · exact readying ready

/-- A call that executes goes on. -/
theorem exchange (announced : Announced executor) (stepped : executor.step event = some next)
    (was : executor.executes[call]? = some old)
    (executes : next.executes = executor.executes.set call new)
    (served : new.isServed = true →
      old.isServed = true ∨ ∃ worker, next.snapshot.Spawned worker)
    (fresh : next.IsFresh → next.lifecycle = .created) : Announced next := by
  refine ⟨fun phase found serves => ?_, fresh⟩
  have kept : ∀ phase ∈ executor.executes, phase.isServed = true →
      ∃ worker, next.snapshot.Spawned worker := by
    intro phase found serves
    obtain ⟨worker, spawned⟩ := announced.served phase found serves
    exact ⟨worker, spawned.move (Executor.move_of_step stepped)⟩
  rw [executes] at found
  rcases List.mem_or_eq_of_mem_set found with before | rfl
  · exact kept phase before serves
  · exact (served serves).elim (kept old (List.mem_of_getElem? was)) id

/-- A call that executes goes on, and nothing is announced. -/
theorem goesOn (announced : Announced executor) (stepped : executor.step event = some next)
    (was : executor.executes[call]? = some old)
    (executes : next.executes = executor.executes.set call new)
    (served : new.isServed = true →
      old.isServed = true ∨ ∃ worker, next.snapshot.Spawned worker)
    (parts : next.hasParts = true → executor.hasParts = true)
    (readying : new.isReadying = true → executor.IsFresh)
    (lifecycle : next.lifecycle = executor.lifecycle) : Announced next := by
  refine announced.exchange stepped was executes served fun fresh => ?_
  rw [lifecycle]
  exact announced.fresh (fresh_of_set executes parts readying fresh)

/-- No call that executes goes on. -/
theorem same (announced : Announced executor) (stepped : executor.step event = some next)
    (executes : ∀ phase ∈ next.executes, phase ∈ executor.executes ∨ phase = .entering)
    (parts : next.hasParts = executor.hasParts)
    (lifecycle : executor.lifecycle = .created → next.lifecycle = .created) :
    Announced next := by
  constructor
  · intro phase found serves
    rcases executes phase found with before | rfl
    · obtain ⟨worker, spawned⟩ := announced.served phase before serves
      exact ⟨worker, spawned.move (Executor.move_of_step stepped)⟩
    · contradiction
  · intro fresh
    refine lifecycle (announced.fresh ?_)
    rcases fresh with has | ⟨phase, found, readying⟩
    · exact .inl (parts ▸ has)
    · rcases executes phase found with before | rfl
      · exact .inr ⟨phase, before, readying⟩
      · contradiction

/-- A call that starts is the only one that could. -/
theorem not_fresh_of_starting (started : executor.snapshot.Started)
    (was : executor.executes[call]? = some .starting)
    (executes : next.executes = executor.executes.set call (.spawning worker))
    (parts : next.hasParts = executor.hasParts) : ¬ next.IsFresh := by
  have alone : ∀ phase ∈ executor.executes.set call (.spawning worker), _ :=
    fun phase found => started.alone was rfl found
  rintro (has | ⟨phase, found, readying⟩)
  · have gone := (alone _ (List.mem_set (List.getElem?_eq_some_iff.mp was).1 _)).1
    rw [parts] at has
    exact absurd (gone.symm.trans has) (by simp)
  · rw [executes] at found
    rcases (alone phase found).2 with rfl | nothing
    · contradiction
    · rw [ExecutePhase.frontier_of_isReadying readying] at nothing
      contradiction

/-- Every step keeps it. -/
theorem step (announced : Announced executor) (willing : executor.Willing)
    (started : executor.snapshot.Started) (stepped : executor.step event = some next) :
    Announced next := by
  have move := Executor.officeMove_of_step stepped
  generalize seen : next.office = office at move
  have executes : next.executes = office.executes := congrArg Office.executes seen
  have parts : next.hasParts = office.hasParts := congrArg Office.hasParts seen
  have lifecycle : next.lifecycle = office.lifecycle := congrArg Office.lifecycle seen
  have same : next.executes = executor.executes → next.hasParts = executor.hasParts →
      (executor.lifecycle = .created → next.lifecycle = .created) → Announced next := by
    intro executes parts lifecycle
    refine announced.same stepped (fun phase found => ?_) parts lifecycle
    rw [executes] at found
    exact .inl found
  cases move with
  | still | awaits | collects | joins =>
    exact same executes parts fun created => lifecycle.trans created
  | cancels was =>
    refine same executes parts fun created => ?_
    rw [lifecycle]
    show executor.lifecycle.shutDown = .created
    rw [created]
    rfl
  | leaves total was =>
    refine same executes parts fun created => ?_
    rw [lifecycle]
    show executor.lifecycle.afterJoining total = .created
    rw [created]
    rfl
  | executes =>
    refine announced.same stepped (fun phase found => ?_) parts fun created =>
      lifecycle.trans created
    rw [executes] at found
    exact (List.mem_append.mp found).imp_right List.mem_singleton.mp
  | starts was =>
    refine announced.exchange stepped was executes (by simp [ExecutePhase.isServed]) fun fresh => ?_
    exact absurd fresh (not_fresh_of_starting started was executes parts)
  | settles outcome was =>
    refine announced.exchange stepped was executes (fun _ => .inl rfl) fun fresh => ?_
    obtain ⟨worker, spawned⟩ := announced.served _ (List.mem_of_getElem? was) rfl
    have before := fresh_of_set executes parts.symm.trans (by simp [ExecutePhase.isReadying]) fresh
    exact absurd before (not_fresh_of_spawned started spawned)
  | aborts was | enters was | strands worker panic was unnamed =>
    exact announced.goesOn stepped was executes (by simp [ExecutePhase.isServed])
      parts.symm.trans (by simp [ExecutePhase.isReadying]) lifecycle
  | takesParts was =>
    refine announced.goesOn stepped was executes (by simp [ExecutePhase.isServed]) (fun has => ?_)
      .inl lifecycle
    rw [parts] at has
    contradiction
  | takesSender hasParts was =>
    refine announced.goesOn stepped was executes (by simp [ExecutePhase.isServed])
      parts.symm.trans (fun readying => ?_) lifecycle
    exact .inr ⟨_, List.mem_of_getElem? was, readying⟩
  | takesReceiver hasParts hasSender was =>
    refine announced.goesOn stepped was executes (fun serves => ?_) parts.symm.trans
      (fun readying => ?_) lifecycle
    · split at serves <;> contradiction
    · split at readying
      · rename_i complete
        rw [Bool.and_eq_true, Bool.and_eq_true] at complete
        exact .inr ⟨_, List.mem_of_getElem? was, complete.1.1⟩
      · contradiction
  | spawns worker was named willing =>
    refine announced.goesOn stepped was executes (fun _ => ?_) parts.symm.trans
      (fun readying => ?_) lifecycle
    · exact .inr (Executor.somebody_of_step stepped was named willing)
    · split at readying <;> contradiction
  | retreats old new lifecycle was turn => exact (willing.not_retreats was turn).elim
  | serves old new was turn =>
    refine announced.goesOn stepped was executes (fun _ => .inl ?_) parts.symm.trans
      (fun readying => ?_) lifecycle
    · cases turn <;> rfl
    · cases turn <;> contradiction

end Announced

end BoundedIngest

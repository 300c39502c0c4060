/-
Module: BoundedIngest.Proofs.Executor.Lifetimes
Purpose: A worker is spawned once and ends once, and it is spawned only by a call that
  executes.
Main exports:
  Snapshot.Spawned, Snapshot.Ended, Spawned.move, Ended.move, Move.spawned_before,
  Executor.isSpawned_iff, Executor.hasEnded_iff
-/
import BoundedIngest.Proofs.Executor.Started

namespace BoundedIngest

variable {ρ α β : Type}

namespace Snapshot

/-- The worker at a position was spawned; the consumer stands behind the producers. -/
def Spawned (snapshot : Snapshot ρ α β) (worker : Nat) : Prop :=
  (∃ phase, snapshot.phases[worker]? = some phase ∧ phase ≠ .unborn) ∨
    (worker = snapshot.phases.length ∧ snapshot.consumer ≠ .unborn)

/-- The worker at a position has ended. -/
def Ended (snapshot : Snapshot ρ α β) (worker : Nat) : Prop :=
  snapshot.phases[worker]? = some .ended ∨
    (worker = snapshot.phases.length ∧ snapshot.consumer = .ended)

variable {snapshot next : Snapshot ρ α β} {worker : Nat} {event : Executor.Event ρ α β}

theorem Spawned.inside (spawned : snapshot.Spawned worker) :
    worker ≤ snapshot.phases.length := by
  rcases spawned with ⟨phase, found, -⟩ | ⟨rfl, -⟩
  · exact Nat.le_of_lt (List.getElem?_eq_some_iff.mp found).1
  · exact Nat.le_refl _

/-- Nobody was spawned. -/
theorem not_spawned_of_unborn (unborn : snapshot.Unborn 0) : ¬ snapshot.Spawned worker := by
  rintro (⟨phase, found, alive⟩ | ⟨-, alive⟩)
  · exact alive (unborn.2 worker phase (Nat.zero_le _) found)
  · exact alive unborn.1

end Snapshot

variable {snapshot next : Snapshot ρ α β} {worker : Nat} {event : Executor.Event ρ α β}

/-! ### Nobody becomes unborn again -/

theorem ProducerMove.alive {index : Nat} (move : ProducerMove snapshot index next) :
    ∃ new, new ≠ .unborn ∧ next.phases = snapshot.phases.set index new := by
  have busy : ∀ {phase : ProducerPhase ρ}, phase.isBusy = true → phase ≠ .unborn := by
    rintro _ busy rfl
    contradiction
  cases move with
  | turned old new was before stays => exact ⟨new, busy stays, rfl⟩
  | declined new was call stays => exact ⟨new, busy stays, rfl⟩
  | inserts | measuringFailed | accepted | reported | recorded | discarded | closes | closed
  | signalled | marked => exact ⟨_, by simp, rfl⟩

theorem ConsumerMove.alive {act : Executor.ConsumerAct β}
    (move : ConsumerMove snapshot act next) :
    snapshot.consumer ≠ .ended ∧ next.consumer ≠ .unborn := by
  cases move with
  | turned act new turn =>
    constructor
    · intro ended
      rw [ended] at turn
      cases act <;> contradiction
    · rcases Executor.cases_of_turn turn with ⟨error, rfl⟩ | ⟨-, -, rfl⟩ | ⟨result, -, -, rfl⟩
      · simp
      · simp
      · simp
  | reports status was =>
    refine ⟨by simp [was], ?_⟩
    simp only [Executor.afterDrained]
    split <;> simp
  | starts was | goesOn entry was | receives entry was | drains status was | delivers result was
  | recorded error was | discarded error was | closes was | closed was | signalled was =>
    simp [was]

namespace Snapshot

theorem Spawned.same (spawned : snapshot.Spawned worker) (phases : next.phases = snapshot.phases)
    (consumer : snapshot.consumer ≠ .unborn → next.consumer ≠ .unborn) : next.Spawned worker := by
  rw [Spawned, phases]
  exact spawned.imp_right fun last => ⟨last.1, consumer last.2⟩

theorem Spawned.set {index : Nat} {new : ProducerPhase ρ} (spawned : snapshot.Spawned worker)
    (alive : new ≠ .unborn) (phases : next.phases = snapshot.phases.set index new)
    (consumer : next.consumer = snapshot.consumer) : next.Spawned worker := by
  rw [Spawned, phases, consumer, List.length_set]
  refine spawned.imp_left ?_
  rintro ⟨phase, found, before⟩
  by_cases here : index = worker
  · subst here
    exact ⟨new, List.getElem?_set_self (List.getElem?_eq_some_iff.mp found).1, alive⟩
  · exact ⟨phase, (List.getElem?_set_ne here).trans found, before⟩

/-- Whoever moves, a worker that was spawned stays so. -/
theorem Spawned.move (spawned : snapshot.Spawned worker) (move : Move snapshot event next) :
    next.Spawned worker := by
  cases move with
  | queue move =>
    have frame := move.frame
    exact spawned.same frame.phases fun alive => frame.consumer ▸ alive
  | producer move =>
    obtain ⟨new, alive, phases⟩ := move.alive
    exact spawned.set alive phases move.frame.consumer
  | consumer move => exact spawned.same move.frame.phases fun _ => move.alive.2
  | caller move =>
    cases move with
    | spawnsProducer first new was inside born =>
      have alive : new ≠ .unborn := by
        rintro rfl
        contradiction
      exact spawned.set alive rfl rfl
    | spawnsHook | spawnsPull => exact spawned.same rfl fun _ => by simp
    | takesParts | receives | withdraws | proceeds => exact spawned.same rfl fun alive => alive
  | user mine move =>
    have frame := move.frame
    exact spawned.same frame.phases fun alive => frame.consumer ▸ alive
  | still others => exact spawned

/-- Whoever moves, a worker that has ended stays so. -/
theorem Ended.move (ended : snapshot.Ended worker) (started : snapshot.Started)
    (move : Move snapshot event next) : next.Ended worker := by
  have same : next.phases = snapshot.phases → next.consumer = snapshot.consumer →
      next.Ended worker := by
    intro phases consumer
    rw [Ended, phases, consumer]
    exact ended
  have set : ∀ (index : Nat) (old new : ProducerPhase ρ), snapshot.phases[index]? = some old →
      old ≠ .ended → next.phases = snapshot.phases.set index new →
      next.consumer = snapshot.consumer → next.Ended worker := by
    intro index old new was running phases consumer
    rw [Ended, phases, consumer, List.length_set]
    refine ended.imp_left fun found => ?_
    have other : index ≠ worker := by
      rintro rfl
      exact running (Option.some.inj (was.symm.trans found))
    exact (List.getElem?_set_ne other).trans found
  have consumerApart : next.phases = snapshot.phases → snapshot.consumer ≠ .ended →
      next.Ended worker := by
    intro phases running
    rw [Ended, phases]
    exact ended.imp_right fun last => absurd last.2 running
  cases move with
  | queue move => exact same move.frame.phases move.frame.consumer
  | producer move =>
    have frame := move.frame
    obtain ⟨old, new, was, -, running, phases⟩ := frame.phases
    exact set _ old new was running phases frame.consumer
  | consumer move => exact consumerApart move.frame.phases move.alive.1
  | caller move =>
    cases move with
    | spawnsProducer first new was inside born =>
      have unborn := (started.frontier _ (List.mem_of_getElem? was) first rfl).2 first
      obtain ⟨old, found⟩ : ∃ old, snapshot.phases[first]? = some old :=
        ⟨_, List.getElem?_eq_getElem inside⟩
      exact set first old new found (by simp [unborn old (Nat.le_refl _) found]) rfl rfl
    | spawnsHook first was last =>
      have unborn := (started.frontier _ (List.mem_of_getElem? was) first rfl).1
      exact consumerApart rfl (by simp [unborn])
    | spawnsPull first was last free =>
      have unborn := (started.frontier _ (List.mem_of_getElem? was) first rfl).1
      exact consumerApart rfl (by simp [unborn])
    | takesParts | receives | withdraws | proceeds => exact same rfl rfl
  | user mine move => exact same move.frame.phases move.frame.consumer
  | still others => exact ended

end Snapshot

/-- Only a call that executes and has come to a worker spawns it. -/
theorem Move.spawned_before (move : Move snapshot event next)
    (spawned : next.Spawned worker) : snapshot.Spawned worker ∨
      ∃ call act first, event = .executing call act ∧
        snapshot.executes[call]? = some (.spawning first) := by
  have same : next.phases = snapshot.phases →
      (next.consumer ≠ .unborn → snapshot.consumer ≠ .unborn) → snapshot.Spawned worker := by
    intro phases consumer
    exact spawned.same phases.symm consumer
  cases move with
  | queue move =>
    have frame := move.frame
    exact .inl (same frame.phases fun alive => frame.consumer ▸ alive)
  | producer move =>
    have frame := move.frame
    rename_i index act
    obtain ⟨old, new, was, alive, -, phases⟩ := frame.phases
    have back : snapshot.phases = next.phases.set index old := by
      rw [phases, List.set_set]
      exact (set_eq_self was).symm
    exact .inl (spawned.set alive back frame.consumer.symm)
  | consumer move => exact .inl (same move.frame.phases fun _ => move.frame.alive)
  | caller move =>
    cases move with
    | spawnsProducer first new was inside born => exact .inr ⟨_, _, first, rfl, was⟩
    | spawnsHook first was last => exact .inr ⟨_, _, first, rfl, was⟩
    | spawnsPull first was last free => exact .inr ⟨_, _, first, rfl, was⟩
    | takesParts | receives | withdraws | proceeds => exact .inl (same rfl fun alive => alive)
  | user mine move =>
    have frame := move.frame
    exact .inl (same frame.phases fun alive => frame.consumer ▸ alive)
  | still others => exact .inl spawned

/-! ### What an executor tells about its workers -/

namespace Executor

variable {executor next : Executor ρ α β}

theorem isSpawned_iff : executor.isSpawned worker = true ↔ executor.snapshot.Spawned worker := by
  rw [Snapshot.Spawned, length_phases]
  unfold isSpawned
  cases found : executor.producers[worker]? with
  | some producer =>
    have inside : worker ≠ executor.consumerIndex := by
      have short := (List.getElem?_eq_some_iff.mp found).1
      exact Nat.ne_of_lt short
    rw [phases_getElem? found]
    dsimp only
    split
    · rename_i unborn
      simp [unborn, inside]
    · rename_i alive
      simp [inside]
      exact alive
  | none =>
    have outside : executor.snapshot.phases[worker]? = none := by
      simpa [snapshot] using found
    rw [outside]
    cases phase : executor.consumer.phase <;> simp [snapshot, phase]

theorem hasEnded_iff : executor.hasEnded worker = true ↔ executor.snapshot.Ended worker := by
  rw [Snapshot.Ended, length_phases]
  unfold hasEnded
  cases found : executor.producers[worker]? with
  | some producer =>
    have inside : worker ≠ executor.consumerIndex := by
      have short := (List.getElem?_eq_some_iff.mp found).1
      exact Nat.ne_of_lt short
    rw [phases_getElem? found]
    dsimp only
    split
    · rename_i ended
      simp [ended]
    · rename_i running
      simp [inside]
      exact running
  | none =>
    have outside : executor.snapshot.phases[worker]? = none := by
      simpa [snapshot] using found
    rw [outside]
    cases phase : executor.consumer.phase <;> simp [snapshot, phase]

theorem mem_workers : worker ∈ executor.workers ↔ worker ≤ executor.snapshot.phases.length := by
  rw [workers, List.mem_range, length_phases]
  exact Nat.lt_succ_iff

/-- A call that spawns has spawned the worker it had come to. -/
theorem spawned_of_spawn {first : Nat} (spawned : executor.spawn first = some next)
    (inside : first ≤ executor.consumerIndex) : next.snapshot.Spawned first := by
  unfold spawn at spawned
  split at spawned
  · rename_i producer
    cases spawned
    rw [snapshot_setProducerPhase]
    left
    refine ⟨_, List.getElem?_set_self (by rwa [length_phases]), ?_⟩
    split <;> simp
  · have last : first = executor.consumerIndex := by omega
    right
    split at spawned
    · cases spawned
      rw [snapshot_setConsumerPhase]
      exact ⟨by rw [last, length_phases], by simp⟩
    · obtain ⟨-, same⟩ := snapshot_beginPull spawned
      rw [same]
      exact ⟨last.trans length_phases.symm, by simp⟩

/-- What a call does that has come to a worker which can have its name and is not refused. -/
theorem spawn_of_step {call first : Nat}
    (stepped : executor.step (.executing call .proceed) = some next)
    (was : executor.executes[call]? = some (.spawning first))
    (named : threadNamePanic? (executor.workerName first) = none)
    (willing : executor.refuses first = none) :
    ∃ middle, executor.spawn first = some middle ∧ next = middle.setExecute call
      (if first < executor.consumerIndex then .spawning (first + 1) else .waiting) := by
  simp only [step, stepExecute, was, named, willing] at stepped
  obtain ⟨middle, spawned, rfl⟩ := Option.map_eq_some_iff.mp stepped
  exact ⟨middle, spawned, rfl⟩

/-- After that step the worker is there. -/
theorem spawned_of_step {call first : Nat}
    (stepped : executor.step (.executing call .proceed) = some next)
    (was : executor.executes[call]? = some (.spawning first))
    (named : threadNamePanic? (executor.workerName first) = none)
    (willing : executor.refuses first = none) (inside : first ≤ executor.consumerIndex) :
    next.snapshot.Spawned first := by
  obtain ⟨middle, spawned, rfl⟩ := spawn_of_step stepped was named willing
  have born := spawned_of_spawn spawned inside
  exact born.same rfl fun alive => alive

/-- Whatever worker the call has come to, somebody is there after that step. -/
theorem somebody_of_step {call first : Nat}
    (stepped : executor.step (.executing call .proceed) = some next)
    (was : executor.executes[call]? = some (.spawning first))
    (named : threadNamePanic? (executor.workerName first) = none)
    (willing : executor.refuses first = none) : ∃ worker, next.snapshot.Spawned worker := by
  rcases Nat.le_total first executor.consumerIndex with inside | past
  · exact ⟨first, spawned_of_step stepped was named willing inside⟩
  · obtain ⟨middle, spawned, rfl⟩ := spawn_of_step stepped was named willing
    have same : executor.spawn first = executor.spawn executor.consumerIndex := by
      rw [spawn, if_neg (Nat.not_lt.mpr past), spawn, if_neg (Nat.lt_irrefl _)]
    have born := spawned_of_spawn (same.symm.trans spawned) (Nat.le_refl _)
    exact ⟨_, born.same rfl fun alive => alive⟩

/-- Whoever was not spawned before a step is spawned in it by a call that has come to a worker
that can have its name and is not refused. -/
theorem spawned_before {event : Event ρ α β} (stepped : executor.step event = some next)
    (spawned : next.snapshot.Spawned worker) : executor.snapshot.Spawned worker ∨
      ∃ call first, event = .executing call .proceed ∧
        executor.executes[call]? = some (.spawning first) ∧
        threadNamePanic? (executor.workerName first) = none ∧
        executor.refuses first = none := by
  rcases (move_of_step stepped).spawned_before spawned with before | ⟨call, act, first, rfl, was⟩
  · exact .inl before
  have found : executor.executes[call]? = some (.spawning first) := was
  simp only [step, stepExecute, found] at stepped
  split at stepped
  case h_6 same =>
    cases same
    split at stepped
    · rename_i panic unnamed
      cases stepped
      exact .inl spawned
    · rename_i named
      split at stepped
      · cases stepped
        exact .inl spawned
      · rename_i willing
        exact .inr ⟨call, first, rfl, found, named, willing⟩
  all_goals simp_all

end Executor

end BoundedIngest

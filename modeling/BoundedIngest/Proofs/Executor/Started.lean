/-
Module: BoundedIngest.Proofs.Executor.Started
Purpose: Every worker is spawned at most once, whoever executes and how often.
Main exports:
  Snapshot.Unborn, Snapshot.Started, Reached.started
-/
import BoundedIngest.Proofs.Executor.Chronicle

namespace BoundedIngest

/-!
The parts of an executor are taken once.  Only the call that took them spawns workers, one
after the other, so the workers it has not come to yet are unborn.
-/

variable {ρ α β : Type}

/-- The call has the parts, or is spawning. -/
def ExecutePhase.isStarting (phase : ExecutePhase β) : Bool := phase.frontier?.isSome

namespace Snapshot

/-- The consumer and the producers from a position on are unborn. -/
def Unborn (snapshot : Snapshot ρ α β) (first : Nat) : Prop :=
  snapshot.consumer = .unborn ∧
    ∀ index phase, first ≤ index → snapshot.phases[index]? = some phase → phase = .unborn

structure Started (snapshot : Snapshot ρ α β) : Prop where
  single : snapshot.executes.countP ExecutePhase.isStarting + snapshot.hasParts.toNat ≤ 1
  fresh : snapshot.hasParts = true → snapshot.Unborn 0
  frontier : ∀ phase ∈ snapshot.executes, ∀ worker, phase.frontier? = some worker →
    snapshot.Unborn worker

variable {snapshot next : Snapshot ρ α β}

theorem Unborn.setPhase {first index : Nat} {old new : ProducerPhase ρ}
    (unborn : snapshot.Unborn first) (was : snapshot.phases[index]? = some old)
    (alive : old ≠ .unborn) : (snapshot.setPhase index new).Unborn first := by
  refine ⟨unborn.1, fun position phase later found => ?_⟩
  have other : index ≠ position := by
    rintro rfl
    exact alive (unborn.2 index old later was)
  rw [Snapshot.setPhase, List.getElem?_set_ne other] at found
  exact unborn.2 position phase later found

namespace Started

/-- A step that leaves the calls that execute alone and gives birth to nobody. -/
theorem of_same (started : snapshot.Started) (executes : next.executes = snapshot.executes)
    (hasParts : next.hasParts = snapshot.hasParts)
    (unborn : ∀ first, snapshot.Unborn first → next.Unborn first) : next.Started := by
  constructor
  · rw [executes, hasParts]
    exact started.single
  · rw [hasParts]
    exact fun has => unborn 0 (started.fresh has)
  · rw [executes]
    exact fun phase found worker frontier => unborn worker (started.frontier phase found worker
      frontier)

/-- A call that spawns is the only one, and the parts are gone. -/
theorem alone {call worker : Nat} {old new other : ExecutePhase β} (started : snapshot.Started)
    (was : snapshot.executes[call]? = some old) (starting : old.frontier? = some worker)
    (found : other ∈ snapshot.executes.set call new) :
    snapshot.hasParts = false ∧ (other = new ∨ other.frontier? = none) := by
  have passes : old.isStarting = true := by simp [ExecutePhase.isStarting, starting]
  have counted : 0 < snapshot.executes.countP ExecutePhase.isStarting :=
    List.countP_pos_iff.mpr ⟨old, List.mem_of_getElem? was, passes⟩
  have single := started.single
  constructor
  · cases parts : snapshot.hasParts with
    | false => rfl
    | true =>
      rw [parts, Bool.toNat_true] at single
      omega
  · obtain ⟨position, found⟩ := List.mem_iff_getElem?.mp found
    by_cases here : call = position
    · subst here
      rw [List.getElem?_set_self (List.getElem?_eq_some_iff.mp was).1] at found
      exact .inl (Option.some.inj found).symm
    · rw [List.getElem?_set_ne here] at found
      cases frontier : other.frontier? with
      | none => exact .inr rfl
      | some later =>
        have otherPasses : other.isStarting = true := by
          simp [ExecutePhase.isStarting, frontier]
        have twice := two_le_countP here was passes found otherPasses
        omega

/-- A call that executes gets no further than it might before. -/
theorem setExecute {call : Nat} {old new : ExecutePhase β} (started : snapshot.Started)
    (was : snapshot.executes[call]? = some old)
    (turn : ∀ worker, new.frontier? = some worker → old.frontier? = some worker) :
    (snapshot.setExecute call new).Started := by
  constructor
  · have counted := countP_set_add ExecutePhase.isStarting new was
    have fewer : new.isStarting.toNat ≤ old.isStarting.toNat := by
      unfold ExecutePhase.isStarting
      cases frontier : new.frontier? with
      | none => simp
      | some worker =>
        exact Nat.le_of_eq (by rw [turn worker frontier])
    have single := started.single
    dsimp only [Snapshot.setExecute]
    omega
  · exact started.fresh
  · intro phase found worker frontier
    rcases List.mem_or_eq_of_mem_set found with found | rfl
    · exact started.frontier phase found worker frontier
    · exact started.frontier old (List.mem_of_getElem? was) worker (turn worker frontier)

/-- The call that takes the parts may spawn from now on. -/
theorem takesParts {call : Nat} (started : snapshot.Started)
    (was : snapshot.executes[call]? = some .takingParts) :
    { snapshot.setExecute call (.takingSender snapshot.hasParts) with
      hasParts := false }.Started := by
  constructor
  · have counted :=
      countP_set_add ExecutePhase.isStarting (.takingSender snapshot.hasParts) was
    have single := started.single
    have moved : (ExecutePhase.takingSender snapshot.hasParts : ExecutePhase β).isStarting =
        snapshot.hasParts := by
      cases snapshot.hasParts <;> rfl
    rw [moved] at counted
    dsimp only [Snapshot.setExecute]
    rw [Bool.toNat_false]
    omega
  · intro has
    contradiction
  · intro phase found worker frontier
    rcases List.mem_or_eq_of_mem_set found with found | rfl
    · exact started.frontier phase found worker frontier
    · simp only [ExecutePhase.frontier?] at frontier
      split at frontier
      · rename_i has
        cases frontier
        exact started.fresh has
      · contradiction

/-- The call that spawns has come to the next worker. -/
theorem spawnsProducer {call worker : Nat} {new : ProducerPhase ρ} (started : snapshot.Started)
    (was : snapshot.executes[call]? = some (.spawning worker)) :
    ((snapshot.setPhase worker new).setExecute call (.spawning (worker + 1))).Started := by
  have unborn : snapshot.Unborn worker :=
    started.frontier _ (List.mem_of_getElem? was) worker rfl
  constructor
  · have counted := countP_set_add ExecutePhase.isStarting (.spawning (worker + 1)) was
    have single := started.single
    have same : (ExecutePhase.spawning (worker + 1) : ExecutePhase β).isStarting =
        (ExecutePhase.spawning worker : ExecutePhase β).isStarting := rfl
    rw [same] at counted
    dsimp only [Snapshot.setExecute, Snapshot.setPhase]
    omega
  · intro has
    have gone := (started.alone was rfl (List.mem_set (List.getElem?_eq_some_iff.mp was).1
      (.spawning (worker + 1)))).1
    rw [Snapshot.setExecute, Snapshot.setPhase, gone] at has
    contradiction
  · intro phase found first frontier
    rcases (started.alone was rfl found).2 with rfl | nothing
    · cases frontier
      refine ⟨unborn.1, fun position phase later found => ?_⟩
      have other : worker ≠ position := by omega
      rw [Snapshot.setExecute, Snapshot.setPhase, List.getElem?_set_ne other] at found
      exact unborn.2 position phase (by omega) found
    · rw [nothing] at frontier
      contradiction

/-- The call that has spawned everybody waits, and nobody may spawn any more. -/
theorem spawnsConsumer {call worker : Nat} (started : snapshot.Started)
    (was : snapshot.executes[call]? = some (.spawning worker))
    (executes : next.executes = snapshot.executes.set call .waiting)
    (hasParts : next.hasParts = snapshot.hasParts) : next.Started := by
  have gone := (started.alone was rfl (List.mem_set (List.getElem?_eq_some_iff.mp was).1
    .waiting)).1
  constructor
  · have counted := countP_set_add ExecutePhase.isStarting .waiting was
    have single := started.single
    have none : (ExecutePhase.waiting : ExecutePhase β).isStarting = false := rfl
    rw [none, Bool.toNat_false] at counted
    rw [executes, hasParts]
    omega
  · intro has
    rw [hasParts, gone] at has
    contradiction
  · intro phase found first frontier
    rw [executes] at found
    rcases (started.alone was rfl found).2 with rfl | nothing
    · contradiction
    · rw [nothing] at frontier
      contradiction

theorem caller {call : Nat} (started : snapshot.Started)
    (move : CallerMove snapshot call next) : next.Started := by
  cases move with
  | takesParts was => exact started.takesParts was
  | spawnsProducer worker new was inside born => exact started.spawnsProducer was
  | spawnsHook worker was last => exact started.spawnsConsumer was rfl rfl
  | spawnsPull worker was last free => exact started.spawnsConsumer was rfl rfl
  | receives message rest was front =>
    have moved : (snapshot.setExecute call (.judging (some message))).Started :=
      started.setExecute was (by simp [ExecutePhase.frontier?])
    exact moved.of_same rfl rfl fun _ unborn => unborn
  | withdraws reason was =>
    have moved :
        (snapshot.setExecute call (.withdrawing snapshot.shutdowns.length reason)).Started :=
      started.setExecute was (by simp [ExecutePhase.frontier?])
    exact moved.of_same rfl rfl fun _ unborn => unborn
  | proceeds old new was turn => exact started.setExecute was turn.frontier

theorem move {event : Executor.Event ρ α β} (started : snapshot.Started)
    (move : Move snapshot event next) : next.Started := by
  cases move with
  | queue move =>
    have frame := move.frame
    refine started.of_same frame.executes frame.hasParts fun first unborn => ?_
    rw [Unborn, frame.consumer, frame.phases]
    exact unborn
  | producer move =>
    have frame := move.frame
    obtain ⟨old, new, was, alive, -, phases⟩ := frame.phases
    refine started.of_same frame.executes frame.hasParts fun first unborn => ?_
    have moved : (snapshot.setPhase _ new).Unborn first := unborn.setPhase was alive
    rw [Unborn, frame.consumer, phases]
    exact moved
  | consumer move =>
    have frame := move.frame
    exact started.of_same frame.executes frame.hasParts fun first unborn =>
      absurd unborn.1 frame.alive
  | caller move => exact started.caller move
  | user mine move =>
    have frame := move.frame
    have unborn : ∀ first, snapshot.Unborn first → next.Unborn first := by
      intro first unborn
      rw [Unborn, frame.consumer, frame.phases]
      exact unborn
    rcases frame.executes with same | added
    · exact started.of_same same frame.hasParts unborn
    · constructor
      · rw [added, frame.hasParts, List.countP_append]
        exact started.single
      · rw [frame.hasParts]
        exact fun has => unborn 0 (started.fresh has)
      · rw [added]
        intro phase found worker frontier
        rcases List.mem_append.mp found with found | found
        · exact unborn worker (started.frontier phase found worker frontier)
        · cases List.mem_singleton.mp found
          contradiction
  | still others => exact started

end Started

theorem started_start (producers : Nat) : (start producers : Snapshot ρ α β).Started := by
  constructor
  · exact Nat.le_refl 1
  · intro _
    refine ⟨rfl, fun index phase _ found => ?_⟩
    exact (List.mem_replicate.mp (List.mem_of_getElem? found)).2
  · intro phase found
    contradiction

end Snapshot

theorem Reached.started {producers : Nat} {snapshot : Snapshot ρ α β}
    {history : History ρ α β} (reached : Reached producers snapshot history) :
    snapshot.Started := by
  induction reached with
  | start => exact Snapshot.started_start producers
  | move _ move ih => exact ih.move move

end BoundedIngest

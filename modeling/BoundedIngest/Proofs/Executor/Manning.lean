/-
Module: BoundedIngest.Proofs.Executor.Manning
Purpose: Only one call spawns the workers, and it spawns all of them.
Main exports:
  Manned, Manned.step, Executor.Mans, Opening.single_start, Opening.parts_lost
-/
import BoundedIngest.Proofs.Executor.Crew
import BoundedIngest.Proofs.Executor.Opening
import BoundedIngest.Proofs.Executor.Standstill

namespace BoundedIngest

/-!
A call that has got everything spawns the workers one after the other.  It can be hindered only
by their names: the same prefix goes into all of them, so either all can be spawned or none.
-/

variable {ρ α β : Type}

/-- The call has ended. -/
def ExecutePhase.hasEnded : ExecutePhase β → Bool
  | .returned _ | .panicked _ => true
  | _ => false

/-- Somebody was spawned only by a call that has got everything, and a call that is past
spawning has spawned everybody. -/
structure Manned (config : ExecutorConfig) (executor : Executor ρ α β) : Prop where
  willing : executor.Willing
  settings : executor.config = config
  spawning : ∀ worker, .spawning worker ∈ executor.executes → worker ≤ executor.consumerIndex ∧
    ∀ first < worker, executor.snapshot.Spawned first
  manned : ∀ phase ∈ executor.executes, phase.hasStarted = true → phase.isManned = true →
    ∀ worker ≤ executor.consumerIndex, executor.snapshot.Spawned worker
  blank : (∀ phase ∈ executor.executes, phase.hasStarted = false) →
    ∀ worker, ¬ executor.snapshot.Spawned worker
  named : config.HasNul → ∀ worker, ¬ executor.snapshot.Spawned worker
  unnamed : ∀ panic, .panicked panic ∈ executor.executes → config.HasNul

namespace Manned

variable {config : ExecutorConfig} {executor next : Executor ρ α β} {office : Office β}
  {event : Executor.Event ρ α β} {call : Nat} {old new : ExecutePhase β}

/-- Nobody is spawned under a name that no thread can have. -/
theorem named_of_step (manned : Manned config executor)
    (stepped : executor.step event = some next) (unnamed : config.HasNul) (worker : Nat) :
    ¬ next.snapshot.Spawned worker := by
  intro spawned
  rcases Executor.spawned_before stepped spawned with before | ⟨call, first, -, -, named, -⟩
  · exact manned.named unnamed worker before
  · rw [Executor.named_iff, manned.settings] at named
    exact named unnamed

/-- A call that executes goes on. -/
theorem exchange (manned : Manned config executor) (stepped : executor.step event = some next)
    (settings : next.config = executor.config)
    (was : executor.executes[call]? = some old)
    (executes : next.executes = executor.executes.set call new)
    (started : old.hasStarted = true → new.hasStarted = true)
    (spawning : ∀ worker, new = .spawning worker → worker ≤ executor.consumerIndex ∧
      ∀ first < worker, next.snapshot.Spawned first)
    (past : new.hasStarted = true → new.isManned = true →
      ∀ worker ≤ executor.consumerIndex, next.snapshot.Spawned worker)
    (unnamed : ∀ panic, new = .panicked panic → config.HasNul) : Manned config next := by
  have move := Executor.move_of_step stepped
  have index := Executor.consumerIndex_of_step stepped
  refine ⟨manned.willing.step stepped, settings.trans manned.settings, ?_, ?_, ?_,
    manned.named_of_step stepped, ?_⟩
  · intro worker found
    rw [index]
    rw [executes] at found
    rcases List.mem_or_eq_of_mem_set found with before | same
    · obtain ⟨inside, spawned⟩ := manned.spawning worker before
      exact ⟨inside, fun first earlier => (spawned first earlier).move move⟩
    · exact spawning worker same.symm
  · intro phase found got later worker inside
    rw [index] at inside
    rw [executes] at found
    rcases List.mem_or_eq_of_mem_set found with before | rfl
    · exact (manned.manned phase before got later worker inside).move move
    · exact past got later worker inside
  · intro nobody worker spawned
    -- whoever had started before the step has started after it
    have nobodyBefore : ∀ phase ∈ executor.executes, phase.hasStarted = false := by
      intro phase found
      by_contra got
      rw [Bool.not_eq_false] at got
      by_cases same : phase = old
      · subst same
        have mine := nobody new
          (executes ▸ List.mem_set (List.getElem?_eq_some_iff.mp was).1 new)
        rw [started got] at mine
        contradiction
      · have still := nobody phase (executes ▸ mem_set_of_ne found was (Ne.symm same))
        rw [got] at still
        contradiction
    rcases Executor.spawned_before stepped spawned with before | ⟨other, first, -, here, -⟩
    · exact manned.blank nobodyBefore worker before
    · have waits := nobodyBefore _ (List.mem_of_getElem? here)
      contradiction
  · intro panic found
    rw [executes] at found
    rcases List.mem_or_eq_of_mem_set found with before | same
    · exact manned.unnamed panic before
    · exact unnamed panic same.symm

/-- Nobody who executes does anything, but that a call may begin. -/
theorem same (manned : Manned config executor) (stepped : executor.step event = some next)
    (settings : next.config = executor.config)
    (others : ∀ call act, event ≠ .executing call act)
    (executes : ∀ phase ∈ next.executes, phase ∈ executor.executes ∨ phase = .entering)
    (kept : ∀ phase ∈ executor.executes, phase ∈ next.executes) : Manned config next := by
  have move := Executor.move_of_step stepped
  have index := Executor.consumerIndex_of_step stepped
  refine ⟨manned.willing.step stepped, settings.trans manned.settings, ?_, ?_, ?_,
    manned.named_of_step stepped, ?_⟩
  · intro worker found
    rw [index]
    obtain ⟨inside, spawned⟩ := manned.spawning worker ((executes _ found).resolve_right (by simp))
    exact ⟨inside, fun first earlier => (spawned first earlier).move move⟩
  · intro phase found got later worker inside
    rw [index] at inside
    rcases executes phase found with before | rfl
    · exact (manned.manned phase before got later worker inside).move move
    · contradiction
  · intro nobody worker spawned
    rcases Executor.spawned_before stepped spawned with before | ⟨call, first, mine, -, -⟩
    · exact manned.blank (fun phase found => nobody phase (kept phase found)) worker before
    · exact others _ _ mine
  · intro panic found
    exact manned.unnamed panic ((executes _ found).resolve_right (by simp))

/-- A call that has spawned everybody goes on. -/
theorem goesOn (manned : Manned config executor) (stepped : executor.step event = some next)
    (settings : next.config = executor.config) (was : executor.executes[call]? = some old)
    (executes : next.executes = executor.executes.set call new)
    (before : old.hasStarted = true) (past : old.isManned = true) (started : new.hasStarted = true)
    (later : new.isManned = true) : Manned config next := by
  have all := manned.manned old (List.mem_of_getElem? was) before past
  refine manned.exchange stepped settings was executes (fun _ => started) ?_ ?_ ?_
  · rintro worker rfl
    contradiction
  · exact fun _ _ worker inside => (all worker inside).move (Executor.move_of_step stepped)
  · rintro panic rfl
    contradiction

/-- A call that has come to a worker spawns it. -/
theorem spawns {worker : Nat} (manned : Manned config executor)
    (stepped : executor.step (.executing call .proceed) = some next)
    (settings : next.config = executor.config)
    (was : executor.executes[call]? = some (.spawning worker))
    (named : threadNamePanic? (executor.workerName worker) = none)
    (executes : next.executes = executor.executes.set call
      (if worker < executor.consumerIndex then .spawning (worker + 1) else .waiting)) :
    Manned config next := by
  obtain ⟨inside, before⟩ := manned.spawning worker (List.mem_of_getElem? was)
  have born := Executor.spawned_of_step stepped was named (manned.willing.starts worker) inside
  have everybody : ∀ first ≤ worker, next.snapshot.Spawned first := by
    intro first upTo
    rcases Nat.lt_or_eq_of_le upTo with earlier | rfl
    · exact (before first earlier).move (Executor.move_of_step stepped)
    · exact born
  refine manned.exchange stepped settings was executes ?_ ?_ ?_ ?_
  · intro _
    split <;> rfl
  · intro later same
    split at same
    · rename_i further
      cases same
      exact ⟨further, fun first earlier => everybody first (Nat.le_of_lt_succ earlier)⟩
    · contradiction
  · intro _ past
    split at past
    · contradiction
    · rename_i last
      have same : worker = executor.consumerIndex := by omega
      exact fun first upTo => everybody first (same ▸ upTo)
  · intro panic same
    split at same <;> contradiction

/-- Every step keeps it, as long as nobody who executes finds its flag raised. -/
theorem step {takers : Takers} (manned : Manned config executor)
    (opened : Opened executor.office takers) (stepped : executor.step event = some next)
    (lowered : ∀ call, event ≠ .executing call (.readFlag true)) : Manned config next := by
  have move := Executor.officeMove_of_step stepped
  have settings : next.config = executor.config := move.config
  generalize seen : next.office = office at move
  have executes : next.executes = office.executes := congrArg Office.executes seen
  have same : (∀ call act, event ≠ .executing call act) → next.executes = executor.executes →
      Manned config next := by
    intro others same
    refine manned.same stepped settings others ?_ ?_
    · exact fun phase found => .inl (same ▸ found)
    · exact fun phase found => same ▸ found
  cases move with
  | still others => exact same others executes
  | executes =>
    refine manned.same stepped settings (by simp) ?_ ?_
    · intro phase found
      rw [executes] at found
      exact (List.mem_append.mp found).imp_right List.mem_singleton.mp
    · intro phase found
      rw [executes]
      exact List.mem_append_left _ found
  | aborts was => exact absurd rfl (lowered _)
  | enters was | takesParts was | takesSender hasParts was =>
    refine manned.exchange stepped settings was executes ?_ ?_ ?_ ?_ <;>
      simp [ExecutePhase.hasStarted]
  | takesReceiver hasParts hasSender was =>
    refine manned.exchange stepped settings was executes ?_ ?_ ?_ ?_
    · intro started
      contradiction
    · intro worker same
      split at same <;> contradiction
    · intro started past
      split at started
      · rename_i complete
        rw [if_pos complete] at past
        contradiction
      · contradiction
    · intro panic same
      split at same <;> contradiction
  | starts was =>
    refine manned.exchange stepped settings was executes (fun _ => rfl) ?_ ?_ ?_
    · intro worker same
      cases same
      exact ⟨Nat.zero_le _, by simp⟩
    · intro _ past
      contradiction
    · intro panic same
      contradiction
  | strands worker panic was unnamed =>
    refine manned.exchange stepped settings was executes (fun _ => rfl) ?_ ?_ ?_
    · intro worker same
      contradiction
    · intro _ past
      contradiction
    · intro _ _
      by_contra named
      rw [← manned.settings, ← Executor.named_iff worker, unnamed] at named
      contradiction
  | retreats old new lifecycle was turn => exact (manned.willing.not_retreats was turn).elim
  | spawns worker was named willing =>
    exact manned.spawns stepped settings was named executes
  | serves old new was turn =>
    have started := opened.started_of_serves was turn
    exact manned.goesOn stepped settings was executes started (by cases turn <;> rfl)
      (ExecutePhase.hasStarted_of_serves turn started) (by cases turn <;> rfl)
  | settles outcome was =>
    have started := opened.started_of_past was rfl (by simp)
    exact manned.goesOn stepped settings was executes started rfl
      (ExecutePhase.hasStarted_of_settling started) rfl
  | cancels was | awaits | collects was free | joins worker rest total was ended
  | leaves total was => exact same (by simp) executes

end Manned

theorem manned_create (config : ExecutorConfig) (hooked : Bool) (kinds : List SourceKind) :
    Manned config (Executor.create config hooked kinds : Executor ρ α β) := by
  have nobody : ∀ worker, ¬ (Executor.create config hooked kinds :
      Executor ρ α β).snapshot.Spawned worker := by
    intro worker
    apply Snapshot.not_spawned_of_unborn
    rw [Executor.snapshot_create]
    exact (Snapshot.started_start _).fresh rfl
  refine ⟨Executor.willing_create config hooked kinds, rfl, ?_, ?_, fun _ => nobody,
    fun _ => nobody, ?_⟩
  · intro worker found
    contradiction
  · intro phase found
    contradiction
  · intro panic found
    contradiction

/-! ### The call that has got everything goes on -/

namespace Executor

/-- The call goes on, and when it has taken enough steps everybody is spawned. -/
def Mans (executor : Executor ρ α β) (call : Nat) : Prop :=
  ∃ rest later, (∀ event ∈ rest, event = .executing call .proceed) ∧
    executor.run rest = some later ∧ ∀ worker ∈ later.workers, later.isSpawned worker = true

variable {executor next : Executor ρ α β} {call : Nat}

theorem mans_of_spawned
    (everybody : ∀ worker ≤ executor.consumerIndex, executor.snapshot.Spawned worker) :
    executor.Mans call := by
  refine ⟨[], executor, by simp, rfl, fun worker found => ?_⟩
  exact isSpawned_iff.mpr (everybody worker (Nat.le_of_lt_succ (List.mem_range.mp found)))

theorem mans_of_step (stepped : executor.step (.executing call .proceed) = some next)
    (mans : next.Mans call) : executor.Mans call := by
  obtain ⟨rest, later, only, ran, everybody⟩ := mans
  refine ⟨.executing call .proceed :: rest, later, ?_, ?_, everybody⟩
  · intro event found
    rcases List.mem_cons.mp found with same | found
    · exact same
    · exact only event found
  · rw [run, stepped]
    exact ran

end Executor

namespace Manned

variable {config : ExecutorConfig} {executor next : Executor ρ α β} {call : Nat}

/-- A call that has come to a worker can spawn it and come to the next one. -/
theorem spawnsNext {producers worker : Nat} {history : History ρ α β}
    (manned : Manned config executor) (reached : Reached producers executor.snapshot history)
    (named : ¬ config.HasNul) (was : executor.executes[call]? = some (.spawning worker)) :
    ∃ next, executor.step (.executing call .proceed) = some next ∧ Manned config next ∧
      next.consumerIndex = executor.consumerIndex ∧
      next.executes[call]? =
        some (if worker < executor.consumerIndex then .spawning (worker + 1) else .waiting) := by
  have possible : (executor.step (.executing call .proceed)).isSome = true :=
    Executor.spawns reached was
  obtain ⟨next, stepped⟩ := Option.isSome_iff_exists.mp possible
  have free : threadNamePanic? (executor.workerName worker) = none := by
    rw [Executor.named_iff, manned.settings]
    exact named
  obtain ⟨middle, spawned, rfl⟩ :=
    Executor.spawn_of_step stepped was free (manned.willing.starts worker)
  have same := Executor.office_spawn spawned
  have executes : middle.executes = executor.executes := congrArg Office.executes same
  have settings : middle.config = executor.config := congrArg Office.config same
  refine ⟨_, stepped, manned.spawns stepped settings was free ?_,
    Executor.consumerIndex_of_step stepped, ?_⟩
  · rw [← executes]
    rfl
  · have inside := (List.getElem?_eq_some_iff.mp was).1
    rw [← executes] at inside
    exact List.getElem?_set_self inside

/-- A call that spawns comes to the end, by induction on the workers left. -/
theorem mans_of_spawning {producers worker left : Nat} {history : History ρ α β}
    (manned : Manned config executor) (reached : Reached producers executor.snapshot history)
    (named : ¬ config.HasNul) (was : executor.executes[call]? = some (.spawning worker))
    (upTo : worker + left = executor.consumerIndex) : executor.Mans call := by
  induction left generalizing executor worker history with
  | zero =>
    obtain ⟨next, stepped, manned, index, phase⟩ := manned.spawnsNext reached named was
    rw [if_neg (by omega)] at phase
    have everybody := manned.manned .waiting (List.mem_of_getElem? phase) rfl rfl
    exact Executor.mans_of_step stepped (Executor.mans_of_spawned everybody)
  | succ left ih =>
    obtain ⟨next, stepped, manned, index, phase⟩ := manned.spawnsNext reached named was
    rw [if_pos (by omega)] at phase
    have reached := Reached.move reached (Executor.move_of_step stepped)
    exact Executor.mans_of_step stepped (ih manned reached phase (by omega))

/-- Whatever a call does that has got everything, if threads can have their names it comes to
where everybody is spawned. -/
theorem mans {takers : Takers} {producers : Nat} {history : History ρ α β} {phase : ExecutePhase β}
    (manned : Manned config executor) (opened : Opened executor.office takers)
    (reached : Reached producers executor.snapshot history) (named : ¬ config.HasNul)
    (found : executor.executes[call]? = some phase) (started : phase.hasStarted = true) :
    executor.Mans call := by
  have member := List.mem_of_getElem? found
  by_cases past : phase.isManned = true
  · exact Executor.mans_of_spawned (manned.manned phase member started past)
  cases phase with
  | spawning worker =>
    obtain ⟨left, upTo⟩ := Nat.exists_eq_add_of_le (manned.spawning worker member).1
    exact manned.mans_of_spawning reached named found upTo.symm
  | starting =>
    have stepped : executor.step (.executing call .proceed) =
        some { executor.setExecute call (.spawning 0) with
          lifecycle := executor.lifecycle.settle .running } := by
      simp [Executor.step, Executor.stepExecute, found]
    have phase : (executor.setExecute call (.spawning 0)).executes[call]? =
        some (.spawning 0) :=
      List.getElem?_set_self (List.getElem?_eq_some_iff.mp found).1
    have later := manned.step opened stepped (by simp)
    exact Executor.mans_of_step stepped (later.mans_of_spawning
      (Reached.move reached (Executor.move_of_step stepped)) named phase (Nat.zero_add _))
  | panicked panic => exact absurd (manned.unnamed panic member) named
  | retreating | withdrawing =>
    have steady := manned.willing.steady _ member
    contradiction
  | entering | takingParts | takingSender | takingReceiver => contradiction
  | waiting | checkingFlag | checkingSlot | judging | settling | recording | returned =>
    exact absurd rfl past

end Manned

namespace Opening

variable {config : ExecutorConfig} {hooked : Bool} {kinds : List SourceKind}
  {opening final : Opening ρ α β} {events : List (Executor.Event ρ α β)}

theorem manned_of_run (ran : opening.run events = some final)
    (lowered : ∀ call, .executing call (.readFlag true) ∉ events)
    (opened : Opened opening.executor.office opening.takers)
    (manned : Manned config opening.executor) :
    Opened final.executor.office final.takers ∧ Manned config final.executor := by
  induction events generalizing opening with
  | nil =>
    cases ran
    exact ⟨opened, manned⟩
  | cons event rest ih =>
    obtain ⟨next, stepped, ran⟩ := Option.bind_eq_some_iff.mp ran
    obtain ⟨moved, takers⟩ := executor_of_step stepped
    have quiet : ∀ call, event ≠ .executing call (.readFlag true) := by
      rintro call rfl
      exact lowered call List.mem_cons_self
    have openedNext := opened.move (Executor.officeMove_of_step moved) quiet
    rw [← takers] at openedNext
    exact ih ran (fun call found => lowered call (List.mem_cons_of_mem _ found)) openedNext
      (manned.step opened moved quiet)

theorem reached_of_run (ran : (start config hooked kinds).run events = some final) :
    ∃ history, Reached kinds.length final.executor.snapshot history := by
  have same : (Chronicle.start config hooked kinds).executor.run events =
      some final.executor := by
    have noted := map_executor_run (start config hooked kinds : Opening ρ α β) events
    rw [ran] at noted
    exact noted.symm
  exact Executor.reached_of_run same

/-- Whoever calls and however the calls overlap, if no caller's flag is raised: every call comes
to know whether it got everything.  Once all of them know, either one call has emptied all cells,
all others were refused, and it spawns everybody or, under a name that no thread can have, nobody;
or the cells were emptied by different calls, all of them were refused, and nobody is spawned. -/
theorem single_start (ran : (start config hooked kinds).run events = some final)
    (lowered : ∀ call, .executing call (.readFlag true) ∉ events)
    (called : final.executor.executes ≠ []) :
    (∀ call phase, final.executor.executes[call]? = some phase →
      final.executor.Learns call phase.ahead) ∧
    ((∀ phase ∈ final.executor.executes, phase.isTaking = false) →
      (∃ call phase, final.takers = .one call ∧ final.executor.executes[call]? = some phase ∧
        phase.hasStarted = true ∧
        (∀ other phase, other ≠ call → final.executor.executes[other]? = some phase →
          phase = .returned (.error .alreadyStarted)) ∧
        (¬ config.HasNul → final.executor.Mans call) ∧
        (config.HasNul → phase.isManned = false ∧
          ∀ worker, final.executor.isSpawned worker = false)) ∨
      ((∀ call, final.takers ≠ .one call) ∧ final.executor.hasParts = false ∧
        (∀ phase ∈ final.executor.executes, phase = .returned (.error .alreadyStarted)) ∧
        ∀ worker, final.executor.isSpawned worker = false)) := by
  refine ⟨fun call phase found => Executor.learns found, fun known => ?_⟩
  obtain ⟨opened, manned⟩ := manned_of_run ran lowered (opened_create config hooked kinds)
    (manned_create config hooked kinds)
  obtain ⟨history, reached⟩ := reached_of_run ran
  have nobody : (∀ worker, ¬ final.executor.snapshot.Spawned worker) →
      ∀ worker, final.executor.isSpawned worker = false := by
    intro none worker
    rw [← Bool.not_eq_true, Executor.isSpawned_iff]
    exact none worker
  by_cases refused : ∀ phase ∈ final.executor.executes, phase.hasStarted = false
  · obtain ⟨different, parts, all⟩ := opened.scattered called known refused
    exact .inr ⟨different, parts, all, nobody (manned.blank refused)⟩
  · push Not at refused
    obtain ⟨phase, member, started⟩ := refused
    rw [ne_eq, Bool.not_eq_false] at started
    obtain ⟨call, found⟩ := List.mem_iff_getElem?.mp member
    obtain ⟨all, others⟩ := opened.alone known found started
    refine .inl ⟨call, phase, all, found, started, others, ?_, ?_⟩
    · exact fun named => manned.mans opened reached named found started
    · intro unnamed
      have none := manned.named unnamed
      refine ⟨?_, nobody none⟩
      by_contra past
      rw [Bool.not_eq_false] at past
      exact none 0 (manned.manned phase member started past 0 (Nat.zero_le _))

/-- Two calls that overlap; the first is ahead of the second at every cell. -/
def overlappingRun : List (Executor.Event Nat Nat Nat) :=
  [.execute, .execute, .executing 0 (.readFlag false), .executing 1 (.readFlag false),
    .executing 0 .proceed, .executing 1 .proceed, .executing 0 .proceed, .executing 1 .proceed,
    .executing 0 .proceed, .executing 1 .proceed]

/-- The second call overtakes the first between two cells. -/
def overtakingRun : List (Executor.Event Nat Nat Nat) :=
  [.execute, .execute, .executing 0 (.readFlag false), .executing 1 (.readFlag false),
    .executing 0 .proceed, .executing 1 .proceed, .executing 1 .proceed, .executing 0 .proceed,
    .executing 0 .proceed, .executing 1 .proceed]

/-- A call that gets as far as the name of the first worker, and a second one after it. -/
def namelessRun : List (Executor.Event Nat Nat Nat) :=
  [.execute, .executing 0 (.readFlag false), .executing 0 .proceed, .executing 0 .proceed,
    .executing 0 .proceed, .executing 0 .proceed, .executing 0 .proceed,
    .execute, .executing 1 (.readFlag false), .executing 1 .proceed, .executing 1 .proceed,
    .executing 1 .proceed]

/-- Has somebody called, and do all calls know their lot? -/
def isSettled (opening : Opening ρ α β) : Bool :=
  !opening.executor.executes.isEmpty && opening.executor.executes.all (!·.isTaking)

theorem settled_of_isSettled {opening : Opening ρ α β} (settled : opening.isSettled = true) :
    opening.executor.executes ≠ [] ∧
      ∀ phase ∈ opening.executor.executes, phase.isTaking = false := by
  simpa [isSettled] using settled

/-- The first of two overlapping calls has got everything, and it spawns everybody. -/
theorem single_start_inhabited :
    ∃ final : Opening Nat Nat Nat,
      (start {} false [.records]).run overlappingRun = some final ∧
        (∀ call, .executing call (.readFlag true) ∉ overlappingRun) ∧
        final.executor.executes ≠ [] ∧
        final.executor.executes[1]? = some (.returned (.error .alreadyStarted)) ∧
        final.executor.Mans 0 := by
  have settles : ((start {} false [.records]).run overlappingRun).map
      (fun final : Opening Nat Nat Nat => final.isSettled &&
        final.takers == .one 0 && final.executor.executes.length == 2) = some true := by
    decide +kernel
  obtain ⟨final, ran, facts⟩ := Option.map_eq_some_iff.mp settles
  rw [Bool.and_eq_true, Bool.and_eq_true] at facts
  obtain ⟨⟨settled, first⟩, both⟩ := facts
  obtain ⟨called, known⟩ := settled_of_isSettled settled
  have lowered : ∀ call, .executing call (.readFlag true) ∉ overlappingRun := by
    simp [overlappingRun]
  refine ⟨final, ran, lowered, called, ?_⟩
  rcases (single_start ran lowered called).2 known with
    ⟨call, phase, all, found, started, others, mans, -⟩ | ⟨different, -⟩
  · have same : call = 0 := by
      have parts := congrArg Takers.parts (all.symm.trans (beq_iff_eq.mp first))
      exact Option.some.inj parts
    subst same
    have inside : 1 < final.executor.executes.length := by
      rw [beq_iff_eq.mp both]
      decide
    have second := List.getElem?_eq_getElem inside
    rw [others 1 _ (by decide) second] at second
    exact ⟨second, mans (by decide)⟩
  · exact absurd (beq_iff_eq.mp first) (different 0)

/-- If every call has ended, nobody is spawned any more. -/
theorem not_mans {executor : Executor ρ α β} {call : Nat}
    (allEnded : ∀ phase ∈ executor.executes, phase.hasEnded = true)
    (unborn : executor.isSpawned 0 = false) : ¬ executor.Mans call := by
  rintro ⟨rest, later, only, ran, everybody⟩
  cases rest with
  | nil =>
    cases ran
    have spawned := everybody 0 (List.mem_range.mpr (Nat.succ_pos _))
    rw [unborn] at spawned
    contradiction
  | cons event rest =>
    obtain rfl := only event List.mem_cons_self
    obtain ⟨next, stepped, -⟩ := Option.bind_eq_some_iff.mp ran
    simp only [Executor.step, Executor.stepExecute] at stepped
    split at stepped
    · contradiction
    · rename_i phase found
      have ended := allEnded phase (List.mem_of_getElem? found)
      cases phase <;> contradiction

/-- Once all calls know their lot, the parts are still there or some call spawns everybody. -/
def KeepsParts (config : ExecutorConfig) : Prop :=
  ∀ (events : List (Executor.Event Nat Nat Nat)) (final : Opening Nat Nat Nat),
    (start config false [.records]).run events = some final →
    (∀ call, .executing call (.readFlag true) ∉ events) → final.executor.executes ≠ [] →
    (∀ phase ∈ final.executor.executes, phase.isTaking = false) →
    final.executor.hasParts = true ∨ ∃ call, final.executor.Mans call

theorem not_keepsParts {config : ExecutorConfig} {events : List (Executor.Event Nat Nat Nat)}
    (lowered : ∀ call, .executing call (.readFlag true) ∉ events)
    (ends : ((start config false [.records]).run events).map (fun final => final.isSettled &&
      final.executor.executes.all (·.hasEnded) && !final.executor.isSpawned 0 &&
      !final.executor.hasParts) = some true) : ¬ KeepsParts config := by
  intro keeps
  obtain ⟨final, ran, facts⟩ := Option.map_eq_some_iff.mp ends
  simp only [Bool.and_eq_true, Bool.not_eq_true', List.all_eq_true] at facts
  obtain ⟨⟨⟨settled, allEnded⟩, unborn⟩, gone⟩ := facts
  obtain ⟨called, known⟩ := settled_of_isSettled settled
  rcases keeps events final ran lowered called known with parts | ⟨call, mans⟩
  · rw [gone] at parts
    contradiction
  · exact not_mans allEnded unborn mans

/-- The parts may be lost: two calls that overtake each other are both refused, and a call that
cannot give the workers their names has taken the parts for nothing. -/
theorem parts_lost : ¬ KeepsParts {} ∧ ¬ KeepsParts { threadNamePrefix := "a\x00b" } := by
  constructor
  · apply @not_keepsParts _ overtakingRun
    · simp [overtakingRun]
    · decide +kernel
  · apply @not_keepsParts _ namelessRun
    · simp [namelessRun]
    · decide +kernel

end Opening

end BoundedIngest

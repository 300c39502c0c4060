/-
Module: BoundedIngest.Proofs.Executor.Staffing
Purpose: Once some worker is there, all of them are, or a call is about to spawn the next
  one.
Main exports:
  SpawnMove, spawnMove_of_officeMove, Executor.Staffed, Executor.staffed_of_run
-/
import BoundedIngest.Proofs.Executor.Lifetimes
import BoundedIngest.Proofs.Executor.Naming
import BoundedIngest.Proofs.Executor.Office

namespace BoundedIngest

/-!
A call that spawns cannot be stopped between two workers: it looks at no flag, and if it can
give the first worker its name it can do so with all of them.  This holds however often and
by whomever flags are raised.
-/

variable {ρ α β : Type} {executor next : Executor ρ α β} {event : Executor.Event ρ α β}
  {office : Office β} {call : Nat} {old new : ExecutePhase β}

/-! ### How calls come to workers -/

/-- What a step means for the calls that have come to a worker. -/
inductive SpawnMove (executor : Executor ρ α β) (event : Executor.Event ρ α β)
    (office : Office β) : Prop
  /-- They are where they were, but that a call may have come to the first worker. -/
  | aside (kept : ∀ worker, .spawning worker ∈ executor.executes →
        .spawning worker ∈ office.executes)
      (fresh : ∀ worker, .spawning worker ∈ office.executes →
        .spawning worker ∈ executor.executes ∨ worker = 0)
  /-- One of them cannot give the worker its name. -/
  | strands (worker : Nat)
      (unnamed : threadNamePanic? (executor.workerName worker) ≠ none)
      (fresh : ∀ worker, .spawning worker ∈ office.executes →
        .spawning worker ∈ executor.executes)
  /-- One of them spawns its worker. -/
  | spawns (call worker : Nat) (mine : event = .executing call .proceed)
      (was : executor.executes[call]? = some (.spawning worker))
      (named : threadNamePanic? (executor.workerName worker) = none)
      (willing : executor.refuses worker = none)
  /-- One of them is refused its worker, or was before. -/
  | retreats (call : Nat) (old new : ExecutePhase β) (lifecycle : Lifecycle)
      (was : executor.executes[call]? = some old) (turn : executor.Retreats old new lifecycle)

theorem spawnMove_of_same (executes : office.executes = executor.executes) :
    SpawnMove executor event office :=
  .aside (fun _ found => executes ▸ found) fun _ found => .inl (executes ▸ found)

/-- A call goes on that has not come to a worker, and comes at most to the first one. -/
theorem spawnMove_of_set (was : executor.executes[call]? = some old)
    (executes : office.executes = executor.executes.set call new)
    (apart : ∀ worker, old ≠ .spawning worker)
    (first : ∀ worker, new = .spawning worker → worker = 0) :
    SpawnMove executor event office := by
  constructor
  · intro worker found
    rw [executes]
    exact mem_set_of_ne found was (apart worker)
  · intro worker found
    rw [executes] at found
    rcases List.mem_or_eq_of_mem_set found with before | same
    · exact .inl before
    · exact .inr (first worker same.symm)

theorem spawnMove_of_officeMove (move : OfficeMove executor event office) :
    SpawnMove executor event office := by
  cases move with
  | still others => exact spawnMove_of_same rfl
  | executes =>
    refine .aside (fun worker found => List.mem_append_left _ found) fun worker found => ?_
    exact .inl ((List.mem_append.mp found).resolve_right (by simp))
  | aborts was | enters was | takesParts was | takesSender hasParts was =>
    exact spawnMove_of_set was rfl (by simp) (by simp)
  | takesReceiver hasParts hasSender was =>
    refine spawnMove_of_set was rfl (by simp) fun worker same => ?_
    split at same <;> contradiction
  | starts was =>
    refine spawnMove_of_set was rfl (by simp) fun worker same => ?_
    cases same
    rfl
  | strands worker panic was unnamed =>
    refine .strands worker (by simp [unnamed]) fun other found => ?_
    exact (List.mem_or_eq_of_mem_set found).resolve_right (by simp)
  | spawns worker was named willing => exact .spawns _ worker rfl was named willing
  | retreats old new lifecycle was turn => exact .retreats _ old new lifecycle was turn
  | serves old new was turn =>
    refine spawnMove_of_set was rfl (fun worker same => ?_) fun worker same => ?_
    · subst same
      cases turn
    · subst same
      cases turn
  | settles outcome was => exact spawnMove_of_set was rfl (by simp) (by simp)
  | cancels was | awaits | collects was free | joins worker rest total was ended
  | leaves total was => exact spawnMove_of_same rfl

/-! ### Everybody comes, or nobody -/

namespace Executor

/-- A call that has come to a worker has spawned those before, and as soon as somebody was
spawned, everybody was or a call has come to the next one. -/
structure Staffed (config : ExecutorConfig) (executor : Executor ρ α β) : Prop where
  willing : executor.Willing
  settings : executor.config = config
  spawning : ∀ worker, .spawning worker ∈ executor.executes →
    worker ≤ executor.consumerIndex ∧ ∀ first < worker, executor.snapshot.Spawned first
  named : config.HasNul → ∀ worker, ¬executor.snapshot.Spawned worker
  everybody : ∀ somebody, executor.snapshot.Spawned somebody →
    (∀ worker ≤ executor.consumerIndex, executor.snapshot.Spawned worker) ∨
      ∃ worker, .spawning worker ∈ executor.executes

namespace Staffed

variable {config : ExecutorConfig}

/-- Whoever spawns a worker can give names to all of them. -/
theorem nameable (staffed : Staffed config executor) {worker : Nat}
    (named : threadNamePanic? (executor.workerName worker) = none) : ¬config.HasNul := by
  rw [named_iff, staffed.settings] at named
  exact named

/-- A call spawns the worker it has come to. -/
theorem spawns {worker : Nat} (staffed : Staffed config executor)
    (stepped : executor.step (.executing call .proceed) = some next)
    (settings : next.config = executor.config)
    (was : executor.executes[call]? = some (.spawning worker))
    (named : threadNamePanic? (executor.workerName worker) = none)
    (executes : next.executes = executor.executes.set call
      (if worker < executor.consumerIndex then .spawning (worker + 1) else .waiting)) :
    Staffed config next := by
  have move := move_of_step stepped
  have index := consumerIndex_of_step stepped
  obtain ⟨inside, before⟩ := staffed.spawning worker (List.mem_of_getElem? was)
  have born := spawned_of_step stepped was named (staffed.willing.starts worker) inside
  have upTo : ∀ first ≤ worker, next.snapshot.Spawned first := by
    intro first upTo
    rcases Nat.lt_or_eq_of_le upTo with earlier | rfl
    · exact (before first earlier).move move
    · exact born
  have here := List.mem_set (List.getElem?_eq_some_iff.mp was).1
    (if worker < executor.consumerIndex then ExecutePhase.spawning (worker + 1) else .waiting)
  rw [← executes] at here
  refine ⟨staffed.willing.step stepped, settings.trans staffed.settings, ?_, fun unnamed => ?_,
    fun _ _ => ?_⟩
  · intro other found
    rw [index]
    rw [executes] at found
    rcases List.mem_or_eq_of_mem_set found with earlier | same
    · obtain ⟨otherInside, spawned⟩ := staffed.spawning other earlier
      exact ⟨otherInside, fun first lower => (spawned first lower).move move⟩
    · split at same
      · rename_i further
        cases same
        exact ⟨further, fun first lower => upTo first (Nat.le_of_lt_succ lower)⟩
      · contradiction
  · exact absurd unnamed (staffed.nameable named)
  · by_cases further : worker < executor.consumerIndex
    · rw [if_pos further] at here
      exact .inr ⟨_, here⟩
    · rw [index]
      exact .inl fun first lower => upTo first (by omega)

/-- A step that spawns nobody. -/
theorem still (staffed : Staffed config executor) (stepped : executor.step event = some next)
    (unspawned : ∀ worker, next.snapshot.Spawned worker → executor.snapshot.Spawned worker)
    (kept : ∀ somebody, executor.snapshot.Spawned somebody →
      ∀ worker, .spawning worker ∈ executor.executes → .spawning worker ∈ next.executes)
    (fresh : ∀ worker, .spawning worker ∈ next.executes →
      .spawning worker ∈ executor.executes ∨ worker = 0) : Staffed config next := by
  have move := move_of_step stepped
  have index := consumerIndex_of_step stepped
  have settings : next.config = executor.config := (officeMove_of_step stepped).config
  refine ⟨staffed.willing.step stepped, settings.trans staffed.settings, ?_, ?_, ?_⟩
  · intro worker found
    rw [index]
    rcases fresh worker found with before | rfl
    · obtain ⟨inside, spawned⟩ := staffed.spawning worker before
      exact ⟨inside, fun first earlier => (spawned first earlier).move move⟩
    · exact ⟨Nat.zero_le _, by simp⟩
  · exact fun unnamed worker spawned => staffed.named unnamed worker (unspawned worker spawned)
  · intro somebody spawned
    rw [index]
    have before := unspawned somebody spawned
    rcases staffed.everybody somebody before with all | ⟨worker, found⟩
    · exact .inl fun worker inside => (all worker inside).move move
    · exact .inr ⟨worker, kept somebody before worker found⟩

theorem step (staffed : Staffed config executor) (stepped : executor.step event = some next) :
    Staffed config next := by
  by_cases spawning : ∃ call worker, event = .executing call .proceed ∧
      executor.executes[call]? = some (.spawning worker) ∧
      threadNamePanic? (executor.workerName worker) = none
  · obtain ⟨call, worker, rfl, was, named⟩ := spawning
    obtain ⟨middle, spawned, rfl⟩ :=
      spawn_of_step stepped was named (staffed.willing.starts worker)
    have same := office_spawn spawned
    have executes : middle.executes = executor.executes := congrArg Office.executes same
    apply staffed.spawns stepped (congrArg Office.config same) was named
    rw [← executes]
    rfl
  · have unspawned : ∀ worker, next.snapshot.Spawned worker →
        executor.snapshot.Spawned worker := by
      intro worker spawned
      refine (spawned_before stepped spawned).resolve_right ?_
      rintro ⟨call, first, mine, was, named, -⟩
      exact spawning ⟨call, first, mine, was, named⟩
    cases spawnMove_of_officeMove (officeMove_of_step stepped) with
    | retreats call old new lifecycle was turn => exact (staffed.willing.not_retreats was turn).elim
    | spawns call worker mine was named willing =>
      exact absurd ⟨call, worker, mine, was, named⟩ spawning
    | aside kept fresh => exact staffed.still stepped unspawned (fun _ _ => kept) fresh
    | strands worker unnamed fresh =>
      -- A name that no thread can have: then nobody has one.
      have nul : config.HasNul := by
        rw [ne_eq, named_iff, staffed.settings, not_not] at unnamed
        exact unnamed
      apply staffed.still stepped unspawned
      · exact fun somebody spawned => absurd spawned (staffed.named nul somebody)
      · exact fun worker found => .inl (fresh worker found)

theorem run {final : Executor ρ α β} {events : List (Event ρ α β)}
    (staffed : Staffed config executor) (ran : executor.run events = some final) :
    Staffed config final := by
  induction events generalizing executor with
  | nil =>
    cases ran
    exact staffed
  | cons event rest ih =>
    obtain ⟨middle, stepped, ran⟩ := Option.bind_eq_some_iff.mp ran
    exact ih (staffed.step stepped) ran

end Staffed

theorem unspawned_create (config : ExecutorConfig) (hooked : Bool) (kinds : List SourceKind)
    (worker : Nat) : ¬(create config hooked kinds : Executor ρ α β).snapshot.Spawned worker := by
  apply Snapshot.not_spawned_of_unborn
  rw [snapshot_create]
  exact (Snapshot.started_start _).fresh rfl

theorem staffed_create (config : ExecutorConfig) (hooked : Bool) (kinds : List SourceKind) :
    Staffed config (create config hooked kinds : Executor ρ α β) := by
  refine ⟨willing_create config hooked kinds, rfl, ?_,
    fun _ => unspawned_create config hooked kinds, fun somebody spawned =>
      absurd spawned (unspawned_create config hooked kinds somebody)⟩
  intro worker found
  contradiction

/-- In every run, whoever executes and whatever flags are raised. -/
theorem staffed_of_run {config : ExecutorConfig} {hooked : Bool} {kinds : List SourceKind}
    {events : List (Event ρ α β)} (ran : (create config hooked kinds).run events = some executor) :
    Staffed config executor := by
  exact (staffed_create config hooked kinds).run ran

end Executor

end BoundedIngest

/-
Module: BoundedIngest.Proofs.Executor.Joining
Purpose: Whom a call that waits for termination has joined, and what the state Terminated tells.
Main exports:
  Executor.orderly, Executor.keepsOrder, Awaited, Awaited.step, Orderly, Orderly.run,
  Executor.terminated_means_joined, Executor.terminated_unjoined
-/
import BoundedIngest.Proofs.Executor.Announcing
import BoundedIngest.Proofs.Executor.Handles

namespace BoundedIngest

/-!
A call that waits for termination takes the handles that are there, joins their workers, and
judges by the state and by the number of handles whether everything is over.  It knows nothing
of handles that another call has taken, nor of workers that are spawned meanwhile.  So calls
that overlap, or that overlap the start, may see an end that has not come.
-/

variable {ρ α β : Type}

/-- The call has taken handles and has yet to judge. -/
def AwaitPhase.isJoining : AwaitPhase → Bool
  | .joining .. => true
  | _ => false

namespace Lifecycle

theorem terminated_of_settle {current next : Lifecycle} (other : next ≠ .terminated)
    (finished : current.settle next = .terminated) : current = .terminated := by
  unfold settle at finished
  split at finished
  · assumption
  · contradiction

theorem terminated_of_shutDown {current : Lifecycle} (finished : current.shutDown = .terminated) :
    current = .terminated := by
  cases current <;> first | rfl | contradiction

end Lifecycle

/-! ### Orderly runs -/

namespace Executor

/-- The start is announced and nobody is spawned yet. -/
def isOpening (executor : Executor ρ α β) : Bool :=
  executor.executes.any fun
    | .spawning 0 => true
    | _ => false

/-- Some call has handles and has yet to judge. -/
def isJoining (executor : Executor ρ α β) : Bool := executor.awaits.any (·.isJoining)

/-- A call takes handles only if no other call has any and no start is announced, and a start is
announced only if no call has handles. -/
def orderly (executor : Executor ρ α β) : Event ρ α β → Bool
  | .awaiting call =>
      match executor.awaits[call]? with
      | some .collecting => !executor.isJoining && !executor.isOpening
      | _ => true
  | .executing call .proceed =>
      match executor.executes[call]? with
      | some .starting => !executor.isJoining
      | _ => true
  | _ => true

/-- Are all steps of a run orderly? -/
def keepsOrder (executor : Executor ρ α β) : List (Event ρ α β) → Bool
  | [] => true
  | event :: rest => executor.orderly event && (executor.step event).all (·.keepsOrder rest)

/-- Some call has announced the start and has not spawned everybody. -/
def IsSpawning (executor : Executor ρ α β) : Prop :=
  ∃ worker, .spawning worker ∈ executor.executes

variable {executor next : Executor ρ α β} {event : Event ρ α β}

theorem isJoining_iff :
    executor.isJoining = true ↔ 0 < executor.awaits.countP AwaitPhase.isJoining := by
  rw [List.countP_pos_iff]
  exact List.any_eq_true

/-- Whoever takes handles while the list of workers is free finds no call that spawns. -/
theorem not_spawning (closed : executor.isOpening = false) (free : executor.workersFree = true) :
    ¬ executor.IsSpawning := by
  rintro ⟨worker, found⟩
  cases worker with
  | zero =>
    have opening : executor.isOpening = true := List.any_eq_true.mpr ⟨_, found, rfl⟩
    rw [closed] at opening
    contradiction
  | succ worker =>
    have holds : executor.executes.any ExecutePhase.holdsWorkers = true :=
      List.any_eq_true.mpr ⟨_, found, by simp [ExecutePhase.holdsWorkers]⟩
    rw [workersFree, holds] at free
    contradiction

/-- No outcome of a call that executes is the end of everything. -/
theorem classify_ne_terminated (outcome : Except ExecError β) :
    (classify outcome).1 ≠ .terminated := by
  unfold classify
  split
  · simp
  · split <;> simp

theorem spawned_of_quiet (quiet : ¬ executor.IsSpawning)
    (stepped : executor.step event = some next) {worker : Nat}
    (spawned : next.snapshot.Spawned worker) : executor.snapshot.Spawned worker := by
  rcases spawned_before stepped spawned with before | ⟨call, first, -, was, -⟩
  · exact before
  · exact absurd ⟨first, List.mem_of_getElem? was⟩ quiet

theorem spawning_of_same (executes : next.executes = executor.executes)
    (spawning : next.IsSpawning) : executor.IsSpawning := by
  rwa [IsSpawning, executes] at spawning

theorem spawning_of_set {call : Nat} {new : ExecutePhase β}
    (executes : next.executes = executor.executes.set call new)
    (mine : ∀ worker, new = .spawning worker → executor.IsSpawning)
    (spawning : next.IsSpawning) : executor.IsSpawning := by
  obtain ⟨worker, found⟩ := spawning
  rw [executes] at found
  rcases List.mem_or_eq_of_mem_set found with before | now
  · exact ⟨worker, before⟩
  · exact mine worker now.symm

end Executor

/-- While a call joins, it alone has handles, it has all there are, and there will be no others;
and when everything is said to be over, it is. -/
structure Awaited (executor : Executor ρ α β) : Prop where
  single : executor.awaits.countP AwaitPhase.isJoining ≤ 1
  taken : executor.isJoining = true →
    ∀ worker, executor.snapshot.Spawned worker → executor.handles[worker]? = some true
  spawning : executor.IsSpawning →
    executor.lifecycle ≠ .terminated ∧ executor.isJoining = false
  finished : executor.lifecycle = .terminated →
    ∀ worker, executor.snapshot.Spawned worker → executor.snapshot.Ended worker

namespace Awaited

variable {executor next : Executor ρ α β} {office : Office β} {event : Executor.Event ρ α β}
  {call : Nat}

theorem joining_of_call {rest : List Nat} {total : Nat}
    (was : executor.awaits[call]? = some (.joining rest total)) : executor.isJoining = true :=
  List.any_eq_true.mpr ⟨_, List.mem_of_getElem? was, rfl⟩

/-- A call that has joined everybody it has a handle of has joined everybody. -/
theorem ended_of_leaves {total : Nat} (awaited : Awaited executor) (handled : Handled executor)
    (was : executor.awaits[call]? = some (.joining [] total)) (worker : Nat)
    (spawned : executor.snapshot.Spawned worker) : executor.snapshot.Ended worker := by
  have marked := awaited.taken (joining_of_call was) worker spawned
  rcases handled.listed worker marked with ended | ⟨rest, count, found, among⟩
  · exact ended
  · obtain ⟨other, there⟩ := List.mem_iff_getElem?.mp found
    have apart : call ≠ other := by
      rintro rfl
      cases was.symm.trans there
      contradiction
    have twice : 2 ≤ executor.awaits.countP AwaitPhase.isJoining :=
      two_le_countP apart was rfl there rfl
    have single := awaited.single
    omega

/-- Whoever is spawned in a step is spawned while nobody joins and nothing is over. -/
theorem spawned_before {worker : Nat} (awaited : Awaited executor)
    (stepped : executor.step event = some next) (spawned : next.snapshot.Spawned worker) :
    executor.snapshot.Spawned worker ∨
      (executor.lifecycle ≠ .terminated ∧ executor.isJoining = false) := by
  refine (Executor.spawned_before stepped spawned).imp_right ?_
  rintro ⟨call, first, -, was, -⟩
  exact awaited.spawning ⟨first, List.mem_of_getElem? was⟩

/-- No call takes handles or judges, and no start is announced. -/
theorem aside (awaited : Awaited executor) (started : executor.snapshot.Started)
    (stepped : executor.step event = some next)
    (count : next.awaits.countP AwaitPhase.isJoining =
      executor.awaits.countP AwaitPhase.isJoining)
    (handles : next.handles = executor.handles)
    (lifecycle : next.lifecycle = .terminated → executor.lifecycle = .terminated)
    (spawning : next.IsSpawning → executor.IsSpawning) : Awaited next := by
  have move := Executor.move_of_step stepped
  have same : next.isJoining = executor.isJoining := by
    rw [Bool.eq_iff_iff, Executor.isJoining_iff, Executor.isJoining_iff, count]
  constructor
  · rw [count]
    exact awaited.single
  · intro joins worker spawned
    rw [same] at joins
    rw [handles]
    rcases awaited.spawned_before stepped spawned with before | ⟨-, apart⟩
    · exact awaited.taken joins worker before
    · rw [apart] at joins
      contradiction
  · intro busy
    obtain ⟨alive, apart⟩ := awaited.spawning (spawning busy)
    exact ⟨fun finished => alive (lifecycle finished), same.trans apart⟩
  · intro finished worker spawned
    rcases awaited.spawned_before stepped spawned with before | ⟨alive, -⟩
    · exact (awaited.finished (lifecycle finished) worker before).move started move
    · exact absurd (lifecycle finished) alive

/-- A call takes all handles that are left, and nobody else has any. -/
theorem collects (awaited : Awaited executor) (started : executor.snapshot.Started)
    (stepped : executor.step event = some next)
    (was : executor.awaits[call]? = some .collecting) (apart : executor.isJoining = false)
    (quiet : ¬ executor.IsSpawning)
    (handles : next.handles = executor.joinable.foldl (·.set · true) executor.handles)
    (awaits : next.awaits =
      executor.awaits.set call (.joining executor.joinable executor.joinable.length))
    (lifecycle : next.lifecycle = executor.lifecycle)
    (executes : next.executes = executor.executes) : Awaited next := by
  have before : ∀ worker, next.snapshot.Spawned worker → executor.snapshot.Spawned worker :=
    fun worker => Executor.spawned_of_quiet quiet stepped
  constructor
  · have counted := countP_set_gain AwaitPhase.isJoining
      (.joining executor.joinable executor.joinable.length) was rfl rfl
    have none : ¬ 0 < executor.awaits.countP AwaitPhase.isJoining := by
      rw [← Executor.isJoining_iff, apart]
      simp
    rw [awaits]
    omega
  · intro _ worker spawned
    have inside : worker < executor.handles.length := by
      rw [Executor.length_handles, ← Executor.length_phases]
      exact Nat.lt_succ_of_le (before worker spawned).inside
    rw [handles, foldl_set_true]
    cases mark : executor.handles[worker] with
    | true =>
      left
      rw [List.getElem?_eq_getElem inside, mark]
    | false =>
      right
      refine ⟨Executor.mem_joinable.mpr ⟨before worker spawned, ?_⟩, inside⟩
      rw [List.getElem?_eq_getElem inside, mark]
  · intro spawning
    exact absurd (Executor.spawning_of_same executes spawning) quiet
  · intro finished worker spawned
    rw [lifecycle] at finished
    exact (awaited.finished finished worker (before worker spawned)).move started
      (Executor.move_of_step stepped)

/-- A call announces the start while nobody has handles. -/
theorem starts (awaited : Awaited executor) (apart : executor.isJoining = false)
    (awaits : next.awaits = executor.awaits)
    (running : next.lifecycle = .running) : Awaited next := by
  have same : next.isJoining = false := by
    rw [Executor.isJoining, awaits]
    exact apart
  constructor
  · rw [awaits]
    exact awaited.single
  · intro joins
    rw [same] at joins
    contradiction
  · intro _
    rw [running]
    exact ⟨by simp, same⟩
  · intro finished
    rw [running] at finished
    contradiction

/-- A call judges. -/
theorem leaves {total : Nat} (awaited : Awaited executor) (handled : Handled executor)
    (started : executor.snapshot.Started) (stepped : executor.step event = some next)
    (was : executor.awaits[call]? = some (.joining [] total))
    (handles : next.handles = executor.handles)
    (awaits : next.awaits = executor.awaits.set call .returned)
    (executes : next.executes = executor.executes) : Awaited next := by
  have quiet : ¬ executor.IsSpawning := by
    intro spawning
    have apart := (awaited.spawning spawning).2
    rw [joining_of_call was] at apart
    contradiction
  have before : ∀ worker, next.snapshot.Spawned worker → executor.snapshot.Spawned worker :=
    fun worker => Executor.spawned_of_quiet quiet stepped
  constructor
  · have counted := countP_set_add AwaitPhase.isJoining .returned was
    have single := awaited.single
    have none : (AwaitPhase.returned.isJoining).toNat = 0 := rfl
    rw [awaits]
    omega
  · intro _ worker spawned
    rw [handles]
    exact awaited.taken (joining_of_call was) worker (before worker spawned)
  · intro spawning
    exact absurd (Executor.spawning_of_same executes spawning) quiet
  · intro _ worker spawned
    exact (awaited.ended_of_leaves handled was worker (before worker spawned)).move started
      (Executor.move_of_step stepped)

/-- Every orderly step keeps it. -/
theorem step (awaited : Awaited executor) (willing : executor.Willing)
    (handled : Handled executor)
    (announced : Announced executor) (started : executor.snapshot.Started)
    (stepped : executor.step event = some next) (orderly : executor.orderly event = true) :
    Awaited next := by
  have move := Executor.officeMove_of_step stepped
  generalize seen : next.office = office at move
  have executes : next.executes = office.executes := congrArg Office.executes seen
  have awaits : next.awaits = office.awaits := congrArg Office.awaits seen
  have handles : next.handles = office.handles := congrArg Office.handles seen
  have lifecycle : next.lifecycle = office.lifecycle := congrArg Office.lifecycle seen
  have executing : next.awaits = executor.awaits → next.handles = executor.handles →
      (next.lifecycle = .terminated → executor.lifecycle = .terminated) →
      (next.IsSpawning → executor.IsSpawning) → Awaited next := by
    intro awaits handles lifecycle spawning
    exact awaited.aside started stepped (by rw [awaits]) handles lifecycle spawning
  cases move with
  | still others =>
    exact executing awaits handles lifecycle.symm.trans (Executor.spawning_of_same executes)
  | executes =>
    refine executing awaits handles lifecycle.symm.trans ?_
    rintro ⟨worker, found⟩
    rw [executes] at found
    rcases List.mem_append.mp found with before | now
    · exact ⟨worker, before⟩
    · cases List.mem_singleton.mp now
  | aborts | enters | takesParts | takesSender | strands =>
    exact executing awaits handles lifecycle.symm.trans
      (Executor.spawning_of_set executes (by simp))
  | takesReceiver hasParts hasSender was =>
    refine executing awaits handles lifecycle.symm.trans
      (Executor.spawning_of_set executes fun worker now => ?_)
    split at now <;> contradiction
  | starts was =>
    have apart : executor.isJoining = false := by
      simpa [Executor.orderly, was] using orderly
    have created := announced.fresh (.inr ⟨_, List.mem_of_getElem? was, rfl⟩)
    refine awaited.starts apart awaits ?_
    rw [lifecycle]
    show executor.lifecycle.settle .running = .running
    rw [created]
    rfl
  | retreats old new lifecycle was turn => exact (willing.not_retreats was turn).elim
  | spawns worker was named willing =>
    refine executing awaits handles lifecycle.symm.trans
      (Executor.spawning_of_set executes fun _ _ => ?_)
    exact ⟨worker, List.mem_of_getElem? was⟩
  | serves old new was turn =>
    refine executing awaits handles lifecycle.symm.trans
      (Executor.spawning_of_set executes fun worker now => ?_)
    subst now
    cases turn
  | settles outcome was =>
    refine executing awaits handles (fun finished => ?_)
      (Executor.spawning_of_set executes (by simp))
    rw [lifecycle] at finished
    exact Lifecycle.terminated_of_settle (Executor.classify_ne_terminated outcome) finished
  | cancels was =>
    refine executing awaits handles (fun finished => ?_) (Executor.spawning_of_same executes)
    rw [lifecycle] at finished
    exact Lifecycle.terminated_of_shutDown finished
  | awaits =>
    refine awaited.aside started stepped ?_ handles lifecycle.symm.trans
      (Executor.spawning_of_same executes)
    rw [awaits, List.countP_append]
    rfl
  | collects was free =>
    have tidy : executor.isJoining = false ∧ executor.isOpening = false := by
      simpa [Executor.orderly, was] using orderly
    exact awaited.collects started stepped was tidy.1 (Executor.not_spawning tidy.2 free) handles
      awaits lifecycle executes
  | joins worker rest total was ended =>
    refine awaited.aside started stepped ?_ handles lifecycle.symm.trans
      (Executor.spawning_of_same executes)
    rw [awaits]
    exact countP_set_same _ _ was rfl
  | leaves total was => exact awaited.leaves handled started stepped was handles awaits executes

end Awaited

/-! ### Whole runs -/

/-- What holds at every point of an orderly run. -/
structure Orderly (executor : Executor ρ α β) : Prop where
  willing : executor.Willing
  started : executor.snapshot.Started
  handled : Handled executor
  announced : Announced executor
  awaited : Awaited executor

namespace Orderly

variable {executor next final : Executor ρ α β} {office : Office β} {event : Executor.Event ρ α β}
  {events : List (Executor.Event ρ α β)}

theorem create (config : ExecutorConfig) (hooked : Bool) (kinds : List SourceKind) :
    Orderly (Executor.create config hooked kinds : Executor ρ α β) := by
  have started : (Executor.create config hooked kinds : Executor ρ α β).snapshot.Started := by
    rw [Executor.snapshot_create]
    exact Snapshot.started_start kinds.length
  have free : ∀ worker : Nat, (Executor.create config hooked kinds :
      Executor ρ α β).handles[worker]? ≠ some true := by
    intro worker marked
    have found := List.mem_of_getElem? marked
    simp [Executor.handles, Executor.create] at found
  refine ⟨Executor.willing_create config hooked kinds, started, ⟨?_, ?_⟩, ⟨?_, fun _ => rfl⟩,
    ⟨Nat.zero_le 1, ?_, ?_, ?_⟩⟩
  · exact fun worker marked => absurd marked (free worker)
  · exact fun worker marked => absurd marked (free worker)
  · intro phase found
    contradiction
  · intro joins
    contradiction
  · rintro ⟨worker, found⟩
    contradiction
  · intro finished
    contradiction

theorem step (orderly : Orderly executor) (stepped : executor.step event = some next)
    (tidy : executor.orderly event = true) : Orderly next where
  willing := orderly.willing.step stepped
  started := orderly.started.move (Executor.move_of_step stepped)
  handled := orderly.handled.step orderly.started stepped
  announced := orderly.announced.step orderly.willing orderly.started stepped
  awaited := orderly.awaited.step orderly.willing orderly.handled orderly.announced
    orderly.started stepped tidy

theorem split_run (ran : executor.run (event :: events) = some final)
    (order : executor.keepsOrder (event :: events) = true) :
    executor.orderly event = true ∧ ∃ next, executor.step event = some next ∧
      next.run events = some final ∧ next.keepsOrder events = true := by
  obtain ⟨next, stepped, rest⟩ := Option.bind_eq_some_iff.mp ran
  rw [Executor.keepsOrder, stepped, Bool.and_eq_true] at order
  exact ⟨order.1, next, stepped, rest, order.2⟩

theorem run (orderly : Orderly executor) (ran : executor.run events = some final)
    (order : executor.keepsOrder events = true) : Orderly final := by
  induction events generalizing executor with
  | nil =>
    cases ran
    exact orderly
  | cons event rest ih =>
    obtain ⟨tidy, next, stepped, ran, order⟩ := split_run ran order
    exact ih (orderly.step stepped tidy) ran order

/-- What was said to be over stays so, and nobody is spawned any more. -/
theorem finished_of_step (orderly : Orderly executor) (finished : executor.lifecycle = .terminated)
    (stepped : executor.step event = some next) : next.lifecycle = .terminated ∧
      ∀ worker, next.snapshot.Spawned worker ↔ executor.snapshot.Spawned worker := by
  constructor
  · have move := Executor.officeMove_of_step stepped
    generalize seen : next.office = office at move
    have lifecycle : next.lifecycle = office.lifecycle := congrArg Office.lifecycle seen
    rw [lifecycle]
    cases move with
    | starts | settles => exact if_pos finished
    | retreats old new lifecycle was turn => exact (orderly.willing.not_retreats was turn).elim
    | cancels was =>
      show executor.lifecycle.shutDown = .terminated
      rw [finished]
      rfl
    | leaves total was =>
      show executor.lifecycle.afterJoining total = .terminated
      rw [finished]
      rfl
    | still | executes | aborts | enters | takesParts | takesSender | takesReceiver | strands
    | spawns | serves | awaits | collects | joins => exact finished
  · intro worker
    constructor
    · intro spawned
      refine (orderly.awaited.spawned_before stepped spawned).resolve_right ?_
      exact fun apart => apart.1 finished
    · exact fun spawned => spawned.move (Executor.move_of_step stepped)

/-- A call returns only after it has joined everybody it had a handle of. -/
theorem returned_before {call : Nat} (stepped : executor.step event = some next)
    (returned : next.awaits[call]? = some .returned) :
    executor.awaits[call]? = some .returned ∨
      ∃ total, executor.awaits[call]? = some (.joining [] total) := by
  have move := Executor.officeMove_of_step stepped
  generalize seen : next.office = office at move
  have awaits : next.awaits = office.awaits := congrArg Office.awaits seen
  rw [awaits] at returned
  cases move with
  | awaits =>
    rcases last_or_before returned with ⟨-, same⟩ | before
    · contradiction
    · exact .inl before
  | collects was free =>
    exact .inl (before_of_set (by simp) returned)
  | joins worker rest total was ended =>
    exact .inl (before_of_set (by simp) returned)
  | leaves total was =>
    rcases set_or_before returned with ⟨rfl, -⟩ | before
    · exact .inr ⟨total, was⟩
    · exact .inl before
  | still | executes | aborts | enters | takesParts | takesSender | takesReceiver | starts
  | strands | spawns | serves | settles | retreats | cancels => exact .inl returned

theorem finished_of_run (orderly : Orderly executor) (finished : executor.lifecycle = .terminated)
    (ran : executor.run events = some final) (order : executor.keepsOrder events = true)
    (worker : Nat) : final.snapshot.Spawned worker ↔ executor.snapshot.Spawned worker := by
  induction events generalizing executor with
  | nil =>
    cases ran
    exact Iff.rfl
  | cons event rest ih =>
    obtain ⟨tidy, next, stepped, ran, order⟩ := split_run ran order
    obtain ⟨finishedNext, same⟩ := orderly.finished_of_step finished stepped
    exact (ih (orderly.step stepped tidy) finishedNext ran order).trans (same worker)

/-- Whoever returns has joined all workers of a crew that was there when it began. -/
theorem ended_of_run {crew : List Nat} {first : Nat} (orderly : Orderly executor)
    (manned : ∀ worker ∈ crew, executor.snapshot.Spawned worker)
    (ended : ∀ call, first ≤ call → executor.awaits[call]? = some .returned →
      ∀ worker ∈ crew, executor.snapshot.Ended worker)
    (ran : executor.run events = some final) (order : executor.keepsOrder events = true)
    {call : Nat} (late : first ≤ call) (returned : final.awaits[call]? = some .returned) :
    ∀ worker ∈ crew, final.snapshot.Ended worker := by
  induction events generalizing executor with
  | nil =>
    cases ran
    exact ended call late returned
  | cons event rest ih =>
    obtain ⟨tidy, next, stepped, ran, order⟩ := split_run ran order
    have move := Executor.move_of_step stepped
    refine ih (orderly.step stepped tidy)
      (fun worker among => (manned worker among).move move) (fun other after back => ?_) ran
      order
    intro worker among
    rcases returned_before stepped back with before | ⟨total, was⟩
    · exact (ended other after before worker among).move orderly.started move
    · have joined := orderly.awaited.ended_of_leaves orderly.handled was worker
        (manned worker among)
      exact joined.move orderly.started move

end Orderly

namespace Executor

variable {config : ExecutorConfig} {hooked : Bool} {kinds : List SourceKind}
  {executor final : Executor ρ α β} {events later : List (Event ρ α β)}

/-- If no two calls that wait for termination overlap and none overlaps the start: whenever the
state is Terminated, whoever was spawned has ended and nobody will be spawned; and whoever waits
for termination once all workers are there returns only after all of them have ended. -/
theorem terminated_means_joined
    (ran : (create config hooked kinds).run events = some executor)
    (order : (create config hooked kinds : Executor ρ α β).keepsOrder events = true)
    (goesOn : executor.run later = some final) (orderLater : executor.keepsOrder later = true) :
    (executor.lifecycle = .terminated →
      (∀ worker, executor.isSpawned worker = true → executor.hasEnded worker = true) ∧
        ∀ worker, final.isSpawned worker = executor.isSpawned worker) ∧
    ((∀ worker ∈ executor.workers, executor.isSpawned worker = true) →
      ∀ call, executor.awaits.length ≤ call → final.awaits[call]? = some .returned →
        ∀ worker ∈ executor.workers, final.hasEnded worker = true) := by
  have orderly : Orderly executor := (Orderly.create config hooked kinds).run ran order
  constructor
  · intro finished
    constructor
    · intro worker spawned
      rw [isSpawned_iff] at spawned
      exact hasEnded_iff.mpr (orderly.awaited.finished finished worker spawned)
    · intro worker
      rw [Bool.eq_iff_iff, isSpawned_iff, isSpawned_iff]
      exact orderly.finished_of_run finished goesOn orderLater worker
  · intro manned call late returned worker among
    apply hasEnded_iff.mpr
    refine orderly.ended_of_run (fun other found => isSpawned_iff.mp (manned other found)) ?_ goesOn
      orderLater late returned worker among
    intro other after back
    have inside := (List.getElem?_eq_some_iff.mp back).1
    exact absurd inside (Nat.not_lt.mpr after)

/-- A call that has announced the start. -/
def announcedRun : List (Event Nat Nat Nat) :=
  [.execute, .executing 0 (.readFlag false), .executing 0 .proceed, .executing 0 .proceed,
    .executing 0 .proceed, .executing 0 .proceed]

/-- The workers are spawned, and all of them end. -/
def servedRun : List (Event Nat Nat Nat) :=
  [.executing 0 .proceed, .executing 0 .proceed, .producer 0 .sourceEnded, .producer 0 .report,
    .producer 0 .markDone, .enterQueue 1, .consumer .pulled, .consumer .report,
    .consumer .finished, .consumer (.concluded 0), .consumer .deliver]

/-- A call takes the handles of both workers, joins them and judges. -/
def joinedRun : List (Event Nat Nat Nat) :=
  [.await, .awaiting 0, .awaiting 0, .awaiting 0, .awaiting 0]

/-- A second call finds no handles. -/
def secondRun : List (Event Nat Nat Nat) := [.await, .awaiting 1, .awaiting 1]

/-- A shutdown between the announcement and the first worker, and a call that sees its end. -/
def hastyRun : List (Event Nat Nat Nat) :=
  [.shutdown, .shuttingDown 0, .notifyQueue 2 none, .notifyQueue 2 none, .shuttingDown 0,
    .shuttingDown 0, .shuttingDown 0, .await, .awaiting 0, .awaiting 0]

/-- Two calls that overlap: the second finds no handles and does not wait for the first. -/
def overlappingRun : List (Event Nat Nat Nat) :=
  [.await, .awaiting 0, .await, .awaiting 1, .awaiting 1]

/-- Everybody has ended when the state is Terminated, and when a second call returns. -/
theorem terminated_means_joined_inhabited :
    ∃ executor final : Executor Nat Nat Nat,
      (create {} false [.records]).run (announcedRun ++ servedRun ++ joinedRun) = some executor ∧
        (create {} false [.records] : Executor Nat Nat Nat).keepsOrder
          (announcedRun ++ servedRun ++ joinedRun) = true ∧
        executor.run secondRun = some final ∧ executor.keepsOrder secondRun = true ∧
        executor.lifecycle = .terminated ∧
        (∀ worker ∈ executor.workers, executor.isSpawned worker = true) ∧
        (∀ worker, executor.isSpawned worker = true → executor.hasEnded worker = true) ∧
        ∀ worker ∈ executor.workers, final.hasEnded worker = true := by
  have order : (create {} false [.records] : Executor Nat Nat Nat).keepsOrder
      (announcedRun ++ servedRun ++ joinedRun) = true := by
    decide +kernel
  have joins : ((create {} false [.records]).run (announcedRun ++ servedRun ++ joinedRun)).map
      (fun executor : Executor Nat Nat Nat => executor.lifecycle == .terminated &&
        executor.workers.all executor.isSpawned && executor.awaits.length == 1 &&
        executor.keepsOrder secondRun && (executor.run secondRun).any fun final =>
          final.awaits[1]? == some .returned) = some true := by
    decide +kernel
  obtain ⟨executor, ran, facts⟩ := Option.map_eq_some_iff.mp joins
  simp only [Bool.and_eq_true, beq_iff_eq, List.all_eq_true, Option.any_eq_true] at facts
  obtain ⟨⟨⟨⟨finished, manned⟩, one⟩, orderLater⟩, final, goesOn, returned⟩ := facts
  obtain ⟨joined, waited⟩ := terminated_means_joined ran order goesOn orderLater
  exact ⟨executor, final, ran, order, goesOn, orderLater, finished, manned, (joined finished).1,
    waited manned 1 (Nat.le_of_eq one) returned⟩

/-- A shutdown and a call that waits, both before the first worker, make the executor Terminated
although workers are spawned later; and of two calls that overlap the second returns while all
workers still run. -/
theorem terminated_unjoined :
    (¬ ∀ (events later : List (Event Nat Nat Nat)) (executor final : Executor Nat Nat Nat),
      (create {} false [.records]).run events = some executor →
      executor.run later = some final → executor.lifecycle = .terminated →
      ∀ worker, final.isSpawned worker = executor.isSpawned worker) ∧
    (¬ ∀ (events later : List (Event Nat Nat Nat)) (executor final : Executor Nat Nat Nat),
      (create {} false [.records]).run events = some executor →
      executor.run later = some final →
      (∀ worker ∈ executor.workers, executor.isSpawned worker = true) →
      ∀ call, executor.awaits.length ≤ call → final.awaits[call]? = some .returned →
        ∀ worker ∈ executor.workers, final.hasEnded worker = true) := by
  constructor
  · intro claim
    have spawns : ((create {} false [.records]).run (announcedRun ++ hastyRun)).map
        (fun executor : Executor Nat Nat Nat => executor.lifecycle == .terminated &&
          !executor.isSpawned 0 && (executor.run [.executing 0 .proceed]).any
            (·.isSpawned 0)) = some true := by
      decide +kernel
    obtain ⟨executor, ran, facts⟩ := Option.map_eq_some_iff.mp spawns
    simp only [Bool.and_eq_true, beq_iff_eq, Bool.not_eq_true', Option.any_eq_true] at facts
    obtain ⟨⟨finished, unborn⟩, final, goesOn, spawned⟩ := facts
    have same := claim _ _ executor final ran goesOn finished 0
    rw [spawned, unborn] at same
    contradiction
  · intro claim
    have returns : ((create {} false [.records]).run (announcedRun ++ servedRun.take 2)).map
        (fun executor : Executor Nat Nat Nat => executor.workers.all executor.isSpawned &&
          executor.awaits.length == 0 && (executor.run overlappingRun).any fun final =>
            final.awaits[1]? == some .returned && !final.hasEnded 0) = some true := by
      decide +kernel
    obtain ⟨executor, ran, facts⟩ := Option.map_eq_some_iff.mp returns
    simp only [Bool.and_eq_true, beq_iff_eq, List.all_eq_true, Bool.not_eq_true',
      Option.any_eq_true] at facts
    obtain ⟨⟨manned, none⟩, final, goesOn, returned, running⟩ := facts
    have ended := claim _ _ executor final ran goesOn manned 1 (by omega) returned 0
      (List.mem_range.mpr (Nat.succ_pos _))
    rw [running] at ended
    contradiction

end Executor

end BoundedIngest

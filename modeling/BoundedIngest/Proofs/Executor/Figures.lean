/-
Module: BoundedIngest.Proofs.Executor.Figures
Purpose: What an executor counts, which step counts what, and how one step takes a producer on.
Main exports:
  Figures, Executor.figures, Executor.Event.isCounted, Executor.Counted, Executor.counted_of_step,
  Executor.Steps, Executor.steps_of_step
-/
import BoundedIngest.Proofs.Executor.Standstill
import BoundedIngest.Proofs.Executor.Swallowing

namespace BoundedIngest

/-!
Entries are counted twice.  Each worker counts for itself while it runs, and it adds its count
to the counter that everybody sees in one step of its own.  The queue has metrics as well, but
it never touches those two counters.
-/

variable {ρ α β : Type}

/-- What an executor has counted. -/
structure Figures where
  /-- How many panics were contained. -/
  panics : Nat
  /-- The counters of inserted entries, by worker. -/
  produced : Tally
  /-- The counter of consumed entries. -/
  reported : Option Nat
  /-- How many entries the consumer itself has counted. -/
  consumed : Nat

def Executor.figures (executor : Executor ρ α β) : Figures :=
  { panics := executor.panics
    produced := executor.shared.metrics.produced
    reported := executor.shared.metrics.consumed
    consumed := executor.consumer.consumed }

/-! ### Counts by label -/

namespace Tally

theorem count_cons (rest : Tally) (known other : String) (amount : Nat) :
    Tally.count ((known, amount) :: rest) other =
      if other = known then amount else rest.count other := by
  unfold count
  rw [List.lookup_cons]
  by_cases same : other = known
  · simp [same]
  · simp [same, beq_false_of_ne same]

/-- An addition is seen under its own label only. -/
theorem count_add (tally : Tally) (label other : String) (amount : Nat) :
    (tally.add label amount).count other =
      tally.count other + if other = label then amount else 0 := by
  induction tally with
  | nil =>
    rw [add, count_cons]
    exact (Nat.zero_add _).symm
  | cons first rest ih =>
    obtain ⟨known, before⟩ := first
    rw [add]
    by_cases here : known = label
    · subst here
      rw [if_pos rfl, count_cons, count_cons]
      split <;> rfl
    · rw [if_neg here, count_cons, count_cons, ih]
      split
      · rename_i same
        rw [if_neg (same ▸ here)]
        rfl
      · rfl

end Tally

/-! ### The queue leaves the counters alone -/

namespace SharedQueue

/-- The counters of entries. -/
def counters (shared : SharedQueue α) : Tally × Option Nat :=
  (shared.metrics.produced, shared.metrics.consumed)

variable {shared next : SharedQueue α} {caller : Nat}

theorem counters_observe (size : UInt64) : (shared.observe size).counters = shared.counters := by
  unfold observe
  dsimp only
  split <;> rfl

theorem counters_tryPush {entry : α} {waited : Bool} :
    (shared.tryPush caller entry waited).counters = shared.counters := by
  unfold tryPush
  split
  · rfl
  · split <;> rfl

theorem counters_firstInsert {entry : α} {size : Option UInt64} :
    (shared.firstInsert caller entry size).counters = shared.counters := by
  have arrives : ∀ observed : SharedQueue α, observed.counters = shared.counters →
      (if observed.queue.refuses then observed.setCall caller (.returned .refused)
        else observed.tryPush caller entry false).counters = shared.counters := by
    intro observed same
    split
    · exact same
    · exact counters_tryPush.trans same
  cases size with
  | none => exact arrives shared rfl
  | some size => exact arrives _ (counters_observe size)

theorem counters_tryPull : (shared.tryPull caller).counters = shared.counters := by
  unfold tryPull
  split
  · rfl
  · split
    · rfl
    · split <;> rfl

theorem counters_enter (entered : shared.enter caller = some next) :
    next.counters = shared.counters := by
  unfold enter at entered
  split at entered
  · cases entered
    exact counters_firstInsert
  · cases entered
    exact counters_tryPush
  · cases entered
    exact counters_tryPull
  · cases entered
    exact counters_tryPull
  · contradiction

theorem counters_notifyOneEntry {target : Option Nat}
    (notified : shared.notifyOneEntry target = some next) : next.counters = shared.counters := by
  rcases reached_of_notifyOneEntry notified with ⟨-, rfl⟩ | ⟨woken, found, rfl⟩ <;> rfl

theorem counters_notifyOneRoom {target : Option Nat}
    (notified : shared.notifyOneRoom target = some next) : next.counters = shared.counters := by
  rcases reached_of_notifyOneRoom notified with ⟨-, rfl⟩ | ⟨woken, entry, found, rfl⟩ <;> rfl

theorem counters_notify {target : Option Nat}
    (notified : shared.notify caller target = some next) : next.counters = shared.counters := by
  unfold notify at notified
  split at notified
  · obtain ⟨middle, first, rfl⟩ := Option.map_eq_some_iff.mp notified
    have same := counters_notifyOneEntry first
    exact same
  · obtain ⟨middle, first, rfl⟩ := Option.map_eq_some_iff.mp notified
    have same := counters_notifyOneRoom first
    exact same
  · cases notified
    rfl
  · cases notified
    rfl
  · contradiction

theorem counters_report (reported : shared.report caller = some next) :
    next.counters = shared.counters := by
  unfold report at reported
  split at reported
  · rename_i waited found
    cases reported
    cases waited <;> rfl
  · cases reported
    rfl
  · contradiction

theorem counters_of_step {event : Event α} (stepped : shared.step event = some next) :
    next.counters = shared.counters := by
  cases event with
  | enter caller => exact counters_enter stepped
  | notify caller target => exact counters_notify stepped
  | report caller => exact counters_report stepped
  | markDone =>
    cases stepped
    unfold markDone
    dsimp only
    split <;> rfl
  | close caller =>
    simp only [step] at stepped
    split at stepped
    · cases stepped
      unfold close
      split <;> rfl
    · contradiction
  | insert | measured | measuringPanicked | pull | leave =>
    simp only [step] at stepped
    split at stepped
    · cases stepped
      rfl
    · contradiction

end SharedQueue

namespace Executor

variable {executor next : Executor ρ α β} {event : Event ρ α β} {index : Nat}

/-! ### What a step counts -/

/-- The step counts something: a panic, an entry that was consumed, or the entries of a worker
for everybody to see. -/
def Event.isCounted : Event ρ α β → Bool
  | .producer _ .report | .consumer .report | .consumer .consumed => true
  | event => event.isPanic

/-- What the figures are after a step. -/
inductive Counted (executor : Executor ρ α β) : Event ρ α β → Figures → Prop
  | still {event : Event ρ α β} (uncounted : event.isCounted = false) :
      Counted executor event executor.figures
  | contained {event : Event ρ α β} (panics : event.isPanic = true) :
      Counted executor event { executor.figures with panics := executor.figures.panics + 1 }
  | produced {index : Nat} (worker : ProducerWorker ρ) (outcome : Option Halt)
      (found : executor.producers[index]? = some worker) (was : worker.phase = .reporting outcome) :
      Counted executor (.producer index .report)
        { executor.figures with
          produced := executor.figures.produced.add (executor.workerName index) worker.produced }
  | consumed (entry : α) (was : executor.consumer.phase = .consuming entry) :
      Counted executor (.consumer .consumed)
        { executor.figures with consumed := executor.figures.consumed + 1 }
  | reported (status : QueueStatus) (was : executor.consumer.phase = .drained status) :
      Counted executor (.consumer .report)
        { executor.figures with
          reported := some (executor.figures.reported.getD 0 + executor.figures.consumed) }

theorem figures_stepQueue {queued : SharedQueue.Event α}
    (stepped : executor.stepQueue queued = some next) : next.figures = executor.figures := by
  obtain ⟨shared, moved, rfl⟩ := shared_of_stepQueue stepped
  have same := SharedQueue.counters_of_step moved
  rw [SharedQueue.counters, SharedQueue.counters, Prod.mk.injEq] at same
  simp [figures, same.1, same.2]

/-- A step of the queue and something else. -/
theorem figures_map {queued : SharedQueue.Event α} {change : Executor ρ α β → Executor ρ α β}
    (stepped : (executor.stepQueue queued).map change = some next)
    (apart : ∀ middle, (change middle).figures = middle.figures) :
    next.figures = executor.figures := by
  obtain ⟨middle, moved, rfl⟩ := Option.map_eq_some_iff.mp stepped
  exact (apart middle).trans (figures_stepQueue moved)

theorem figures_takeReply {caller : Nat} {reply : Reply α} {middle : Executor ρ α β}
    (taken : executor.takeReply caller = some (reply, middle))
    (apart : next.figures = middle.figures) : next.figures = executor.figures := by
  unfold takeReply at taken
  simp only [Option.bind_eq_bind, Option.bind_eq_some_iff, Option.pure_def,
    Option.some.injEq, Prod.mk.injEq] at taken
  obtain ⟨_, -, _, stepped, -, rfl⟩ := taken
  exact apart.trans (figures_stepQueue stepped)

theorem figures_beginPull (began : executor.beginPull = some next) :
    next.figures = executor.figures := figures_map began fun _ => rfl

/-- A step that counts nothing. -/
theorem counted_of_same (uncounted : event.isCounted = false)
    (same : next.figures = executor.figures) : Counted executor event next.figures := by
  rw [same]
  exact .still uncounted

theorem counted_of_engage {worker : ProducerWorker ρ} {act : ProducerAct ρ α}
    (found : executor.producers[index]? = some worker)
    (engaged : executor.engageProducer index worker act = some next) :
    Counted executor (.producer index act) next.figures := by
  unfold engageProducer at engaged
  dsimp only at engaged
  split at engaged
  case h_1 | h_7 | h_10 => exact counted_of_same rfl (figures_map engaged fun _ => rfl)
  case h_2 => exact counted_of_same rfl (figures_stepQueue engaged)
  case h_3 panic _ =>
    obtain ⟨middle, moved, rfl⟩ := Option.map_eq_some_iff.mp engaged
    have same := figures_stepQueue moved
    have contained : Counted executor (.producer index (.measuringPanicked panic))
        { executor.figures with panics := executor.figures.panics + 1 } := .contained rfl
    rw [← same] at contained
    exact contained
  case h_4 | h_8 =>
    split at engaged
    all_goals first
      | contradiction
      | rename_i taken
        cases engaged
        exact counted_of_same rfl (figures_takeReply taken rfl)
  case h_5 outcome was =>
    cases engaged
    exact .produced worker outcome found was
  case h_6 | h_9 =>
    cases engaged
    exact counted_of_same rfl rfl
  case h_11 => contradiction

theorem turnProducer_report (worker : ProducerWorker ρ) :
    turnProducer worker (.report : ProducerAct ρ α) = none := by
  unfold turnProducer
  cases worker.phase <;> rfl

theorem counted_of_stepProducer {act : ProducerAct ρ α}
    (stepped : executor.stepProducer index act = some next) :
    Counted executor (.producer index act) next.figures := by
  unfold stepProducer at stepped
  split at stepped
  · contradiction
  rename_i worker found
  split at stepped
  · rename_i phase turn
    cases stepped
    split
    · rename_i panics
      exact .contained (Option.isSome_of_eq_some panics)
    · rename_i calm
      refine counted_of_same ?_ rfl
      have unreported : act ≠ .report := by
        rintro rfl
        rw [turnProducer_report] at turn
        contradiction
      cases act <;> first | rfl | exact absurd rfl unreported | cases calm
  · exact counted_of_engage found stepped

theorem counted_of_engageConsumer {act : ConsumerAct β}
    (engaged : executor.engageConsumer act = some next) :
    Counted executor (.consumer act) next.figures := by
  unfold engageConsumer at engaged
  dsimp only at engaged
  split at engaged
  case h_1 => exact counted_of_same rfl (figures_beginPull engaged)
  case h_2 | h_8 =>
    split at engaged
    all_goals first
      | contradiction
      | rename_i taken
        cases engaged
        exact counted_of_same rfl (figures_takeReply taken rfl)
  case h_3 entry was =>
    rw [figures_beginPull engaged]
    exact .consumed entry was
  case h_4 status was =>
    cases engaged
    exact .reported status was
  case h_6 =>
    cases engaged
    split <;> exact counted_of_same rfl rfl
  case h_7 => exact counted_of_same rfl (figures_map engaged fun _ => rfl)
  case h_5 | h_9 =>
    cases engaged
    exact counted_of_same rfl rfl
  case h_10 => contradiction

theorem counted_of_stepConsumer {act : ConsumerAct β}
    (stepped : executor.stepConsumer act = some next) :
    Counted executor (.consumer act) next.figures := by
  unfold stepConsumer at stepped
  split at stepped
  · rename_i phase turn
    cases stepped
    split
    · rename_i panics
      exact .contained (Option.isSome_of_eq_some panics)
    · rename_i calm
      refine counted_of_same ?_ rfl
      unfold turnConsumer at turn
      split at turn <;> first | rfl | contradiction
  · exact counted_of_engageConsumer stepped

theorem figures_spawn {worker : Nat} (spawned : executor.spawn worker = some next) :
    next.figures = executor.figures := by
  unfold spawn at spawned
  split at spawned
  · cases spawned
    rfl
  · split at spawned
    · cases spawned
      rfl
    · exact figures_beginPull spawned

theorem figures_stepExecute {call : Nat} {act : ExecuteAct}
    (stepped : executor.stepExecute call act = some next) : next.figures = executor.figures := by
  unfold stepExecute at stepped
  split at stepped
  · contradiction
  dsimp only at stepped
  split at stepped
  case h_1 =>
    cases stepped
    split <;> rfl
  case h_4 hasParts hasSender _ =>
    cases stepped
    split
    · rfl
    · cases hasSender <;> rfl
  case h_6 =>
    split at stepped
    · cases stepped
      rfl
    split at stepped
    · cases stepped
      rfl
    · obtain ⟨middle, spawned, rfl⟩ := Option.map_eq_some_iff.mp stepped
      have same := figures_spawn spawned
      exact same
  case h_7 =>
    split at stepped
    · cases stepped
      rfl
    · split at stepped
      · cases stepped
        rfl
      · contradiction
  case h_8 | h_15 =>
    split at stepped
    · cases stepped
      rfl
    · contradiction
  all_goals first
    | contradiction
    | cases stepped
      rfl

/-- Steps that count nothing, one after the other. -/
theorem figures_foldl (change : Executor ρ α β → Nat → Executor ρ α β)
    (same : ∀ (executor : Executor ρ α β) worker,
      (change executor worker).figures = executor.figures) (workers : List Nat) :
    (workers.foldl change executor).figures = executor.figures := by
  induction workers generalizing executor with
  | nil => rfl
  | cons worker rest ih => rw [List.foldl_cons, ih, same]

theorem figures_raiseFlag (executor : Executor ρ α β) (worker : Nat) (raised : Bool) :
    (executor.raiseFlag worker raised).figures = executor.figures := by
  unfold raiseFlag
  split
  · rfl
  · split <;> rfl

theorem figures_takeHandle (executor : Executor ρ α β) (worker : Nat) :
    (executor.takeHandle worker).figures = executor.figures := by
  unfold takeHandle
  split <;> rfl

theorem figures_stepShutdown {call : Nat} (stepped : executor.stepShutdown call = some next) :
    next.figures = executor.figures := by
  unfold stepShutdown at stepped
  split at stepped
  · exact figures_map stepped fun _ => rfl
  · obtain ⟨⟨reply, middle⟩, taken, rfl⟩ := Option.map_eq_some_iff.mp stepped
    exact figures_takeReply taken rfl
  · split at stepped
    · cases stepped
      exact figures_foldl _ (fun executor worker => figures_raiseFlag executor worker true) _
    · contradiction
  · cases stepped
    rfl
  · contradiction
  · contradiction

theorem figures_stepAwait {call : Nat} (stepped : executor.stepAwait call = some next) :
    next.figures = executor.figures := by
  unfold stepAwait at stepped
  split at stepped
  · split at stepped
    · cases stepped
      exact figures_foldl takeHandle figures_takeHandle _
    · contradiction
  · split at stepped
    · cases stepped
      rfl
    · contradiction
  · cases stepped
    rfl
  · contradiction
  · contradiction

/-- Every step of an executor counts what it is there to count, and nothing else. -/
theorem counted_of_step (stepped : executor.step event = some next) :
    Counted executor event next.figures := by
  cases event with
  | enterQueue | notifyQueue | reportQueue =>
    exact counted_of_same rfl (figures_stepQueue stepped)
  | producer index act => exact counted_of_stepProducer stepped
  | consumer act => exact counted_of_stepConsumer stepped
  | executing call act => exact counted_of_same rfl (figures_stepExecute stepped)
  | shuttingDown call => exact counted_of_same rfl (figures_stepShutdown stepped)
  | awaiting call => exact counted_of_same rfl (figures_stepAwait stepped)
  | setFlag worker raised =>
    cases stepped
    exact counted_of_same rfl (figures_raiseFlag executor worker raised)
  | execute | await | shutdown =>
    cases stepped
    exact counted_of_same rfl rfl

/-! ### How a step takes one producer on -/

/-- A producer takes a step of its own, or is spawned, or is left where it is. -/
inductive Steps (index : Nat) (worker : ProducerWorker ρ) :
    Event ρ α β → ProducerPhase ρ → Prop
  | stays {event : Event ρ α β} (others : ∀ act, event ≠ .producer index act) :
      Steps index worker event worker.phase
  | born {event : Event ρ α β} {new : ProducerPhase ρ}
      (others : ∀ act, event ≠ .producer index act) (unborn : worker.phase = .unborn)
      (first : new = .hooking ∨ new = .sourcing none) : Steps index worker event new
  | turns {act : ProducerAct ρ α} {new : ProducerPhase ρ}
      (turn : turnProducer worker act = some new) : Steps index worker (.producer index act) new
  | engages {act : ProducerAct ρ α} {new : ProducerPhase ρ}
      (engages : Engages worker.kind worker.phase act new) :
      Steps index worker (.producer index act) new

/-- What a call spawns has just begun. -/
theorem phase_of_spawn {first : Nat} {old new : ProducerPhase ρ}
    (spawned : executor.spawn first = some next)
    (was : executor.snapshot.phases[index]? = some old)
    (there : next.snapshot.phases[index]? = some new) :
    new = old ∨ new = .hooking ∨ new = .sourcing none := by
  have stays : next.snapshot.phases = executor.snapshot.phases → new = old := by
    intro same
    rw [same, was] at there
    exact (Option.some.inj there).symm
  unfold spawn at spawned
  split at spawned
  · cases spawned
    rw [snapshot_setProducerPhase] at there
    rcases set_or_before there with ⟨-, rfl⟩ | before
    · split
      · exact .inr (.inl rfl)
      · exact .inr (.inr rfl)
    · rw [was] at before
      exact .inl (Option.some.inj before).symm
  · split at spawned
    · cases spawned
      exact .inl (stays rfl)
    · obtain ⟨-, same⟩ := snapshot_beginPull spawned
      exact .inl (stays (by rw [same]; rfl))

theorem steps_of_step {worker : ProducerWorker ρ} {new : ProducerPhase ρ}
    (started : executor.snapshot.Started) (stepped : executor.step event = some next)
    (found : executor.producers[index]? = some worker)
    (there : next.snapshot.phases[index]? = some new) : Steps index worker event new := by
  have was := phases_getElem? found
  by_cases own : ∃ act, event = .producer index act
  · obtain ⟨act, rfl⟩ := own
    obtain ⟨other, phase, here, now, goes⟩ := onward_of_stepProducer stepped
    cases found.symm.trans here
    cases there.symm.trans now
    exact goes.elim .turns .engages
  have others : ∀ act, event ≠ .producer index act := fun act mine => own ⟨act, mine⟩
  have move := move_of_step stepped
  by_cases unborn : worker.phase = .unborn
  · by_cases still : new = .unborn
    · rw [still, ← unborn]
      exact .stays others
    · have absent : ¬executor.snapshot.Spawned index := by
        have inside := (List.getElem?_eq_some_iff.mp was).1
        rintro (⟨phase, here, alive⟩ | ⟨same, -⟩)
        · rw [was, unborn] at here
          exact alive (Option.some.inj here).symm
        · exact Nat.ne_of_lt inside same
      have spawned : next.snapshot.Spawned index := .inl ⟨new, there, still⟩
      obtain ⟨call, first, rfl, calls, named, willing⟩ :=
        (spawned_before stepped spawned).resolve_left absent
      obtain ⟨middle, spawns, rfl⟩ := spawn_of_step stepped calls named willing
      rcases phase_of_spawn spawns was there with same | fresh
      · exact absurd (same.trans unborn) still
      · exact .born others unborn fresh
  · have stays := move.phase started others unborn was
    rw [stays] at there
    cases there
    exact .stays others

end Executor

end BoundedIngest

/-
Module: BoundedIngest.Proofs.Executor.Counting
Purpose: What the counters of inserted and of consumed entries show once the workers have ended.
Main exports:
  ProducerPhase.isUncounted, Executor.Booked, Chronicle.Tallied, Chronicle.tallied_of_run,
  Chronicle.recorded_counts, Chronicle.recorded_counts_omitted
-/
import BoundedIngest.Proofs.Executor.Figures
import BoundedIngest.Proofs.Executor.Ledger

namespace BoundedIngest

/-!
A producer adds to its counter once, right after its production has ended in whatever way, and
one whose hook fails has nothing to add.  The consumer adds to the counter of consumed entries
when the queue has ended.  If it fails on an entry it never comes to that, so what it has
consumed before does not show in the counter.
-/

variable {ρ α β : Type}

/-- The producer has yet to add to its counter, if it ever comes to that. -/
def ProducerPhase.isUncounted : ProducerPhase ρ → Bool
  | .unborn | .hooking | .sourcing _ | .offering _ | .transforming _ | .inserting
  | .reporting _ => true
  | _ => false

/-- The producer has not begun to produce. -/
def ProducerPhase.isFresh : ProducerPhase ρ → Bool
  | .unborn | .hooking => true
  | _ => false

/-- The consumer has yet to add to the counter, if it ever comes to that. -/
def ConsumerPhase.isUncounted : ConsumerPhase α β → Bool
  | .unborn | .hooking | .pulling | .consuming _ | .drained _ => true
  | _ => false

/-- The consumer has not begun to pull. -/
def ConsumerPhase.isFresh : ConsumerPhase α β → Bool
  | .unborn | .hooking => true
  | _ => false

namespace Executor

/-- The consumer fails on an entry. -/
def ConsumerAct.spoilsCount : ConsumerAct β → Bool
  | .consumeFailed _ | .consumePanicked _ => true
  | _ => false

def Event.spoilsCount : Event ρ α β → Bool
  | .consumer act => act.spoilsCount
  | _ => false

/-- The producer at a position adds to its counter. -/
def Event.reportsAt (index : Nat) : Event ρ α β → Bool
  | .producer other .report => other = index
  | _ => false

variable {executor next : Executor ρ α β} {event : Event ρ α β} {index : Nat}

/-! ### Names -/

theorem workerName_injective {other : Nat} (inside : index < executor.consumerIndex)
    (otherInside : other < executor.consumerIndex)
    (same : executor.workerName index = executor.workerName other) : index = other := by
  rw [workerName, workerName, if_pos inside, if_pos otherInside, String.append_right_inj,
    String.append_right_inj] at same
  have digits : Nat.toDigits 10 index = Nat.toDigits 10 other := by
    rw [← Nat.toList_repr, ← Nat.toList_repr]
    exact congrArg String.toList same
  have read : ∀ number, Nat.ofDigitChars 10 (Nat.toDigits 10 number) 0 = number := fun _ =>
    Nat.ofDigitChars_toDigits (by decide) (by decide)
  rw [← read index, digits, read]

theorem workerName_of_step (stepped : executor.step event = some next) (worker : Nat) :
    next.workerName worker = executor.workerName worker := by
  have config : next.config = executor.config := (officeMove_of_step stepped).config
  rw [workerName, workerName, config, consumerIndex_of_step stepped]

/-! ### One producer -/

/-- What the counter of a producer shows, given its phase and its own count. -/
structure Books (phase : ProducerPhase ρ) (produced counter : Nat) : Prop where
  fresh : phase.isFresh = true → produced = 0
  uncounted : phase.isUncounted = true → counter = 0
  counted : phase.isUncounted = false → counter = produced

/-- A producer that turns has not added to its counter, and it never will only if its hook has
failed. -/
theorem uncounted_of_turn {worker : ProducerWorker ρ} {act : ProducerAct ρ α}
    {new : ProducerPhase ρ} (turn : turnProducer worker act = some new) :
    worker.phase.isUncounted = true ∧ worker.phase ≠ .inserting ∧ new.isFresh = false ∧
      (new.isUncounted = true ∨ worker.phase.isFresh = true) := by
  have answers : ∀ halt, (answered worker.kind halt : ProducerPhase ρ).isFresh = false ∧
      (answered worker.kind halt : ProducerPhase ρ).isUncounted = true := by
    intro halt
    cases halt with
    | none => exact ⟨rfl, rfl⟩
    | some halt => cases worker.kind <;> exact ⟨rfl, rfl⟩
  unfold turnProducer at turn
  split at turn
  case h_11 => contradiction
  all_goals rename_i before
  all_goals rw [before]
  case h_2 =>
    cases turn
    exact ⟨rfl, by simp, rfl, .inr rfl⟩
  case h_5 | h_6 =>
    split at turn <;> cases turn
    exact ⟨rfl, by simp, rfl, .inl rfl⟩
  case h_8 =>
    cases turn
    split
    · exact ⟨rfl, by simp, (answers _).1, .inl (answers _).2⟩
    · exact ⟨rfl, by simp, rfl, .inl rfl⟩
  case h_9 | h_10 =>
    cases turn
    exact ⟨rfl, by simp, (answers _).1, .inl (answers _).2⟩
  all_goals
    cases turn
    exact ⟨rfl, by simp, rfl, .inl rfl⟩

/-- A producer that engages in something is past its counter afterwards if it was before, unless
it adds to its counter. -/
theorem uncounted_of_engages {kind : SourceKind} {old new : ProducerPhase ρ}
    {act : ProducerAct ρ α} (engages : Engages kind old act new) :
    new.isFresh = false ∧ (act ≠ .report → new.isUncounted = old.isUncounted) ∧
      (act = .report → old.isUncounted = true ∧ new.isUncounted = false) := by
  cases engages with
  | accepted => exact ⟨rfl, fun _ => rfl, by simp⟩
  | refused => cases kind <;> exact ⟨rfl, fun _ => rfl, by simp⟩
  | reports outcome =>
    refine ⟨?_, fun other => absurd rfl other, fun _ => ⟨rfl, ?_⟩⟩ <;>
      rcases outcome with - | - | error <;> rfl
  | records error first => cases first <;> exact ⟨rfl, fun _ => rfl, by simp⟩
  | inserts | measures | panics | closes | closed | signals | marks =>
    exact ⟨rfl, fun _ => rfl, by simp⟩

/-- The own count of a producer changes only when it takes the reply of an insert. -/
theorem produced_of_step (stepped : executor.step event = some next)
    (others : ∀ act, event = .producer index act →
      executor.snapshot.phases[index]? ≠ some .inserting) :
    next.snapshot.produced[index]? = executor.snapshot.produced[index]? := by
  have move := move_of_step stepped
  generalize next.snapshot = after at move
  cases move with
  | queue move => rw [move.frame.produced]
  | producer move =>
    rename_i other act
    cases move with
    | accepted count was call counted =>
      have apart : other ≠ index := by
        rintro rfl
        exact others act rfl was
      exact List.getElem?_set_ne apart
    | turned | inserts | measuringFailed | declined | reported | recorded | discarded | closes
    | closed | signalled | marked => rfl
  | consumer move => rw [move.frame.produced]
  | caller move => rw [move.frame.produced]
  | user mine move => rw [move.frame.produced]
  | still => rfl

/-- Every producer has added to its counter what it has counted, or will. -/
def Booked (executor : Executor ρ α β) : Prop :=
  ∀ index worker, executor.producers[index]? = some worker →
    Books worker.phase worker.produced
      (executor.figures.produced.count (executor.workerName index))

theorem booked_create (config : ExecutorConfig) (hooked : Bool) (kinds : List SourceKind) :
    (create config hooked kinds : Executor ρ α β).Booked := by
  intro index worker found
  obtain ⟨kind, -, rfl⟩ := List.mem_map.mp (List.mem_of_getElem? found)
  exact ⟨fun _ => rfl, fun _ => rfl, nofun⟩

/-- What a step adds to the counter of one producer. -/
theorem counter_of_step {worker : ProducerWorker ρ}
    (stepped : executor.step event = some next)
    (found : executor.producers[index]? = some worker) :
    next.figures.produced.count (executor.workerName index) =
      executor.figures.produced.count (executor.workerName index) +
        if event.reportsAt index then worker.produced else 0 := by
  have counted := counted_of_step stepped
  generalize next.figures = figures at counted
  have inside := (List.getElem?_eq_some_iff.mp found).1
  have nothing : event.reportsAt index = false →
      executor.figures.produced.count (executor.workerName index) =
        executor.figures.produced.count (executor.workerName index) +
          if event.reportsAt index then worker.produced else 0 := by
    intro silent
    rw [silent]
    rfl
  have silent : event.isCounted = false ∨ event.isPanic = true → event.reportsAt index = false := by
    intro quiet
    unfold Event.reportsAt
    split
    · rcases quiet with quiet | quiet <;> contradiction
    · rfl
  cases counted with
  | still uncounted => exact nothing (silent (.inl uncounted))
  | contained panics => exact nothing (silent (.inr panics))
  | consumed entry was => rfl
  | reported status was => rfl
  | produced other outcome here was =>
    rename_i first
    rw [Tally.count_add, Event.reportsAt]
    by_cases mine : first = index
    · subst mine
      cases found.symm.trans here
      simp
    · have apart : executor.workerName index ≠ executor.workerName first := fun same =>
        mine (workerName_injective inside (List.getElem?_eq_some_iff.mp here).1 same).symm
      simp [apart, mine]

/-- What a producer counts itself stays the same while it is not inserting. -/
theorem produced_kept {old worker : ProducerWorker ρ} (stepped : executor.step event = some next)
    (found : executor.producers[index]? = some old) (there : next.producers[index]? = some worker)
    (aside : ∀ act, event = .producer index act → old.phase ≠ .inserting) :
    worker.produced = old.produced := by
  have same : next.snapshot.produced[index]? = executor.snapshot.produced[index]? :=
    produced_of_step stepped fun act mine inserting =>
      aside act mine (by simpa [phases_getElem? found] using inserting)
  rw [produced_getElem? there, produced_getElem? found] at same
  exact Option.some.inj same

theorem reportsAt_of_others (others : ∀ act, event ≠ .producer index act) :
    event.reportsAt index = false := by
  unfold Event.reportsAt
  split
  · rename_i other
    exact decide_eq_false fun same => others .report (by rw [same])
  · rfl

theorem reportsAt_of_turn {worker : ProducerWorker ρ} {act : ProducerAct ρ α}
    {new : ProducerPhase ρ} (turn : turnProducer worker act = some new) :
    (Event.producer index act : Event ρ α β).reportsAt index = false := by
  unfold Event.reportsAt
  split
  · rename_i same
    cases same
    rw [turnProducer_report] at turn
    contradiction
  · rfl

/-- A worker that begins has inserted nothing. -/
theorem Books.born {new : ProducerPhase ρ} {produced counter : Nat}
    (books : Books (.unborn : ProducerPhase ρ) produced counter)
    (first : new = .hooking ∨ new = .sourcing none) : Books new produced counter := by
  have nothing : new.isFresh = true → produced = 0 := fun _ => books.fresh rfl
  have silent : new.isUncounted = true → counter = 0 := fun _ => books.uncounted rfl
  refine ⟨nothing, silent, fun past => ?_⟩
  rcases first with rfl | rfl
  · contradiction
  · contradiction

theorem Books.turned {worker : ProducerWorker ρ} {act : ProducerAct ρ α} {new : ProducerPhase ρ}
    {produced counter : Nat} (books : Books worker.phase produced counter)
    (turn : turnProducer worker act = some new) : Books new produced counter := by
  obtain ⟨before, -, begun, goes⟩ := uncounted_of_turn turn
  have silent := books.uncounted before
  refine ⟨fun fresh => ?_, fun _ => silent, fun past => ?_⟩
  · rw [begun] at fresh
    contradiction
  · rcases goes with later | unbegun
    · rw [past] at later
      contradiction
    · rw [silent, books.fresh unbegun]

/-- While a producer does not add to its counter, only an insert changes its own count. -/
theorem Books.engaged {kind : SourceKind} {old new : ProducerPhase ρ} {act : ProducerAct ρ α}
    {produced after counter : Nat} (books : Books old produced counter)
    (engages : Engages kind old act new) (silent : act ≠ .report)
    (kept : old ≠ .inserting → after = produced) : Books new after counter := by
  obtain ⟨begun, stays, -⟩ := uncounted_of_engages engages
  refine ⟨fun fresh => ?_, fun yet => books.uncounted ((stays silent).symm.trans yet),
    fun past => ?_⟩
  · rw [begun] at fresh
    contradiction
  · have before := (stays silent).symm.trans past
    rw [kept fun inserting => by simp [inserting, ProducerPhase.isUncounted] at before]
    exact books.counted before

/-- When it adds to its counter, the two agree. -/
theorem Books.reported {kind : SourceKind} {old new : ProducerPhase ρ}
    {produced counter : Nat} (books : Books old produced counter)
    (engages : Engages kind old (.report : ProducerAct ρ α) new) :
    Books new produced (counter + produced) := by
  obtain ⟨begun, -, reports⟩ := uncounted_of_engages engages
  obtain ⟨before, after⟩ := reports rfl
  rw [books.uncounted before, Nat.zero_add]
  refine ⟨fun fresh => ?_, fun yet => ?_, fun _ => rfl⟩
  · rw [begun] at fresh
    contradiction
  · rw [after] at yet
    contradiction

theorem Booked.step (booked : executor.Booked) (started : executor.snapshot.Started)
    (stepped : executor.step event = some next) : next.Booked := by
  intro index worker there
  have inside : index < executor.producers.length := by
    have bound := (List.getElem?_eq_some_iff.mp there).1
    have same := consumerIndex_of_step stepped
    simp only [consumerIndex] at same
    omega
  obtain ⟨old, found⟩ : ∃ old, executor.producers[index]? = some old :=
    ⟨_, List.getElem?_eq_getElem inside⟩
  have books := booked index old found
  have phase := phases_getElem? there
  have counter := counter_of_step stepped found
  have kept := produced_kept stepped found there
  rw [workerName_of_step stepped, counter]
  generalize worker.phase = new at phase
  cases steps_of_step started stepped found phase with
  | stays elsewhere =>
    rw [reportsAt_of_others elsewhere, if_neg Bool.false_ne_true, Nat.add_zero,
      kept fun act mine => absurd mine (elsewhere act)]
    exact books
  | born elsewhere unborn first =>
    rw [reportsAt_of_others elsewhere, if_neg Bool.false_ne_true, Nat.add_zero,
      kept fun act mine => absurd mine (elsewhere act)]
    rw [unborn] at books
    exact books.born first
  | turns turn =>
    have away := (uncounted_of_turn turn).2.1
    rw [reportsAt_of_turn turn, if_neg Bool.false_ne_true, Nat.add_zero, kept fun _ _ => away]
    exact books.turned turn
  | engages engages =>
    rename_i act
    by_cases mine : act = .report
    · subst mine
      have away : old.phase ≠ .inserting := by
        intro inserting
        rw [inserting] at engages
        cases engages
      rw [Event.reportsAt, if_pos (decide_eq_true rfl), kept fun _ _ => away]
      exact books.reported engages
    · have silent : (Event.producer index act : Event ρ α β).reportsAt index = false := by
        cases act <;> first | rfl | exact absurd rfl mine
      rw [silent, if_neg Bool.false_ne_true, Nat.add_zero]
      exact books.engaged engages mine fun away => kept fun _ _ => away

theorem Booked.run {producers : Nat} {history : History ρ α β} {events : List (Event ρ α β)}
    (booked : executor.Booked) (reached : Reached producers executor.snapshot history)
    (ran : executor.run events = some next) : next.Booked := by
  induction events generalizing executor history with
  | nil =>
    cases ran
    exact booked
  | cons event rest ih =>
    obtain ⟨middle, stepped, ran⟩ := Option.bind_eq_some_iff.mp ran
    exact ih (booked.step reached.started stepped) (.move reached (move_of_step stepped)) ran

end Executor

/-! ### The consumer -/

/-- How a step of the consumer leads past the counter of consumed entries. -/
inductive ConsumerPhase.PassesCounter (old : ConsumerPhase α β) (act : Executor.ConsumerAct β)
    (new : ConsumerPhase α β) : Prop
  /-- It stays on its side. -/
  | onward (other : act ≠ .report) (unspoiled : act.spoilsCount = false)
      (eats : act = .consumed → old.isUncounted = true)
      (same : new.isUncounted = old.isUncounted)
  /-- It adds to the counter. -/
  | reports (mine : act = .report) (before : old.isUncounted = true)
      (after : new.isUncounted = false)
  /-- Its hook has failed. -/
  | unhooked (panic : Panic) (mine : act = .hookPanicked panic) (fresh : old.isFresh = true)
      (before : old.isUncounted = true) (after : new.isUncounted = false)
  /-- It has failed on an entry. -/
  | spoils (other : act ≠ .report) (spoiled : act.spoilsCount = true)
      (before : old.isUncounted = true) (after : new.isUncounted = false)

theorem passesCounter_of_turn {old new : ConsumerPhase α β} {act : Executor.ConsumerAct β}
    (turn : Executor.turnConsumer old act = some new) :
    new.isFresh = false ∧ old.PassesCounter act new := by
  unfold Executor.turnConsumer at turn
  split at turn <;> cases turn
  case h_1 panic => exact ⟨rfl, .unhooked panic rfl rfl rfl rfl⟩
  case h_2 | h_3 => exact ⟨rfl, .spoils (by simp) rfl rfl rfl⟩
  case h_4 | h_5 | h_6 | h_7 | h_8 => exact ⟨rfl, .onward (by simp) rfl (by simp) rfl⟩

theorem ConsumerMove.passesCounter {snapshot next : Snapshot ρ α β}
    {act : Executor.ConsumerAct β} (move : ConsumerMove snapshot act next) :
    next.consumer.isFresh = false ∧ snapshot.consumer.PassesCounter act next.consumer := by
  cases move with
  | turned act new turn => exact passesCounter_of_turn turn
  | reports status was =>
    rw [was]
    cases status <;> exact ⟨rfl, .reports rfl rfl rfl⟩
  | goesOn entry was free =>
    rw [was]
    exact ⟨rfl, .onward (by simp) rfl (fun _ => rfl) rfl⟩
  | starts was | receives entry was | drains status was | delivers result was
  | recorded error was | discarded error was | closes was | closed was | signalled was =>
    rw [was]
    exact ⟨rfl, .onward (by simp) rfl (by simp) rfl⟩

namespace Chronicle

open Executor

variable {config : ExecutorConfig} {hooked : Bool} {kinds : List SourceKind}
  {events : List (Executor.Event ρ α β)} {chronicle next final : Chronicle ρ α β}
  {event : Executor.Event ρ α β} {spoiled : Bool}

/-- What the counter of consumed entries shows, given whether the consumer has failed on an
entry. -/
structure Tallied (spoiled : Bool) (chronicle : Chronicle ρ α β) : Prop where
  /-- The consumer's own count. -/
  running : chronicle.executor.figures.consumed = chronicle.history.consumed.length
  fresh : chronicle.executor.snapshot.consumer.isFresh = true → chronicle.history.consumed = []
  uncounted : chronicle.executor.snapshot.consumer.isUncounted = true →
    chronicle.executor.figures.reported = none ∧ spoiled = false
  counted : chronicle.executor.snapshot.consumer.isUncounted = false →
    chronicle.executor.figures.reported.getD 0 =
      if spoiled then 0 else chronicle.history.consumed.length

theorem tallied_start (config : ExecutorConfig) (hooked : Bool) (kinds : List SourceKind) :
    Tallied false (start config hooked kinds : Chronicle ρ α β) :=
  ⟨rfl, fun _ => rfl, fun _ => ⟨rfl, rfl⟩, nofun⟩

/-- Only the consumer that has consumed an entry adds to what was consumed. -/
theorem consumed_of_step (stepped : chronicle.step event = some next)
    (other : event ≠ .consumer .consumed) :
    next.history.consumed = chronicle.history.consumed := by
  obtain ⟨executor, moved, rfl⟩ := Option.map_eq_some_iff.mp stepped
  dsimp only [History.extend]
  split
  · exact absurd rfl other
  · rfl

/-- The consumer counts what it has consumed. -/
theorem running_of_step
    (running : chronicle.executor.figures.consumed = chronicle.history.consumed.length)
    (stepped : chronicle.step event = some next) :
    next.executor.figures.consumed = next.history.consumed.length := by
  have counted := counted_of_step (executor_of_step stepped)
  have same : event ≠ .consumer .consumed →
      next.history.consumed.length = chronicle.executor.figures.consumed := by
    intro other
    rw [consumed_of_step stepped other, running]
  generalize next.executor.figures = after at counted
  cases counted with
  | still uncounted =>
    refine (same ?_).symm
    rintro rfl
    contradiction
  | contained panics =>
    refine (same ?_).symm
    rintro rfl
    contradiction
  | produced | reported => exact (same (by simp)).symm
  | consumed entry was =>
    obtain ⟨executor, moved, rfl⟩ := Option.map_eq_some_iff.mp stepped
    simp [History.extend, Executor.snapshot, was, running]

/-- A step of somebody other than the consumer, who perhaps spawns it. -/
theorem Tallied.others (tallied : Tallied spoiled chronicle)
    (stepped : chronicle.step event = some next) (others : ∀ act, event ≠ .consumer act)
    (phase : next.executor.snapshot.consumer = chronicle.executor.snapshot.consumer ∨
      (chronicle.executor.snapshot.consumer = .unborn ∧
        (next.executor.snapshot.consumer = .hooking ∨
          next.executor.snapshot.consumer = .pulling))) : Tallied spoiled next := by
  have running := running_of_step tallied.running stepped
  have history := consumed_of_step stepped (others _)
  have reported : next.executor.figures.reported = chronicle.executor.figures.reported := by
    have counted := counted_of_step (executor_of_step stepped)
    generalize next.executor.figures = after at counted
    cases counted with
    | still | contained | produced => rfl
    | consumed | reported => exact absurd rfl (others _)
  obtain ⟨-, fresh, uncounted, counted⟩ := tallied
  rcases phase with same | ⟨unborn, begun⟩
  · constructor
    · exact running
    · rwa [history, same]
    · rwa [reported, same]
    · rwa [reported, history, same]
  · rw [unborn] at fresh uncounted
    constructor
    · exact running
    · rw [history]
      exact fun _ => fresh rfl
    · rw [reported]
      exact fun _ => uncounted rfl
    · intro past
      rcases begun with begun | begun <;> rw [begun] at past <;> contradiction

/-- A step of the consumer. -/
theorem Tallied.consumer {act : ConsumerAct β} (tallied : Tallied spoiled chronicle)
    (stepped : chronicle.step (.consumer act) = some next) :
    Tallied (spoiled || act.spoilsCount) next := by
  have onExecutor := executor_of_step stepped
  have running := running_of_step tallied.running stepped
  have counted := counted_of_step onExecutor
  have kept : act ≠ .report →
      next.executor.figures.reported = chronicle.executor.figures.reported := by
    intro other
    generalize next.executor.figures = after at counted
    cases counted with
    | still | contained | consumed => rfl
    | reported => exact absurd rfl other
  have history : act ≠ .consumed → next.history.consumed = chronicle.history.consumed :=
    fun other => consumed_of_step stepped (by simpa using other)
  obtain ⟨begun, passes⟩ := (move_of_stepConsumer onExecutor).passesCounter
  have unfresh : next.executor.snapshot.consumer.isFresh = true → next.history.consumed = [] := by
    intro fresh
    rw [begun] at fresh
    contradiction
  have past : next.executor.snapshot.consumer.isUncounted = false →
      next.executor.snapshot.consumer.isUncounted = true →
      next.executor.figures.reported = none ∧ (spoiled || act.spoilsCount) = false := by
    intro after yet
    rw [after] at yet
    contradiction
  cases passes with
  | onward other unspoiled eats same =>
    rw [unspoiled, Bool.or_false]
    refine ⟨running, unfresh, ?_, fun after => ?_⟩
    · rw [kept other, same]
      exact tallied.uncounted
    · rw [same] at after
      have fasts : act ≠ .consumed := by
        intro ate
        rw [eats ate] at after
        contradiction
      rw [kept other, history fasts]
      exact tallied.counted after
  | reports mine before after =>
    subst mine
    refine ⟨running, unfresh, past after, fun _ => ?_⟩
    obtain ⟨none, unspoiled⟩ := tallied.uncounted before
    have shown : next.executor.figures.reported =
        some (chronicle.executor.figures.reported.getD 0 +
          chronicle.executor.figures.consumed) := by
      generalize next.executor.figures = figures at counted
      cases counted with
      | still | contained => contradiction
      | reported => rfl
    rw [shown, none, unspoiled, history (by simp), tallied.running]
    simp [ConsumerAct.spoilsCount]
  | unhooked panic mine fresh before after =>
    subst mine
    refine ⟨running, unfresh, past after, fun _ => ?_⟩
    obtain ⟨none, unspoiled⟩ := tallied.uncounted before
    rw [kept (by simp), none, unspoiled, history (by simp), tallied.fresh fresh]
    rfl
  | spoils other spoils before after =>
    refine ⟨running, unfresh, past after, fun _ => ?_⟩
    obtain ⟨none, -⟩ := tallied.uncounted before
    rw [kept other, none, spoils, Bool.or_true]
    rfl

theorem Tallied.step (tallied : Tallied spoiled chronicle)
    (reached : Reached kinds.length chronicle.executor.snapshot chronicle.history)
    (stepped : chronicle.step event = some next) :
    Tallied (spoiled || event.spoilsCount) next := by
  have onExecutor := executor_of_step stepped
  by_cases own : ∃ act, event = .consumer act
  · obtain ⟨act, rfl⟩ := own
    exact tallied.consumer stepped
  have others : ∀ act, event ≠ .consumer act := fun act mine => own ⟨act, mine⟩
  have unspoiled : event.spoilsCount = false := by
    cases event <;> first | rfl | exact absurd rfl (others _)
  rw [unspoiled, Bool.or_false]
  refine tallied.others stepped others ?_
  have move := move_of_step onExecutor
  generalize next.executor.snapshot = after at move
  cases move with
  | queue move => exact .inl move.frame.consumer
  | producer move => exact .inl move.frame.consumer
  | consumer move => exact absurd rfl (others _)
  | caller move =>
    have frame := move.frame
    rcases frame.consumer with same | ⟨⟨worker, found⟩, begun⟩
    · exact .inl same
    · exact .inr ⟨(reached.started.frontier _ found worker rfl).1, begun⟩
  | user mine move => exact .inl move.frame.consumer
  | still => exact .inl rfl

theorem tallied_of_run (tallied : Tallied spoiled chronicle)
    (reached : Reached kinds.length chronicle.executor.snapshot chronicle.history)
    (ran : chronicle.run events = some final) :
    Tallied (spoiled || events.any Executor.Event.spoilsCount) final := by
  induction events generalizing chronicle spoiled with
  | nil =>
    cases ran
    rwa [List.any_nil, Bool.or_false]
  | cons event rest ih =>
    obtain ⟨middle, stepped, ran⟩ := Option.bind_eq_some_iff.mp ran
    have later := ih (tallied.step reached stepped) (reached_of_step reached stepped) ran
    rwa [Bool.or_assoc] at later

/-! ### Once the workers have ended -/

/-- A producer that runs no more has added to its counter what it has counted. -/
theorem counter_of_ended {worker : ProducerWorker ρ} {index : Nat}
    (booked : chronicle.executor.Booked)
    (found : chronicle.executor.producers[index]? = some worker)
    (past : worker.phase = .unborn ∨ worker.phase = .ended) :
    chronicle.executor.figures.produced.count (chronicle.executor.workerName index) =
      worker.produced := by
  obtain ⟨fresh, uncounted, counted⟩ := booked index worker found
  rcases past with unborn | ended
  · rw [uncounted (by rw [unborn]; rfl), fresh (by rw [unborn]; rfl)]
  · exact counted (by rw [ended]; rfl)

/-- What a producer has counted is what it has inserted, unless an insert is under way. -/
theorem pushedBy_of_ended {worker : ProducerWorker ρ} {index : Nat}
    (reached : Reached kinds.length chronicle.executor.snapshot chronicle.history)
    (found : chronicle.executor.producers[index]? = some worker)
    (past : worker.phase = .unborn ∨ worker.phase = .ended) :
    (chronicle.history.pushedBy index).length = worker.produced := by
  have balance := reached.ledger.balance index _ (produced_getElem? found)
  obtain ⟨outline, call, errand⟩ := reached.agreement.producer_outline (phases_getElem? found)
  have nothing : outline.errand = .nothing := by
    rw [errand]
    rcases past with unborn | ended
    · rw [unborn]
      rfl
    · rw [ended]
      rfl
  have none : chronicle.executor.snapshot.pending index = 0 := by
    rw [Snapshot.pending_of call]
    cases outline <;> first | rfl | contradiction
  rw [balance, none, Nat.add_zero]

/-- Whatever has happened: once every worker that was spawned has ended, the counter of each
producer shows how many entries it has inserted, and the counter of consumed entries shows how
many have been consumed well, unless the consumer has failed on an entry, in which case it shows
nothing. -/
theorem recorded_counts (ran : (start config hooked kinds).run events = some chronicle)
    (ended : ∀ worker ∈ chronicle.executor.workers,
      chronicle.executor.isSpawned worker = true → chronicle.executor.hasEnded worker = true) :
    (∀ index < kinds.length,
      chronicle.executor.shared.metrics.produced.count (chronicle.executor.workerName index) =
        (chronicle.history.pushedBy index).length) ∧
    chronicle.executor.shared.metrics.consumed.getD 0 =
      if events.any Executor.Event.spoilsCount then 0 else chronicle.history.consumed.length := by
  have reached := reached_of_start ran
  have length := reached.length_phases
  constructor
  · intro index inside
    rw [← length, length_phases] at inside
    have found := List.getElem?_eq_getElem inside
    generalize chronicle.executor.producers[index] = worker at found
    have here := phases_getElem? found
    have booked : chronicle.executor.Booked :=
      (booked_create config hooked kinds).run (reached_start config hooked kinds)
        (executor_of_run ran)
    have past : worker.phase = .unborn ∨ worker.phase = .ended := by
      by_cases unborn : worker.phase = .unborn
      · exact .inl unborn
      have present : index ∈ chronicle.executor.workers :=
        mem_workers.mpr (by rw [length_phases]; exact Nat.le_of_lt inside)
      have past := ended index present (isSpawned_iff.mpr (.inl ⟨_, here, unborn⟩))
      rcases hasEnded_iff.mp past with now | ⟨same, -⟩
      · rw [here] at now
        exact .inr (Option.some.inj now)
      · rw [length_phases] at same
        exact absurd same (Nat.ne_of_lt inside)
    rw [pushedBy_of_ended reached found past]
    exact counter_of_ended booked found past
  · have tallied := tallied_of_run (tallied_start config hooked kinds)
      (reached_start config hooked kinds) ran
    rw [Bool.false_or] at tallied
    by_cases unborn : chronicle.executor.snapshot.consumer = .unborn
    · obtain ⟨none, unspoiled⟩ := tallied.uncounted (by rw [unborn]; rfl)
      have nothing := tallied.fresh (by rw [unborn]; rfl)
      have counter : chronicle.executor.shared.metrics.consumed = .none := none
      rw [counter, unspoiled, nothing]
      rfl
    · have past := ended _ (mem_workers.mpr (Nat.le_refl _))
        (isSpawned_iff.mpr (.inr ⟨rfl, unborn⟩))
      rcases hasEnded_iff.mp past with inside | ⟨-, ended⟩
      · exact absurd (List.getElem?_eq_some_iff.mp inside).1 (Nat.lt_irrefl _)
      · exact tallied.counted (by rw [ended]; rfl)

/-- A producer inserts two entries and ends, and the consumer is passed both of them, one after
the other. -/
def twoEntries : List (Executor.Event Nat Nat Nat) :=
  [.execute, .executing 0 (.readFlag false), .executing 0 .proceed, .executing 0 .proceed,
    .executing 0 .proceed, .executing 0 .proceed, .executing 0 .proceed, .executing 0 .proceed,
    .producer 0 (.offered 7), .producer 0 .checkFlag, .producer 0 (.transformed 1),
    .producer 0 (.measured 10), .enterQueue 0, .notifyQueue 0 none, .reportQueue 0,
    .producer 0 .inserted, .producer 0 (.offered 8), .producer 0 .checkFlag,
    .producer 0 (.transformed 2), .producer 0 (.measured 10), .enterQueue 0, .notifyQueue 0 none,
    .reportQueue 0, .producer 0 .inserted, .producer 0 .sourceEnded, .producer 0 .report,
    .producer 0 .markDone, .enterQueue 1, .notifyQueue 1 none, .reportQueue 1, .consumer .pulled,
    .consumer .consumed, .enterQueue 1, .notifyQueue 1 none, .reportQueue 1, .consumer .pulled]

/-- The second entry is consumed as well, and the result is sent. -/
def goesWell : List (Executor.Event Nat Nat Nat) :=
  [.consumer .consumed, .enterQueue 1, .consumer .pulled, .consumer .report, .consumer .finished,
    .consumer (.concluded 0), .consumer .deliver]

/-- The consumer fails on the second entry. -/
def goesWrong : List (Executor.Event Nat Nat Nat) :=
  [.consumer (.consumeFailed "bad record"), .consumer .recordFailure, .consumer .closeQueue,
    .consumer .closed, .consumer .signal]

theorem recorded_counts_inhabited :
    ∃ chronicle : Chronicle Nat Nat Nat,
      (start {} false [.records]).run (twoEntries ++ goesWell) = some chronicle ∧
        chronicle.executor.shared.metrics.produced.count "spool-producer-0" = 2 ∧
        chronicle.executor.shared.metrics.consumed.getD 0 = 2 := by
  have runs : ((start {} false [.records]).run (twoEntries ++ goesWell)).map
      (fun chronicle : Chronicle Nat Nat Nat => (chronicle.executor.workers.all
        (fun worker => chronicle.executor.hasEnded worker),
        (chronicle.history.pushedBy 0).length, chronicle.history.consumed.length,
        chronicle.executor.workerName 0)) = some (true, 2, 2, "spool-producer-0") := by
    decide +kernel
  obtain ⟨chronicle, ran, facts⟩ := Option.map_eq_some_iff.mp runs
  simp only [Prod.mk.injEq, List.all_eq_true] at facts
  obtain ⟨ended, pushed, consumed, name⟩ := facts
  have well : (twoEntries ++ goesWell).any Executor.Event.spoilsCount = false := by decide
  obtain ⟨produced, counted⟩ := recorded_counts ran fun worker present _ => ended worker present
  refine ⟨chronicle, ran, ?_, ?_⟩
  · rw [← name, produced 0 (by decide), pushed]
  · rw [counted, well, consumed]
    rfl

/-- A consumer that fails on the second entry has consumed the first one well, and the counter
shows nothing. -/
theorem recorded_counts_omitted :
    ¬ ∀ (config : ExecutorConfig) (hooked : Bool) (kinds : List SourceKind)
        (events : List (Executor.Event Nat Nat Nat)) (chronicle : Chronicle Nat Nat Nat),
        (start config hooked kinds).run events = some chronicle →
        (∀ worker ∈ chronicle.executor.workers, chronicle.executor.hasEnded worker = true) →
        chronicle.executor.shared.metrics.consumed.getD 0 =
          chronicle.history.consumed.length := by
  intro claimed
  have runs : ((start {} false [.records]).run (twoEntries ++ goesWrong)).map
      (fun chronicle : Chronicle Nat Nat Nat => (chronicle.executor.workers.all
        (fun worker => chronicle.executor.hasEnded worker),
        chronicle.executor.shared.metrics.consumed, chronicle.history.consumed.length)) =
      some (true, none, 1) := by
    decide +kernel
  obtain ⟨chronicle, ran, facts⟩ := Option.map_eq_some_iff.mp runs
  simp only [Prod.mk.injEq, List.all_eq_true] at facts
  obtain ⟨ended, counter, consumed⟩ := facts
  have same := claimed _ _ _ _ chronicle ran ended
  rw [counter, consumed] at same
  contradiction

end Chronicle

end BoundedIngest

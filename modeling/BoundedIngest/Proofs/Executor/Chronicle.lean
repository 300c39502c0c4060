/-
Module: BoundedIngest.Proofs.Executor.Chronicle
Purpose: What has happened in a run so far, and what holds in every run.
Main exports:
  Request, History, History.extend, Chronicle, Chronicle.step, Chronicle.run, Reached,
  Chronicle.reached_of_run, Executor.reached_of_run
-/
import BoundedIngest.Proofs.Executor.Moves

namespace BoundedIngest

/-!
The state of an executor forgets what is over.  A history remembers what was inserted, what
the consumer was asked for, what it answered and which signals were sent.  It is written
beside a run and decides nothing in it.
-/

/-- A call of one of the consumer's own callbacks. -/
inductive Request (α : Type) where
  | consume (entry : α)
  | finish
  /-- The result is asked for. -/
  | conclude
deriving Repr, DecidableEq

structure History (ρ α β : Type) where
  /-- The records offered by the sources, each with its producer. -/
  offered : List (Nat × ρ) := []
  /-- The entries inserted, each with its producer, in the order of insertion. -/
  pushed : List (Nat × α) := []
  /-- The entries that were in the queue when it was closed. -/
  dropped : List α := []
  requests : List (Request α) := []
  /-- The entries whose consumption went well. -/
  consumed : List α := []
  /-- The results that the consumer gave. -/
  results : List β := []
  /-- All signals ever sent. -/
  signals : List (Signal β) := []

variable {ρ α β : Type}

/-- The callback that runs in a phase. -/
def ConsumerPhase.request? : ConsumerPhase α β → Option (Request α)
  | .consuming entry => some (.consume entry)
  | .finishing => some .finish
  | .concluding => some .conclude
  | _ => none

def Request.entry? : Request α → Option α
  | .consume entry => some entry
  | _ => none

namespace History

/-- The entries that were passed to the consumer. -/
def passed (history : History ρ α β) : List α := history.requests.filterMap Request.entry?

/-- The entries inserted by one producer. -/
def pushedBy (history : History ρ α β) (index : Nat) : List α :=
  (history.pushed.filter (·.1 == index)).map (·.2)

/-- The records offered to one producer. -/
def offeredTo (history : History ρ α β) (index : Nat) : List ρ :=
  (history.offered.filter (·.1 == index)).map (·.2)

/-- What one step adds to a history. -/
def extend (history : History ρ α β) (before : Snapshot ρ α β) (event : Executor.Event ρ α β)
    (after : Snapshot ρ α β) : History ρ α β :=
  { offered :=
      match event with
      | .producer index (.offered record) => history.offered ++ [(index, record)]
      | _ => history.offered
    pushed :=
      match event with
      | .enterQueue caller =>
          history.pushed ++ (after.buffer.drop before.buffer.length).map (caller, ·)
      | _ => history.pushed
    dropped :=
      if before.closed = false ∧ after.closed = true then history.dropped ++ before.buffer
      else history.dropped
    requests :=
      match event with
      | .consumer _ => history.requests ++ after.consumer.request?.toList
      | _ => history.requests
    consumed :=
      match event, before.consumer with
      | .consumer .consumed, .consuming entry => history.consumed ++ [entry]
      | _, _ => history.consumed
    results :=
      match event with
      | .consumer (.concluded result) => history.results ++ [result]
      | _ => history.results
    signals := history.signals ++ after.messages.drop before.messages.length }

variable {history : History ρ α β} {before after : Snapshot ρ α β}
  {event : Executor.Event ρ α β}

/-- A step that sends nothing. -/
theorem signals_extend_same (fewer : after.messages.length ≤ before.messages.length) :
    (history.extend before event after).signals = history.signals := by
  simp [extend, fewer]

theorem signals_extend_append {sent : List (Signal β)}
    (messages : after.messages = before.messages ++ sent) :
    (history.extend before event after).signals = history.signals ++ sent := by
  simp [extend, messages]

/-- A step that does not close the queue. -/
theorem dropped_extend_same (same : after.closed = before.closed) :
    (history.extend before event after).dropped = history.dropped := by
  simp [extend, same]

theorem passed_extend_consumer {act : Executor.ConsumerAct β} :
    (history.extend before (.consumer act) after).passed =
      history.passed ++ after.consumer.request?.toList.filterMap Request.entry? := by
  simp [extend, passed]

theorem passed_extend_idle {act : Executor.ConsumerAct β}
    (idle : ∀ entry, after.consumer ≠ .consuming entry) :
    (history.extend before (.consumer act) after).passed = history.passed := by
  rw [passed_extend_consumer]
  cases phase : after.consumer with
  | consuming entry => exact absurd phase (idle entry)
  | finishing | concluding => exact List.append_nil _
  | unborn | hooking | pulling | drained | delivering | failing | alarmed | closing
  | signalling | ended => exact List.append_nil _

/-- A step of somebody other than the consumer. -/
theorem requests_extend_others (others : ∀ act, event ≠ .consumer act) :
    (history.extend before event after).requests = history.requests := by
  cases event <;> first | rfl | exact absurd rfl (others _)

theorem passed_extend_others (others : ∀ act, event ≠ .consumer act) :
    (history.extend before event after).passed = history.passed := by
  rw [passed, requests_extend_others others, passed]

/-- Only a call that takes the lock inserts. -/
theorem pushed_extend_others (others : ∀ caller, event ≠ .enterQueue caller) :
    (history.extend before event after).pushed = history.pushed := by
  cases event <;> first | rfl | exact absurd rfl (others _)

theorem pushedBy_append {later : History ρ α β} {caller : Nat} {entry : α}
    (pushed : later.pushed = history.pushed ++ [(caller, entry)]) (index : Nat) :
    later.pushedBy index =
      history.pushedBy index ++ if caller = index then [entry] else [] := by
  rw [pushedBy, pushed, pushedBy, List.filter_append, List.map_append]
  by_cases same : caller = index <;> simp [same]

end History

/-- An executor and what has happened to it. -/
structure Chronicle (ρ α β : Type) where
  executor : Executor ρ α β
  history : History ρ α β := {}

namespace Chronicle

def start (config : ExecutorConfig) (hooked : Bool) (kinds : List SourceKind)
    (refuses : Nat → Option String := fun _ => none) : Chronicle ρ α β :=
  { executor := Executor.create config hooked kinds refuses }

def step (chronicle : Chronicle ρ α β) (event : Executor.Event ρ α β) :
    Option (Chronicle ρ α β) :=
  (chronicle.executor.step event).map fun executor =>
    { executor
      history :=
        chronicle.history.extend chronicle.executor.snapshot event executor.snapshot }

/-- A sequence of steps, each of which must be possible. -/
def run (chronicle : Chronicle ρ α β) :
    List (Executor.Event ρ α β) → Option (Chronicle ρ α β)
  | [] => some chronicle
  | event :: rest => (chronicle.step event).bind (·.run rest)

end Chronicle

/-! ### Reached snapshots -/

/-- The snapshot of a new executor. -/
def Snapshot.start (producers : Nat) : Snapshot ρ α β :=
  { buffer := []
    closed := false
    registered := producers
    marks := 0
    outlines := List.replicate (producers + 1) .idle
    phases := List.replicate producers .unborn
    produced := List.replicate producers 0
    consumer := .unborn
    failure := none
    messages := []
    hasParts := true
    executes := []
    shutdowns := [] }

/-- The snapshots that moves lead to, with what has happened on the way. -/
inductive Reached (producers : Nat) : Snapshot ρ α β → History ρ α β → Prop
  | start : Reached producers (Snapshot.start producers) {}
  | move {snapshot next : Snapshot ρ α β} {history : History ρ α β}
      {event : Executor.Event ρ α β} (reached : Reached producers snapshot history)
      (move : Move snapshot event next) :
      Reached producers next (history.extend snapshot event next)

/-- No producer joins or leaves. -/
theorem Reached.length_phases {producers : Nat} {snapshot : Snapshot ρ α β}
    {history : History ρ α β} (reached : Reached producers snapshot history) :
    snapshot.phases.length = producers := by
  induction reached with
  | start => exact List.length_replicate
  | move reached move ih =>
    rw [← ih]
    cases move with
    | queue move => rw [move.frame.phases]
    | producer move =>
      obtain ⟨old, new, -, -, -, phases⟩ := move.frame.phases
      rw [phases, List.length_set]
    | consumer move => rw [move.frame.phases]
    | caller move =>
      cases move with
      | spawnsProducer worker new was inside born => exact List.length_set
      | takesParts | spawnsHook | spawnsPull | receives | withdraws | proceeds => rfl
    | user mine move => rw [move.frame.phases]
    | still others => rfl

theorem Executor.snapshot_create (config : ExecutorConfig) (hooked : Bool)
    (kinds : List SourceKind) {refuses : Nat → Option String} :
    (Executor.create config hooked kinds refuses : Executor ρ α β).snapshot =
      Snapshot.start kinds.length := by
  have phases : kinds.map (fun _ => (ProducerPhase.unborn : ProducerPhase ρ)) =
      List.replicate kinds.length .unborn := List.map_const' ..
  have produced : kinds.map (fun _ => 0) = List.replicate kinds.length 0 := List.map_const' ..
  simp [Executor.snapshot, Executor.create, SharedQueue.start, SharedQueue.outlines,
    Queue.start, Snapshot.start, Call.outline, Function.comp_def, phases, produced]

namespace Chronicle

variable {chronicle next : Chronicle ρ α β} {producers : Nat}

theorem executor_of_step {event : Executor.Event ρ α β}
    (stepped : chronicle.step event = some next) :
    chronicle.executor.step event = some next.executor := by
  obtain ⟨executor, moved, rfl⟩ := Option.map_eq_some_iff.mp stepped
  exact moved

/-- A history is written beside a run and does not change it. -/
theorem executor_of_run {events : List (Executor.Event ρ α β)}
    (ran : chronicle.run events = some next) :
    chronicle.executor.run events = some next.executor := by
  induction events generalizing chronicle with
  | nil =>
    cases ran
    rfl
  | cons event rest ih =>
    obtain ⟨middle, stepped, ran⟩ := Option.bind_eq_some_iff.mp ran
    rw [Executor.run, executor_of_step stepped]
    exact ih ran

/-- Every run of an executor has a history. -/
theorem run_of_executor {events : List (Executor.Event ρ α β)} {executor : Executor ρ α β}
    (ran : chronicle.executor.run events = some executor) :
    ∃ history, chronicle.run events = some { executor, history } := by
  induction events generalizing chronicle with
  | nil =>
    cases ran
    exact ⟨chronicle.history, rfl⟩
  | cons event rest ih =>
    obtain ⟨middle, stepped, ran⟩ := Option.bind_eq_some_iff.mp ran
    have first : chronicle.step event = some { executor := middle, history := _ } :=
      Option.map_eq_some_iff.mpr ⟨middle, stepped, rfl⟩
    rw [run, first]
    exact ih ran

theorem run_append {first second : List (Executor.Event ρ α β)} :
    chronicle.run (first ++ second) = (chronicle.run first).bind (·.run second) := by
  induction first generalizing chronicle with
  | nil => rfl
  | cons event rest ih =>
    rw [List.cons_append, run, run, Option.bind_assoc]
    congr 1
    funext middle
    exact ih

/-- A run that goes on after one step. -/
theorem run_split {first rest : List (Executor.Event ρ α β)} {event : Executor.Event ρ α β}
    (ran : chronicle.run (first ++ event :: rest) = some next) :
    ∃ before after, chronicle.run first = some before ∧ before.step event = some after ∧
      after.run rest = some next := by
  rw [run_append] at ran
  obtain ⟨before, ranFirst, ranRest⟩ := Option.bind_eq_some_iff.mp ran
  obtain ⟨after, stepped, ranRest⟩ := Option.bind_eq_some_iff.mp ranRest
  exact ⟨before, after, ranFirst, stepped, ranRest⟩

theorem reached_of_step {event : Executor.Event ρ α β}
    (reached : Reached producers chronicle.executor.snapshot chronicle.history)
    (stepped : chronicle.step event = some next) :
    Reached producers next.executor.snapshot next.history := by
  obtain ⟨executor, moved, rfl⟩ := Option.map_eq_some_iff.mp stepped
  exact .move reached (Executor.move_of_step moved)

theorem reached_of_run {events : List (Executor.Event ρ α β)}
    (reached : Reached producers chronicle.executor.snapshot chronicle.history)
    (ran : chronicle.run events = some next) :
    Reached producers next.executor.snapshot next.history := by
  induction events generalizing chronicle with
  | nil =>
    cases ran
    exact reached
  | cons event rest ih =>
    obtain ⟨middle, stepped, ran⟩ := Option.bind_eq_some_iff.mp ran
    exact ih (reached_of_step reached stepped) ran

theorem reached_start (config : ExecutorConfig) (hooked : Bool) (kinds : List SourceKind)
    {refuses : Nat → Option String} :
    Reached kinds.length
      (start config hooked kinds refuses : Chronicle ρ α β).executor.snapshot {} := by
  have created : (start config hooked kinds refuses : Chronicle ρ α β).executor.snapshot =
      .start kinds.length := Executor.snapshot_create config hooked kinds
  rw [created]
  exact .start

end Chronicle

theorem Executor.run_append {executor : Executor ρ α β}
    {first second : List (Executor.Event ρ α β)} :
    executor.run (first ++ second) = (executor.run first).bind (·.run second) := by
  induction first generalizing executor with
  | nil => rfl
  | cons event rest ih =>
    rw [List.cons_append, run, run, Option.bind_assoc]
    congr 1
    funext middle
    exact ih

/-- Whatever state an executor comes to, it was reached. -/
theorem Executor.reached_of_run {config : ExecutorConfig} {hooked : Bool} {kinds : List SourceKind}
    {refuses : Nat → Option String} {events : List (Executor.Event ρ α β)}
    {executor : Executor ρ α β}
    (ran : (create config hooked kinds refuses).run events = some executor) :
    ∃ history, Reached kinds.length executor.snapshot history := by
  have begins : (Chronicle.start config hooked kinds refuses).executor.run events =
      some executor := ran
  obtain ⟨history, recorded⟩ := Chronicle.run_of_executor begins
  exact ⟨history, Chronicle.reached_of_run (Chronicle.reached_start config hooked kinds) recorded⟩

end BoundedIngest

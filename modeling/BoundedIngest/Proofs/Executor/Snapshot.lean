/-
Module: BoundedIngest.Proofs.Executor.Snapshot
Purpose: What of an executor its safety rests on, and how one step can change it.
Main exports:
  Snapshot, Executor.snapshot, QueueMove, ProducerMove, ConsumerMove, CallerMove,
  UserMove, Move
-/
import BoundedIngest.Executor.Step
import BoundedIngest.Proofs.Queue.Outline

namespace BoundedIngest

/-!
A snapshot leaves out how calls wait for each other, what is measured, counted and
logged, and who may be interrupted.  Every step of an executor is one of the moves below,
or changes nothing of the snapshot.  So a property of snapshots that every move keeps
holds in every run, in whatever order the threads take their steps.
-/

structure Snapshot (ρ α β : Type) where
  buffer : List α
  closed : Bool
  registered : Nat
  /-- How many producers were marked done. -/
  marks : Nat
  outlines : List (Outline α)
  phases : List (ProducerPhase ρ)
  /-- How many inserts of each producer have succeeded. -/
  produced : List Nat
  consumer : ConsumerPhase α β
  failure : Option CapturedFailure
  messages : List (Signal β)
  hasParts : Bool
  executes : List (ExecutePhase β)
  shutdowns : List ShutdownPhase

variable {ρ α β : Type}

def Executor.snapshot (executor : Executor ρ α β) : Snapshot ρ α β :=
  { buffer := executor.shared.queue.buffer
    closed := executor.shared.queue.closed
    registered := executor.shared.queue.producersTotal
    marks := executor.shared.queue.producersDone
    outlines := executor.shared.outlines
    phases := executor.producers.map (·.phase)
    produced := executor.producers.map (·.produced)
    consumer := executor.consumer.phase
    failure := executor.failure.captured
    messages := executor.channel.messages
    hasParts := executor.hasParts
    executes := executor.executes
    shutdowns := executor.shutdowns }

namespace Snapshot

/-- All registered producers are marked done and nothing is left. -/
def Done (snapshot : Snapshot ρ α β) : Prop :=
  snapshot.closed = false ∧ snapshot.registered ≤ snapshot.marks ∧ snapshot.buffer = []

/-- Closing has no effect: the queue is closed or done. -/
def isOver (snapshot : Snapshot ρ α β) : Bool :=
  snapshot.closed || (snapshot.registered ≤ snapshot.marks && snapshot.buffer.isEmpty)

/-- Close the queue, unless that has no effect. -/
def close (snapshot : Snapshot ρ α β) : Snapshot ρ α β :=
  { snapshot with
    buffer := if snapshot.isOver then snapshot.buffer else []
    closed := snapshot.closed || !snapshot.isOver }

def setOutline (snapshot : Snapshot ρ α β) (caller : Nat) (outline : Outline α) :
    Snapshot ρ α β :=
  { snapshot with outlines := snapshot.outlines.set caller outline }

def setPhase (snapshot : Snapshot ρ α β) (index : Nat) (phase : ProducerPhase ρ) :
    Snapshot ρ α β :=
  { snapshot with phases := snapshot.phases.set index phase }

def setExecute (snapshot : Snapshot ρ α β) (call : Nat) (phase : ExecutePhase β) :
    Snapshot ρ α β :=
  { snapshot with executes := snapshot.executes.set call phase }

def setShutdown (snapshot : Snapshot ρ α β) (call : Nat) (phase : ShutdownPhase) :
    Snapshot ρ α β :=
  { snapshot with shutdowns := snapshot.shutdowns.set call phase }

end Snapshot

/-- A producer in such a phase has no call on the queue, is neither unborn nor over, and
is not about to close, signal or be marked. -/
def ProducerPhase.isBusy : ProducerPhase ρ → Bool
  | .hooking | .sourcing _ | .offering _ | .transforming _ | .reporting _ | .failing _ => true
  | _ => false

/-- The next worker that a call that has the parts may spawn. -/
def ExecutePhase.frontier? : ExecutePhase β → Option Nat
  | .takingSender hasParts | .takingReceiver hasParts _ => if hasParts then some 0 else none
  | .starting => some 0
  | .spawning worker => some worker
  | _ => none

/-- The result that a call that executes has got hold of. -/
def ExecutePhase.result? : ExecutePhase β → Option β
  | .judging (some (.finished result)) | .settling (.ok result) | .recording (.ok result)
  | .returned (.ok result) => some result
  | _ => none

/-- A call that executes gets hold of nothing new. -/
structure ExecutePhase.Proceeds (old new : ExecutePhase β) : Prop where
  frontier : ∀ worker, new.frontier? = some worker → old.frontier? = some worker
  result : ∀ value, new.result? = some value → old.result? = some value

/-! ### Moves -/

/-- A call does on the queue what it is there for. -/
inductive QueueMove (snapshot : Snapshot ρ α β) (caller : Nat) : Snapshot ρ α β → Prop
  | refused (entry : α) (was : snapshot.outlines[caller]? = some (.inserting entry))
      (reason : snapshot.closed = true ∨ snapshot.registered ≤ snapshot.marks) :
      QueueMove snapshot caller (snapshot.setOutline caller .refused)
  | pushed (entry : α) (was : snapshot.outlines[caller]? = some (.inserting entry))
      (stillOpen : snapshot.closed = false) :
      QueueMove snapshot caller
        { snapshot.setOutline caller .inserted with buffer := snapshot.buffer ++ [entry] }
  | taken (entry : α) (rest : List α) (was : snapshot.outlines[caller]? = some .pulling)
      (stillOpen : snapshot.closed = false) (front : snapshot.buffer = entry :: rest) :
      QueueMove snapshot caller
        { snapshot.setOutline caller (.holding entry) with buffer := rest }
  | endedClosed (was : snapshot.outlines[caller]? = some .pulling)
      (reason : snapshot.closed = true) :
      QueueMove snapshot caller (snapshot.setOutline caller (.ended .closed))
  | endedDone (was : snapshot.outlines[caller]? = some .pulling) (reason : snapshot.Done) :
      QueueMove snapshot caller (snapshot.setOutline caller (.ended .done))

/-- A producer goes on. -/
inductive ProducerMove (snapshot : Snapshot ρ α β) (index : Nat) : Snapshot ρ α β → Prop
  | turned (old new : ProducerPhase ρ) (was : snapshot.phases[index]? = some old)
      (busy : old.isBusy = true) (stays : new.isBusy = true) :
      ProducerMove snapshot index (snapshot.setPhase index new)
  | inserts (entry : α) (record : ρ) (was : snapshot.phases[index]? = some (.transforming record))
      (free : snapshot.outlines[index]? = some .idle) :
      ProducerMove snapshot index
        ((snapshot.setOutline index (.inserting entry)).setPhase index .inserting)
  | measuringFailed (entry : α) (error : WorkerError)
      (was : snapshot.phases[index]? = some .inserting)
      (call : snapshot.outlines[index]? = some (.inserting entry)) :
      ProducerMove snapshot index
        ((snapshot.setOutline index .idle).setPhase index (.reporting (some (.failed error))))
  | accepted (count : Nat) (was : snapshot.phases[index]? = some .inserting)
      (call : snapshot.outlines[index]? = some .inserted)
      (counted : snapshot.produced[index]? = some count) :
      ProducerMove snapshot index
        { (snapshot.setOutline index .idle).setPhase index (.sourcing none) with
          produced := snapshot.produced.set index (count + 1) }
  | declined (new : ProducerPhase ρ) (was : snapshot.phases[index]? = some .inserting)
      (call : snapshot.outlines[index]? = some .refused) (stays : new.isBusy = true) :
      ProducerMove snapshot index ((snapshot.setOutline index .idle).setPhase index new)
  | reported (was : snapshot.phases[index]? = some (.reporting none) ∨
        snapshot.phases[index]? = some (.reporting (some .cancelled))) :
      ProducerMove snapshot index (snapshot.setPhase index .marking)
  | recorded (error : WorkerError) (was : snapshot.phases[index]? = some (.failing error))
      (first : snapshot.failure = none) :
      ProducerMove snapshot index
        { snapshot.setPhase index .alarmed with
          failure := some { role := .producer index, error } }
  | discarded (error : WorkerError) (was : snapshot.phases[index]? = some (.failing error))
      (late : snapshot.failure ≠ none) :
      ProducerMove snapshot index (snapshot.setPhase index .marking)
  | closes (was : snapshot.phases[index]? = some .alarmed)
      (free : snapshot.outlines[index]? = some .idle) :
      ProducerMove snapshot index
        ((snapshot.close.setOutline index .closing).setPhase index .closing)
  | closed (was : snapshot.phases[index]? = some .closing) :
      ProducerMove snapshot index ((snapshot.setOutline index .idle).setPhase index .signalling)
  | signalled (was : snapshot.phases[index]? = some .signalling) :
      ProducerMove snapshot index
        { snapshot.setPhase index .marking with messages := snapshot.messages ++ [.failed] }
  | marked (was : snapshot.phases[index]? = some .marking) :
      ProducerMove snapshot index
        { snapshot.setPhase index .ended with
          marks := min (snapshot.marks + 1) snapshot.registered }

/-- The consumer goes on. -/
inductive ConsumerMove (snapshot : Snapshot ρ α β) :
    Executor.ConsumerAct β → Snapshot ρ α β → Prop
  | turned (act : Executor.ConsumerAct β) (new : ConsumerPhase α β)
      (turn : Executor.turnConsumer snapshot.consumer act = some new) :
      ConsumerMove snapshot act { snapshot with consumer := new }
  | starts (was : snapshot.consumer = .hooking)
      (free : snapshot.outlines[snapshot.phases.length]? = some .idle) :
      ConsumerMove snapshot .hookReturned
        { snapshot.setOutline snapshot.phases.length .pulling with consumer := .pulling }
  | goesOn (entry : α) (was : snapshot.consumer = .consuming entry)
      (free : snapshot.outlines[snapshot.phases.length]? = some .idle) :
      ConsumerMove snapshot .consumed
        { snapshot.setOutline snapshot.phases.length .pulling with consumer := .pulling }
  | receives (entry : α) (was : snapshot.consumer = .pulling)
      (call : snapshot.outlines[snapshot.phases.length]? = some (.holding entry)) :
      ConsumerMove snapshot .pulled
        { snapshot.setOutline snapshot.phases.length .idle with consumer := .consuming entry }
  | drains (status : QueueStatus) (was : snapshot.consumer = .pulling)
      (call : snapshot.outlines[snapshot.phases.length]? = some (.ended status)) :
      ConsumerMove snapshot .pulled
        { snapshot.setOutline snapshot.phases.length .idle with consumer := .drained status }
  | reports (status : QueueStatus) (was : snapshot.consumer = .drained status) :
      ConsumerMove snapshot .report { snapshot with consumer := Executor.afterDrained status }
  | delivers (result : β) (was : snapshot.consumer = .delivering result) :
      ConsumerMove snapshot .deliver
        { snapshot with
          consumer := .ended
          messages := snapshot.messages ++ [.finished result] }
  | recorded (error : WorkerError) (was : snapshot.consumer = .failing error)
      (first : snapshot.failure = none) :
      ConsumerMove snapshot .recordFailure
        { snapshot with consumer := .alarmed, failure := some { role := .consumer, error } }
  | discarded (error : WorkerError) (was : snapshot.consumer = .failing error)
      (late : snapshot.failure ≠ none) :
      ConsumerMove snapshot .recordFailure { snapshot with consumer := .ended }
  | closes (was : snapshot.consumer = .alarmed)
      (free : snapshot.outlines[snapshot.phases.length]? = some .idle) :
      ConsumerMove snapshot .closeQueue
        { snapshot.close.setOutline snapshot.phases.length .closing with consumer := .closing }
  | closed (was : snapshot.consumer = .closing) :
      ConsumerMove snapshot .closed
        { snapshot.setOutline snapshot.phases.length .idle with consumer := .signalling }
  | signalled (was : snapshot.consumer = .signalling) :
      ConsumerMove snapshot .signal
        { snapshot with consumer := .ended, messages := snapshot.messages ++ [.failed] }

/-- A call that executes goes on. -/
inductive CallerMove (snapshot : Snapshot ρ α β) (call : Nat) : Snapshot ρ α β → Prop
  | takesParts (was : snapshot.executes[call]? = some .takingParts) :
      CallerMove snapshot call
        { snapshot.setExecute call (.takingSender snapshot.hasParts) with hasParts := false }
  | spawnsProducer (worker : Nat) (new : ProducerPhase ρ)
      (was : snapshot.executes[call]? = some (.spawning worker))
      (inside : worker < snapshot.phases.length) (born : new.isBusy = true) :
      CallerMove snapshot call
        ((snapshot.setPhase worker new).setExecute call (.spawning (worker + 1)))
  | spawnsHook (worker : Nat) (was : snapshot.executes[call]? = some (.spawning worker))
      (last : snapshot.phases.length ≤ worker) :
      CallerMove snapshot call { snapshot.setExecute call .waiting with consumer := .hooking }
  | spawnsPull (worker : Nat) (was : snapshot.executes[call]? = some (.spawning worker))
      (last : snapshot.phases.length ≤ worker)
      (free : snapshot.outlines[snapshot.phases.length]? = some .idle) :
      CallerMove snapshot call
        { (snapshot.setExecute call .waiting).setOutline snapshot.phases.length .pulling with
          consumer := .pulling }
  | receives (message : Signal β) (rest : List (Signal β))
      (was : snapshot.executes[call]? = some .waiting)
      (front : snapshot.messages = message :: rest) :
      CallerMove snapshot call
        { snapshot.setExecute call (.judging (some message)) with messages := rest }
  | withdraws (reason : String) (was : snapshot.executes[call]? = some (.retreating reason)) :
      CallerMove snapshot call
        { snapshot.setExecute call (.withdrawing snapshot.shutdowns.length reason) with
          outlines := snapshot.outlines ++ [.idle]
          shutdowns := snapshot.shutdowns ++ [.entering] }
  | proceeds (old new : ExecutePhase β) (was : snapshot.executes[call]? = some old)
      (turn : old.Proceeds new) : CallerMove snapshot call (snapshot.setExecute call new)

/-- A shutdown begins or goes on. -/
inductive UserMove (snapshot : Snapshot ρ α β) : Snapshot ρ α β → Prop
  | executes :
      UserMove snapshot { snapshot with executes := snapshot.executes ++ [.entering] }
  | begins :
      UserMove snapshot
        { snapshot with
          outlines := snapshot.outlines ++ [.idle]
          shutdowns := snapshot.shutdowns ++ [.entering] }
  | closes (call : Nat) (was : snapshot.shutdowns[call]? = some .entering)
      (free : snapshot.outlines[snapshot.phases.length + 1 + call]? = some .idle) :
      UserMove snapshot
        ((snapshot.close.setOutline (snapshot.phases.length + 1 + call) .closing).setShutdown
          call .closing)
  | closed (call : Nat) (was : snapshot.shutdowns[call]? = some .closing) :
      UserMove snapshot
        ((snapshot.setOutline (snapshot.phases.length + 1 + call) .idle).setShutdown call
          .interrupting)
  | advances (call : Nat) (old new : ShutdownPhase)
      (was : snapshot.shutdowns[call]? = some old)
      (turn : (old = .interrupting ∧ new = .cancelling) ∨ (old = .cancelling ∧ new = .returned)) :
      UserMove snapshot (snapshot.setShutdown call new)

/-- One step of an executor, as far as a snapshot shows it. -/
inductive Move (snapshot : Snapshot ρ α β) :
    Executor.Event ρ α β → Snapshot ρ α β → Prop
  | queue {caller : Nat} {next : Snapshot ρ α β} (move : QueueMove snapshot caller next) :
      Move snapshot (.enterQueue caller) next
  | producer {index : Nat} {act : Executor.ProducerAct ρ α} {next : Snapshot ρ α β}
      (move : ProducerMove snapshot index next) : Move snapshot (.producer index act) next
  | consumer {act : Executor.ConsumerAct β} {next : Snapshot ρ α β}
      (move : ConsumerMove snapshot act next) : Move snapshot (.consumer act) next
  | caller {call : Nat} {act : Executor.ExecuteAct} {next : Snapshot ρ α β}
      (move : CallerMove snapshot call next) : Move snapshot (.executing call act) next
  | user {event : Executor.Event ρ α β} {next : Snapshot ρ α β}
      (mine : event = .execute ∨ event = .shutdown ∨ ∃ call, event = .shuttingDown call)
      (move : UserMove snapshot next) : Move snapshot event next
  | still {event : Executor.Event ρ α β} (others : ∀ act, event ≠ .consumer act) :
      Move snapshot event snapshot

/-! ### What moves leave alone -/

variable {snapshot next : Snapshot ρ α β}

/-- Where a consumer goes that concerns nobody else. -/
theorem Executor.cases_of_turn {old new : ConsumerPhase α β} {act : Executor.ConsumerAct β}
    (turn : Executor.turnConsumer old act = some new) :
    (∃ error, new = .failing error) ∨
      (old = .finishing ∧ act = .finished ∧ new = .concluding) ∨
      ∃ result, old = .concluding ∧ act = .concluded result ∧ new = .delivering result := by
  unfold Executor.turnConsumer at turn
  split at turn <;> cases turn
  case h_4 => exact .inr (.inl ⟨rfl, rfl, rfl⟩)
  case h_7 result => exact .inr (.inr ⟨result, rfl, rfl, rfl⟩)
  all_goals exact .inl ⟨_, rfl⟩

/-- A call that takes the lock changes only the contents of the queue and its own
outline. -/
structure QueueFrame (snapshot next : Snapshot ρ α β) : Prop where
  closed : next.closed = snapshot.closed
  registered : next.registered = snapshot.registered
  marks : next.marks = snapshot.marks
  phases : next.phases = snapshot.phases
  produced : next.produced = snapshot.produced
  consumer : next.consumer = snapshot.consumer
  failure : next.failure = snapshot.failure
  messages : next.messages = snapshot.messages
  hasParts : next.hasParts = snapshot.hasParts
  executes : next.executes = snapshot.executes
  shutdowns : next.shutdowns = snapshot.shutdowns

theorem QueueMove.frame {caller : Nat} (move : QueueMove snapshot caller next) :
    QueueFrame snapshot next := by
  cases move <;> constructor <;> rfl

/-- Nothing happens to the contents of the queue, but that it may be closed. -/
def Snapshot.SameOrClosed (snapshot next : Snapshot ρ α β) : Prop :=
  (next.buffer = snapshot.buffer ∧ next.closed = snapshot.closed) ∨
    (next.buffer = snapshot.close.buffer ∧ next.closed = snapshot.close.closed)

/-- A queue that is closed stays closed. -/
theorem Snapshot.SameOrClosed.closed (contents : snapshot.SameOrClosed next)
    (closed : snapshot.closed = true) : next.closed = true := by
  rcases contents with ⟨-, same⟩ | ⟨-, close⟩
  · rw [same, closed]
  · rw [close, Snapshot.close, closed]
    rfl

/-- A producer that moves was born and has not ended, and it moves alone. -/
structure ProducerFrame (snapshot : Snapshot ρ α β) (index : Nat) (next : Snapshot ρ α β) :
    Prop where
  phases : ∃ old new, snapshot.phases[index]? = some old ∧ old ≠ .unborn ∧ old ≠ .ended ∧
    next.phases = snapshot.phases.set index new
  outlines : next.outlines = snapshot.outlines ∨
    ∃ outline, (∀ status, outline ≠ .ended status) ∧
      next.outlines = snapshot.outlines.set index outline := by exact .inl rfl
  contents : snapshot.SameOrClosed next := by exact .inl ⟨rfl, rfl⟩
  messages : next.messages = snapshot.messages ∨ next.messages = snapshot.messages ++ [.failed] := by
    exact .inl rfl
  registered : next.registered = snapshot.registered := by rfl
  consumer : next.consumer = snapshot.consumer := by rfl
  hasParts : next.hasParts = snapshot.hasParts := by rfl
  executes : next.executes = snapshot.executes := by rfl
  shutdowns : next.shutdowns = snapshot.shutdowns := by rfl

theorem ProducerMove.frame {index : Nat} (move : ProducerMove snapshot index next) :
    ProducerFrame snapshot index next := by
  have alone : ∃ old new, snapshot.phases[index]? = some old ∧ old ≠ .unborn ∧ old ≠ .ended ∧
      next.phases = snapshot.phases.set index new := by
    cases move with
    | turned old new was busy stays =>
      refine ⟨old, new, was, ?_, ?_, rfl⟩
      · rintro rfl
        contradiction
      · rintro rfl
        contradiction
    | reported was =>
      rcases was with was | was <;> exact ⟨_, _, was, by simp, by simp, rfl⟩
    | inserts | measuringFailed | accepted | declined | recorded | discarded | closes
    | closed | signalled | marked => exact ⟨_, _, by assumption, by simp, by simp, rfl⟩
  cases move with
  | turned | reported | recorded | discarded | marked => exact { phases := alone }
  | inserts | measuringFailed | accepted | declined | closed =>
    exact { phases := alone, outlines := .inr ⟨_, by simp, rfl⟩ }
  | closes was free =>
    exact { phases := alone, outlines := .inr ⟨_, by simp, rfl⟩, contents := .inr ⟨rfl, rfl⟩ }
  | signalled was => exact { phases := alone, messages := .inr rfl }

/-- A consumer that moves was born. -/
structure ConsumerFrame (snapshot next : Snapshot ρ α β) : Prop where
  alive : snapshot.consumer ≠ .unborn
  contents : snapshot.SameOrClosed next := by exact .inl ⟨rfl, rfl⟩
  registered : next.registered = snapshot.registered := by rfl
  marks : next.marks = snapshot.marks := by rfl
  phases : next.phases = snapshot.phases := by rfl
  produced : next.produced = snapshot.produced := by rfl
  hasParts : next.hasParts = snapshot.hasParts := by rfl
  executes : next.executes = snapshot.executes := by rfl
  shutdowns : next.shutdowns = snapshot.shutdowns := by rfl

theorem ConsumerMove.frame {act : Executor.ConsumerAct β}
    (move : ConsumerMove snapshot act next) : ConsumerFrame snapshot next := by
  have alive : snapshot.consumer ≠ .unborn := by
    intro unborn
    cases move with
    | turned act new turn =>
      rw [unborn] at turn
      cases act <;> contradiction
    | starts | goesOn | receives | drains | reports | delivers | recorded | discarded | closes
    | closed | signalled => simp_all
  cases move with
  | closes was free => exact { alive, contents := .inr ⟨rfl, rfl⟩ }
  | turned | starts | goesOn | receives | drains | reports | delivers | recorded | discarded
  | closed | signalled => exact { alive }

/-- A call that executes does nothing to the contents of the queue, and to the consumer
nothing but spawn it. -/
structure CallerFrame (snapshot next : Snapshot ρ α β) : Prop where
  consumer : next.consumer = snapshot.consumer ∨
    (∃ worker, .spawning worker ∈ snapshot.executes) ∧
      (next.consumer = .hooking ∨ next.consumer = .pulling) := by exact .inl rfl
  messages : next.messages.length ≤ snapshot.messages.length := by exact Nat.le_refl _
  buffer : next.buffer = snapshot.buffer := by rfl
  closed : next.closed = snapshot.closed := by rfl
  registered : next.registered = snapshot.registered := by rfl
  marks : next.marks = snapshot.marks := by rfl
  produced : next.produced = snapshot.produced := by rfl
  failure : next.failure = snapshot.failure := by rfl
  shutdowns : next.shutdowns = snapshot.shutdowns ∨
    next.shutdowns = snapshot.shutdowns ++ [.entering] := by exact .inl rfl

theorem CallerMove.frame {call : Nat} (move : CallerMove snapshot call next) :
    CallerFrame snapshot next := by
  cases move with
  | spawnsHook worker was last =>
    exact { consumer := .inr ⟨⟨worker, List.mem_of_getElem? was⟩, .inl rfl⟩ }
  | spawnsPull worker was last free =>
    exact { consumer := .inr ⟨⟨worker, List.mem_of_getElem? was⟩, .inr rfl⟩ }
  | receives message rest was front =>
    refine { messages := ?_ }
    rw [front]
    exact Nat.le_succ _
  | withdraws reason was => exact { shutdowns := .inr rfl }
  | takesParts | spawnsProducer | proceeds => exact {}

/-- A shutdown does nothing to workers. -/
structure UserFrame (snapshot next : Snapshot ρ α β) : Prop where
  outlines : next.outlines = snapshot.outlines ∨ next.outlines = snapshot.outlines ++ [.idle] ∨
    ∃ call outline, (∀ status, outline ≠ .ended status) ∧
      next.outlines = snapshot.outlines.set (snapshot.phases.length + 1 + call) outline := by
    exact .inl rfl
  contents : snapshot.SameOrClosed next := by exact .inl ⟨rfl, rfl⟩
  registered : next.registered = snapshot.registered := by rfl
  marks : next.marks = snapshot.marks := by rfl
  phases : next.phases = snapshot.phases := by rfl
  produced : next.produced = snapshot.produced := by rfl
  consumer : next.consumer = snapshot.consumer := by rfl
  failure : next.failure = snapshot.failure := by rfl
  messages : next.messages = snapshot.messages := by rfl
  hasParts : next.hasParts = snapshot.hasParts := by rfl
  executes : next.executes = snapshot.executes ∨
    next.executes = snapshot.executes ++ [.entering] := by exact .inl rfl

theorem UserMove.frame (move : UserMove snapshot next) : UserFrame snapshot next := by
  cases move with
  | executes => exact { executes := .inr rfl }
  | begins => exact { outlines := .inr (.inl rfl) }
  | closes call was free =>
    exact { outlines := .inr (.inr ⟨call, _, by simp, rfl⟩), contents := .inr ⟨rfl, rfl⟩ }
  | closed call was => exact { outlines := .inr (.inr ⟨call, _, by simp, rfl⟩) }
  | advances call old new was turn => exact {}

/-- Whoever moves, a queue that is closed stays closed. -/
theorem Move.closed {event : Executor.Event ρ α β} (move : Move snapshot event next)
    (closed : snapshot.closed = true) : next.closed = true := by
  cases move with
  | queue move => exact move.frame.closed.trans closed
  | producer move => exact move.frame.contents.closed closed
  | consumer move => exact move.frame.contents.closed closed
  | caller move => exact move.frame.closed.trans closed
  | user mine move => exact move.frame.contents.closed closed
  | still others => exact closed

end BoundedIngest

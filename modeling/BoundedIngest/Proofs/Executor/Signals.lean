/-
Module: BoundedIngest.Proofs.Executor.Signals
Purpose: The signals sent, the failure slot and the results of calls that execute agree.
Main exports:
  Snapshot.Carried, Snapshot.Alarm, Reached.carried, Reached.alarm
-/
import BoundedIngest.Proofs.Executor.Completion

namespace BoundedIngest

/-!
Whoever sets the failure slot closes the queue and sends one signal of failure, and is
neither marked done nor over before it has.  A result is sent only once everybody is done
and the queue is not closed, so the slot is empty then.
-/

variable {ρ α β : Type}

def Signal.isFailed : Signal β → Bool
  | .failed => true
  | .finished _ => false

def Signal.isFinished : Signal β → Bool
  | .failed => false
  | .finished _ => true

/-- Has set the failure slot and still owes the signal. -/
def ProducerPhase.isAlarmed : ProducerPhase ρ → Bool
  | .alarmed | .closing | .signalling => true
  | _ => false

/-- Has set the failure slot and still owes the signal. -/
def ConsumerPhase.isAlarmed : ConsumerPhase α β → Bool
  | .alarmed | .closing | .signalling => true
  | _ => false

theorem ProducerPhase.not_isAlarmed_of_isBusy {phase : ProducerPhase ρ}
    (busy : phase.isBusy = true) : phase.isAlarmed = false := by
  cases phase <;> first | rfl | contradiction

theorem ConsumerPhase.calm_of_turn {old new : ConsumerPhase α β} {act : Executor.ConsumerAct β}
    (turn : Executor.turnConsumer old act = some new) :
    old.isAlarmed = false ∧ old ≠ .ended := by
  unfold Executor.turnConsumer at turn
  split at turn <;> first | contradiction | simp [ConsumerPhase.isAlarmed]

namespace Snapshot

variable {snapshot next : Snapshot ρ α β} {history : History ρ α β}

/-! ### Signals on their way -/

structure Carried (snapshot : Snapshot ρ α β) (history : History ρ α β) : Prop where
  messages : ∀ signal ∈ snapshot.messages, signal ∈ history.signals
  results : ∀ phase ∈ snapshot.executes, ∀ result, phase.result? = some result →
    .finished result ∈ history.signals

theorem signals_subset {event : Executor.Event ρ α β} {signal : Signal β}
    (sent : signal ∈ history.signals) :
    signal ∈ (history.extend snapshot event next).signals :=
  List.mem_append_left _ sent

namespace Carried

/-- A step that sends at most, and leaves the calls that execute alone. -/
theorem sends {event : Executor.Event ρ α β} {sent : List (Signal β)}
    (carried : snapshot.Carried history) (messages : next.messages = snapshot.messages ++ sent)
    (executes : next.executes = snapshot.executes ∨
      next.executes = snapshot.executes ++ [.entering]) :
    next.Carried (history.extend snapshot event next) := by
  constructor
  · rw [messages, History.signals_extend_append messages]
    intro signal found
    rcases List.mem_append.mp found with before | now
    · exact List.mem_append_left _ (carried.messages signal before)
    · exact List.mem_append_right _ now
  · intro phase found result has
    rcases executes with same | added
    · rw [same] at found
      exact signals_subset (carried.results phase found result has)
    · rw [added] at found
      rcases List.mem_append.mp found with before | now
      · exact signals_subset (carried.results phase before result has)
      · cases List.mem_singleton.mp now
        contradiction

/-- A call that executes gets hold of no result but one that was sent. -/
theorem setExecute {event : Executor.Event ρ α β} {call : Nat} {new : ExecutePhase β}
    (carried : snapshot.Carried history)
    (messages : ∀ signal ∈ next.messages, signal ∈ snapshot.messages)
    (executes : next.executes = snapshot.executes.set call new)
    (results : ∀ result, new.result? = some result → .finished result ∈ history.signals) :
    next.Carried (history.extend snapshot event next) := by
  constructor
  · exact fun signal found => signals_subset (carried.messages signal (messages signal found))
  · intro phase found result has
    rw [executes] at found
    rcases List.mem_or_eq_of_mem_set found with before | rfl
    · exact signals_subset (carried.results phase before result has)
    · exact signals_subset (results result has)

theorem caller {call : Nat} {act : Executor.ExecuteAct} (carried : snapshot.Carried history)
    (move : CallerMove snapshot call next) :
    next.Carried (history.extend snapshot (.executing call act) next) := by
  cases move with
  | takesParts was =>
    exact carried.setExecute (fun _ found => found) rfl (by simp [ExecutePhase.result?])
  | spawnsProducer worker new was inside born =>
    exact carried.setExecute (fun _ found => found) rfl (by simp [ExecutePhase.result?])
  | spawnsHook worker was last =>
    exact carried.setExecute (fun _ found => found) rfl (by simp [ExecutePhase.result?])
  | spawnsPull worker was last free =>
    exact carried.setExecute (fun _ found => found) rfl (by simp [ExecutePhase.result?])
  | withdraws reason was =>
    exact carried.setExecute (fun _ found => found) rfl (by simp [ExecutePhase.result?])
  | receives message rest was front =>
    refine carried.setExecute (fun signal found => ?_) rfl (fun result has => ?_)
    · rw [front]
      exact List.mem_cons_of_mem _ found
    · apply carried.messages
      rw [front]
      cases message with
      | finished value =>
        cases has
        exact List.mem_cons_self
      | failed => contradiction
  | proceeds old new was turn =>
    exact carried.setExecute (fun _ found => found) rfl fun result has =>
      carried.results old (List.mem_of_getElem? was) result (turn.result result has)

theorem move {event : Executor.Event ρ α β} (carried : snapshot.Carried history)
    (move : Move snapshot event next) :
    next.Carried (history.extend snapshot event next) := by
  cases move with
  | queue move =>
    have frame := move.frame
    exact carried.sends (by rw [frame.messages, List.append_nil]) (.inl frame.executes)
  | producer move =>
    have frame := move.frame
    rcases frame.messages with same | failed
    · exact carried.sends (by rw [same, List.append_nil]) (.inl frame.executes)
    · exact carried.sends failed (.inl frame.executes)
  | consumer move =>
    have executes := move.frame.executes
    cases move with
    | delivers result was => exact carried.sends rfl (.inl executes)
    | signalled was => exact carried.sends rfl (.inl executes)
    | turned | starts | goesOn | receives | drains | reports | recorded | discarded | closes
    | closed => exact carried.sends (List.append_nil _).symm (.inl executes)
  | caller move => exact carried.caller move
  | user mine move =>
    have frame := move.frame
    exact carried.sends (by rw [frame.messages, List.append_nil]) frame.executes
  | still others => exact carried.sends (List.append_nil _).symm (.inl rfl)

end Carried

theorem carried_start (producers : Nat) : (start producers : Snapshot ρ α β).Carried {} := by
  constructor <;> simp [start]

/-! ### Signals and the failure slot -/

/-- How many signals of failure are owed. -/
def alarms (snapshot : Snapshot ρ α β) : Nat :=
  snapshot.phases.countP ProducerPhase.isAlarmed + snapshot.consumer.isAlarmed.toNat

/-- Why a set slot keeps the consumer from finishing. -/
def Barred (snapshot : Snapshot ρ α β) : Prop :=
  snapshot.closed = true ∨ .alarmed ∈ snapshot.phases ∨ snapshot.consumer.isAlarmed = true ∨
    snapshot.consumer = .ended

structure Alarm (snapshot : Snapshot ρ α β) (history : History ρ α β) : Prop where
  balance : history.signals.countP Signal.isFailed + snapshot.alarms =
    snapshot.failure.isSome.toNat
  barred : snapshot.failure ≠ none → snapshot.Barred
  single : history.signals.countP Signal.isFinished ≤ 1
  clean : ∀ result, .finished result ∈ history.signals → snapshot.failure = none
  ended : snapshot.consumer = .ended →
    snapshot.failure ≠ none ∨ ∃ result, .finished result ∈ history.signals

/-- A step that neither closes the queue nor fails nor sends. -/
structure Hushed (snapshot next : Snapshot ρ α β) : Prop where
  closed : next.closed = snapshot.closed := by rfl
  failure : next.failure = snapshot.failure := by rfl
  messages : next.messages.length ≤ snapshot.messages.length := by exact Nat.le_refl _

/-- A step of somebody who is no worker: it neither fails nor sends. -/
structure Apart (snapshot next : Snapshot ρ α β) : Prop where
  phases : next.phases = snapshot.phases := by rfl
  consumer : next.consumer = snapshot.consumer := by rfl
  failure : next.failure = snapshot.failure := by rfl
  messages : next.messages.length ≤ snapshot.messages.length := by exact Nat.le_refl _
  closed : snapshot.closed = true → next.closed = true := by exact id

namespace Alarm

/-- A step that sends no result. -/
theorem sends {event : Executor.Event ρ α β} {failed : Nat} (alarm : snapshot.Alarm history)
    (signals : (history.extend snapshot event next).signals =
      history.signals ++ List.replicate failed .failed)
    (balance : snapshot.failure.isSome.toNat + failed + next.alarms =
      next.failure.isSome.toNat + snapshot.alarms)
    (barred : next.failure ≠ none → next.Barred)
    (clean : ∀ result, .finished result ∈ history.signals → next.failure = none)
    (ended : next.consumer = .ended →
      next.failure ≠ none ∨ ∃ result, .finished result ∈ history.signals) :
    next.Alarm (history.extend snapshot event next) := by
  constructor
  · have before := alarm.balance
    rw [signals, List.countP_append, List.countP_replicate]
    simp only [Signal.isFailed, ↓reduceIte]
    omega
  · exact barred
  · rw [signals, List.countP_append, List.countP_replicate]
    simpa [Signal.isFinished] using alarm.single
  · intro result sent
    rw [signals] at sent
    exact clean result (by simpa using sent)
  · intro past
    rcases ended past with failure | ⟨result, sent⟩
    · exact .inl failure
    · exact .inr ⟨result, signals_subset sent⟩

/-- A step that neither sends nor fails. -/
theorem quiet {event : Executor.Event ρ α β} {count : Nat} (alarm : snapshot.Alarm history)
    (messages : next.messages.length ≤ snapshot.messages.length)
    (failure : next.failure = snapshot.failure)
    (alarms : next.alarms + count = snapshot.alarms + count)
    (barred : snapshot.Barred → next.Barred)
    (ended : next.consumer = .ended →
      snapshot.failure ≠ none ∨ ∃ result, .finished result ∈ history.signals) :
    next.Alarm (history.extend snapshot event next) := by
  have signals : (history.extend snapshot event next).signals =
      history.signals ++ List.replicate 0 .failed :=
    (History.signals_extend_same messages).trans (List.append_nil _).symm
  apply alarm.sends signals
  · rw [failure]
    omega
  · rw [failure]
    exact fun set => barred (alarm.barred set)
  · rw [failure]
    exact alarm.clean
  · rw [failure]
    exact ended

/-- A worker sets the slot. -/
theorem records {event : Executor.Event ρ α β} {captured : CapturedFailure}
    (alarm : snapshot.Alarm history)
    (messages : next.messages.length ≤ snapshot.messages.length)
    (first : snapshot.failure = none) (failure : next.failure = some captured)
    (raised : next.alarms + 0 = snapshot.alarms + 1)
    (unsent : ∀ result, .finished result ∉ history.signals) (barred : next.Barred) :
    next.Alarm (history.extend snapshot event next) := by
  have signals : (history.extend snapshot event next).signals =
      history.signals ++ List.replicate 0 .failed :=
    (History.signals_extend_same messages).trans (List.append_nil _).symm
  apply alarm.sends signals
  · rw [first, failure]
    simp only [Option.isSome_none, Option.isSome_some, Bool.toNat_false, Bool.toNat_true]
    omega
  · exact fun _ => barred
  · exact fun result sent => absurd sent (unsent result)
  · exact fun _ => .inl (by simp [failure])

/-- A worker that has set the slot sends the signal it owes. -/
theorem signals {event : Executor.Event ρ α β} (alarm : snapshot.Alarm history)
    (messages : next.messages = snapshot.messages ++ [.failed])
    (failure : next.failure = snapshot.failure) (sent : next.alarms + 1 = snapshot.alarms + 0)
    (barred : snapshot.Barred → next.Barred)
    (ended : next.consumer = .ended →
      snapshot.failure ≠ none ∨ ∃ result, .finished result ∈ history.signals) :
    next.Alarm (history.extend snapshot event next) := by
  have signals : (history.extend snapshot event next).signals =
      history.signals ++ List.replicate 1 .failed := History.signals_extend_append messages
  apply alarm.sends signals
  · rw [failure]
    omega
  · rw [failure]
    exact fun set => barred (alarm.barred set)
  · rw [failure]
    exact alarm.clean
  · rw [failure]
    exact ended

theorem alarms_set {index before after : Nat} {old new : ProducerPhase ρ}
    (was : snapshot.phases[index]? = some old)
    (phases : next.phases = snapshot.phases.set index new)
    (consumer : next.consumer = snapshot.consumer) (lost : old.isAlarmed.toNat = before)
    (won : new.isAlarmed.toNat = after) : next.alarms + before = snapshot.alarms + after := by
  have counted := countP_set_add ProducerPhase.isAlarmed new was
  rw [alarms, alarms, phases, consumer]
  omega

/-- A producer that keeps clear of the slot, or goes on with its alarm. -/
theorem calm {index : Nat} {old new : ProducerPhase ρ} {event : Executor.Event ρ α β}
    (alarm : snapshot.Alarm history) (was : snapshot.phases[index]? = some old)
    (phases : next.phases = snapshot.phases.set index new)
    (same : new.isAlarmed = old.isAlarmed) (other : old ≠ .alarmed)
    (consumer : next.consumer = snapshot.consumer) (hushed : Hushed snapshot next) :
    next.Alarm (history.extend snapshot event next) := by
  apply alarm.quiet hushed.messages hushed.failure
    (alarms_set was phases consumer rfl (congrArg Bool.toNat same))
  · rw [Barred, Barred, hushed.closed, consumer, phases]
    rintro (closed | alarmed | mine)
    · exact .inl closed
    · exact .inr (.inl (mem_set_of_ne alarmed was other))
    · exact .inr (.inr mine)
  · rw [consumer]
    exact alarm.ended

/-- While a producer runs, no result is sent. -/
theorem unsent {index : Nat} {old : ProducerPhase ρ} (agreement : snapshot.Agreement)
    (completion : snapshot.Completion history) (consumption : snapshot.Consumption history)
    (was : snapshot.phases[index]? = some old) (alive : old ≠ .ended) (result : β) :
    .finished result ∉ history.signals := by
  intro sent
  obtain ⟨-, -, requests, -⟩ := consumption.delivered result sent
  have asked : .finish ∈ history.requests := by
    rw [requests]
    simp
  exact alive (agreement.all_ended (completion.finishing asked).2.1 old (List.mem_of_getElem? was))

/-- A producer that closes the queue has not been marked done, so the queue is closed. -/
theorem closes {index : Nat} (agreement : snapshot.Agreement)
    (was : snapshot.phases[index]? = some .alarmed) : snapshot.close.closed = true := by
  have running : ¬ snapshot.registered ≤ snapshot.marks := by
    intro finished
    have ended := agreement.all_ended finished _ (List.mem_of_getElem? was)
    contradiction
  cases closed : snapshot.closed <;> simp [Snapshot.close, Snapshot.isOver, closed, running]

theorem producer {index : Nat} {act : Executor.ProducerAct ρ α}
    (alarm : snapshot.Alarm history) (agreement : snapshot.Agreement)
    (completion : snapshot.Completion history) (consumption : snapshot.Consumption history)
    (move : ProducerMove snapshot index next) :
    next.Alarm (history.extend snapshot (.producer index act) next) := by
  cases move with
  | turned old new was busy stays =>
    have before := ProducerPhase.not_isAlarmed_of_isBusy busy
    have after := ProducerPhase.not_isAlarmed_of_isBusy stays
    refine alarm.calm was rfl (after.trans before.symm) ?_ rfl {}
    rintro rfl
    contradiction
  | inserts _ _ was | measuringFailed _ _ was | accepted _ was =>
    exact alarm.calm was rfl rfl (by simp) rfl {}
  | declined new was call stays =>
    exact alarm.calm was rfl (ProducerPhase.not_isAlarmed_of_isBusy stays) (by simp) rfl {}
  | reported was =>
    rcases was with was | was
    · exact alarm.calm was rfl rfl (by simp) rfl {}
    · exact alarm.calm was rfl rfl (by simp) rfl {}
  | recorded error was first =>
    have unsent := unsent agreement completion consumption was (by simp)
    refine alarm.records (Nat.le_refl _) first rfl (alarms_set was rfl rfl rfl rfl) unsent ?_
    exact .inr (.inl (List.mem_set (List.getElem?_eq_some_iff.mp was).1 _))
  | closes was free =>
    exact alarm.quiet (Nat.le_refl _) rfl (alarms_set was rfl rfl rfl rfl)
      (fun _ => .inl (closes agreement was)) alarm.ended
  | signalled was =>
    refine alarm.signals rfl rfl (alarms_set was rfl rfl rfl rfl) ?_ alarm.ended
    rintro (closed | alarmed | mine)
    · exact .inl closed
    · exact .inr (.inl (mem_set_of_ne alarmed was (by simp)))
    · exact .inr (.inr mine)
  | discarded _ was | closed was | marked was => exact alarm.calm was rfl rfl (by simp) rfl {}

/-- The alarm of a consumer that goes on. -/
theorem alarms_consumer {before after : Nat} (phases : next.phases = snapshot.phases)
    (lost : snapshot.consumer.isAlarmed.toNat = before)
    (won : next.consumer.isAlarmed.toNat = after) :
    next.alarms + before = snapshot.alarms + after := by
  rw [alarms, alarms, phases]
  omega

/-- A consumer that keeps clear of the slot. -/
theorem steady {event : Executor.Event ρ α β} (alarm : snapshot.Alarm history)
    (before : snapshot.consumer.isAlarmed = false) (alive : snapshot.consumer ≠ .ended)
    (after : next.consumer.isAlarmed = false) (goesOn : next.consumer ≠ .ended)
    (phases : next.phases = snapshot.phases) (hushed : Hushed snapshot next) :
    next.Alarm (history.extend snapshot event next) := by
  apply alarm.quiet hushed.messages hushed.failure
    (alarms_consumer phases (congrArg Bool.toNat before) (congrArg Bool.toNat after))
  · rw [Barred, Barred, hushed.closed, phases]
    rintro (closed | alarmed | mine | past)
    · exact .inl closed
    · exact .inr (.inl alarmed)
    · rw [before] at mine
      contradiction
    · exact absurd past alive
  · exact fun past => absurd past goesOn

/-- The consumer finishes on a queue that is done, so nothing keeps it from finishing. -/
theorem failure_of_delivering {result : β} (alarm : snapshot.Alarm history)
    (agreement : snapshot.Agreement) (completion : snapshot.Completion history)
    (consumption : snapshot.Consumption history)
    (was : snapshot.consumer = .delivering result) : snapshot.failure = none := by
  have requests := consumption.asked_of_tails (by rw [was]; rfl)
  have asked : .finish ∈ history.requests := by
    rw [requests]
    simp
  have done := completion.finishing asked
  cases failure : snapshot.failure with
  | none => rfl
  | some captured =>
    rcases alarm.barred (by simp [failure]) with closed | alarmed | mine | past
    · rw [done.1] at closed
      contradiction
    · have ended := agreement.all_ended done.2.1 _ alarmed
      contradiction
    · rw [was] at mine
      contradiction
    · rw [was] at past
      contradiction

/-- Whoever owes a signal has set the slot. -/
theorem failure_of_alarmed (alarm : snapshot.Alarm history)
    (alarmed : snapshot.consumer.isAlarmed = true) : snapshot.failure ≠ none := by
  intro empty
  have balance := alarm.balance
  rw [empty, alarms, alarmed] at balance
  simp at balance

theorem failure_of_alarmed_producer {index : Nat} {phase : ProducerPhase ρ}
    (alarm : snapshot.Alarm history) (found : snapshot.phases[index]? = some phase)
    (alarmed : phase.isAlarmed = true) : snapshot.failure ≠ none := by
  intro empty
  have owed : 0 < snapshot.phases.countP ProducerPhase.isAlarmed :=
    List.countP_pos_iff.mpr ⟨phase, List.mem_of_getElem? found, alarmed⟩
  have balance := alarm.balance
  rw [empty, alarms, Option.isSome_none, Bool.toNat_false] at balance
  omega

theorem delivers {result : β} (alarm : snapshot.Alarm history)
    (agreement : snapshot.Agreement) (completion : snapshot.Completion history)
    (consumption : snapshot.Consumption history)
    (was : snapshot.consumer = .delivering result) (phases : next.phases = snapshot.phases)
    (consumer : next.consumer = .ended) (failure : next.failure = snapshot.failure)
    (messages : next.messages = snapshot.messages ++ [.finished result]) :
    next.Alarm (history.extend snapshot (.consumer .deliver) next) := by
  have clear := alarm.failure_of_delivering agreement completion consumption was
  have signals : (history.extend snapshot (.consumer .deliver) next).signals =
      history.signals ++ [.finished result] := History.signals_extend_append messages
  have unsent : history.signals.countP Signal.isFinished = 0 := by
    rw [List.countP_eq_zero]
    intro signal sent finished
    cases signal with
    | finished other =>
      have ended := (consumption.delivered other sent).1
      rw [was] at ended
      contradiction
    | failed => contradiction
  constructor
  · have counted : next.alarms + 0 = snapshot.alarms + 0 :=
      alarms_consumer phases (by rw [was]; rfl) (by rw [consumer]; rfl)
    have before := alarm.balance
    rw [signals, List.countP_append, failure]
    simp only [List.countP_singleton, Signal.isFailed, Bool.false_eq_true, ↓reduceIte]
    omega
  · rw [failure]
    exact fun set => absurd clear set
  · rw [signals, List.countP_append, unsent]
    exact Nat.le_refl 1
  · rw [failure]
    exact fun _ _ => clear
  · refine fun _ => .inr ⟨result, ?_⟩
    rw [signals]
    simp

theorem consumer {act : Executor.ConsumerAct β} (alarm : snapshot.Alarm history)
    (agreement : snapshot.Agreement) (completion : snapshot.Completion history)
    (consumption : snapshot.Consumption history) (move : ConsumerMove snapshot act next) :
    next.Alarm (history.extend snapshot (.consumer act) next) := by
  have unsent : snapshot.consumer ≠ .ended → ∀ result, .finished result ∉ history.signals :=
    fun alive result sent => alive (consumption.delivered result sent).1
  cases move with
  | turned act new turn =>
    obtain ⟨before, alive⟩ := ConsumerPhase.calm_of_turn turn
    refine alarm.steady before alive ?_ ?_ rfl {}
    · rcases Executor.cases_of_turn turn with ⟨error, rfl⟩ | ⟨-, -, rfl⟩ | ⟨result, -, -, rfl⟩ <;>
        rfl
    · rcases Executor.cases_of_turn turn with ⟨error, rfl⟩ | ⟨-, -, rfl⟩ | ⟨result, -, -, rfl⟩ <;>
        simp
  | starts was free =>
    exact alarm.steady (by rw [was]; rfl) (by simp [was]) rfl (by simp) rfl {}
  | goesOn entry was free =>
    exact alarm.steady (by rw [was]; rfl) (by simp [was]) rfl (by simp) rfl {}
  | receives entry was call =>
    exact alarm.steady (by rw [was]; rfl) (by simp [was]) rfl (by simp) rfl {}
  | drains status was call =>
    exact alarm.steady (by rw [was]; rfl) (by simp [was]) rfl (by simp) rfl {}
  | reports status was =>
    refine alarm.steady (by rw [was]; rfl) (by simp [was]) ?_ ?_ rfl {}
    · cases status <;> rfl
    · cases status <;> simp [Executor.afterDrained]
  | delivers result was =>
    exact alarm.delivers agreement completion consumption was rfl rfl rfl rfl
  | recorded error was first =>
    exact alarm.records (Nat.le_refl _) first rfl (alarms_consumer rfl (by rw [was]; rfl) rfl)
      (unsent (by simp [was])) (.inr (.inr (.inl rfl)))
  | discarded error was late =>
    exact alarm.quiet (Nat.le_refl _) rfl (alarms_consumer rfl (by rw [was]; rfl) rfl)
      (fun _ => .inr (.inr (.inr rfl))) (fun _ => .inl late)
  | closes was free =>
    exact alarm.quiet (Nat.le_refl _) rfl (alarms_consumer rfl (by rw [was]; rfl) rfl)
      (fun _ => .inr (.inr (.inl rfl))) (by simp)
  | closed was =>
    exact alarm.quiet (Nat.le_refl _) rfl (alarms_consumer rfl (by rw [was]; rfl) rfl)
      (fun _ => .inr (.inr (.inl rfl))) (by simp)
  | signalled was =>
    refine alarm.signals rfl rfl (alarms_consumer rfl (by rw [was]; rfl) rfl)
      (fun _ => .inr (.inr (.inr rfl))) (fun _ => .inl (alarm.failure_of_alarmed ?_))
    rw [was]
    rfl

/-- A step of somebody who is no worker. -/
theorem untouched {event : Executor.Event ρ α β} (alarm : snapshot.Alarm history)
    (apart : Apart snapshot next) : next.Alarm (history.extend snapshot event next) := by
  apply alarm.quiet apart.messages apart.failure
    (alarms_consumer apart.phases rfl (by rw [apart.consumer]))
  · rw [Barred, Barred, apart.phases, apart.consumer]
    rintro (shut | others)
    · exact .inl (apart.closed shut)
    · exact .inr others
  · rw [apart.consumer]
    exact alarm.ended

theorem caller {call : Nat} {act : Executor.ExecuteAct} (alarm : snapshot.Alarm history)
    (started : snapshot.Started) (move : CallerMove snapshot call next) :
    next.Alarm (history.extend snapshot (.executing call act) next) := by
  have unborn : ∀ {worker : Nat}, snapshot.executes[call]? = some (.spawning worker) →
      snapshot.Unborn worker :=
    fun was => started.frontier _ (List.mem_of_getElem? was) _ rfl
  cases move with
  | takesParts was => exact alarm.untouched {}
  | withdraws reason was => exact alarm.untouched {}
  | spawnsProducer worker new was inside born =>
    obtain ⟨old, found⟩ : ∃ old, snapshot.phases[worker]? = some old :=
      ⟨_, List.getElem?_eq_getElem inside⟩
    have same := (unborn was).2 worker old (Nat.le_refl _) found
    subst same
    exact alarm.calm found rfl (ProducerPhase.not_isAlarmed_of_isBusy born) (by simp) rfl {}
  | spawnsHook worker was last =>
    have fresh := (unborn was).1
    exact alarm.steady (by rw [fresh]; rfl) (by simp [fresh]) rfl (by simp) rfl {}
  | spawnsPull worker was last free =>
    have fresh := (unborn was).1
    exact alarm.steady (by rw [fresh]; rfl) (by simp [fresh]) rfl (by simp) rfl {}
  | receives message rest was front =>
    refine alarm.untouched { messages := ?_ }
    rw [front]
    exact Nat.le_succ _
  | proceeds old new was turn => exact alarm.untouched {}

theorem move {event : Executor.Event ρ α β} (alarm : snapshot.Alarm history)
    (started : snapshot.Started) (agreement : snapshot.Agreement)
    (completion : snapshot.Completion history) (consumption : snapshot.Consumption history)
    (move : Move snapshot event next) : next.Alarm (history.extend snapshot event next) := by
  cases move with
  | queue move =>
    have frame := move.frame
    exact alarm.untouched
      { phases := frame.phases
        consumer := frame.consumer
        failure := frame.failure
        messages := Nat.le_of_eq (by rw [frame.messages])
        closed := frame.closed.trans }
  | producer move => exact alarm.producer agreement completion consumption move
  | consumer move => exact alarm.consumer agreement completion consumption move
  | caller move => exact alarm.caller started move
  | user mine move =>
    have frame := move.frame
    exact alarm.untouched
      { phases := frame.phases
        consumer := frame.consumer
        failure := frame.failure
        messages := Nat.le_of_eq (by rw [frame.messages])
        closed := frame.contents.closed }
  | still others => exact alarm.untouched {}

end Alarm

theorem alarm_start (producers : Nat) : (start producers : Snapshot ρ α β).Alarm {} := by
  constructor
  · have calm : (ProducerPhase.unborn : ProducerPhase ρ).isAlarmed = false := rfl
    simp [start, alarms, List.countP_replicate, calm, ConsumerPhase.isAlarmed]
  · simp [start]
  · exact Nat.zero_le 1
  · simp
  · simp [start]

end Snapshot

theorem Reached.carried {producers : Nat} {snapshot : Snapshot ρ α β}
    {history : History ρ α β} (reached : Reached producers snapshot history) :
    snapshot.Carried history := by
  induction reached with
  | start => exact Snapshot.carried_start producers
  | move _ move ih => exact ih.move move

theorem Reached.alarm {producers : Nat} {snapshot : Snapshot ρ α β}
    {history : History ρ α β} (reached : Reached producers snapshot history) :
    snapshot.Alarm history := by
  induction reached with
  | start => exact Snapshot.alarm_start producers
  | move reached move ih =>
    exact ih.move reached.started reached.agreement reached.completion reached.consumption move

end BoundedIngest

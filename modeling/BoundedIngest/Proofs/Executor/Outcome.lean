/-
Module: BoundedIngest.Proofs.Executor.Outcome
Purpose: What a run guarantees, whatever its callbacks do and in whatever order its threads
  take their steps.
Main exports:
  Chronicle.RanDry, Chronicle.no_partial_result, Chronicle.exactly_one_signal
-/
import BoundedIngest.Proofs.Executor.Signals

namespace BoundedIngest.Chronicle

variable {ρ α β : Type} {config : ExecutorConfig} {hooked : Bool} {kinds : List SourceKind}
  {events later : List (Executor.Event ρ α β)} {chronicle next final : Chronicle ρ α β}

/-! ### What a history keeps -/

theorem subset_of_step {event : Executor.Event ρ α β}
    (stepped : chronicle.step event = some next) :
    chronicle.history.requests ⊆ next.history.requests ∧
      chronicle.history.signals ⊆ next.history.signals := by
  obtain ⟨executor, moved, rfl⟩ := Option.map_eq_some_iff.mp stepped
  constructor
  · intro request asked
    simp only [History.extend]
    split
    · exact List.mem_append_left _ asked
    · exact asked
  · exact fun signal sent => Snapshot.signals_subset sent

/-- What was asked and sent once was asked and sent for ever. -/
theorem subset_of_run (ran : chronicle.run events = some final) :
    chronicle.history.requests ⊆ final.history.requests ∧
      chronicle.history.signals ⊆ final.history.signals := by
  induction events generalizing chronicle with
  | nil =>
    cases ran
    exact ⟨fun _ asked => asked, fun _ sent => sent⟩
  | cons event rest ih =>
    obtain ⟨middle, stepped, ran⟩ := Option.bind_eq_some_iff.mp ran
    obtain ⟨requests, signals⟩ := subset_of_step stepped
    obtain ⟨requestsLater, signalsLater⟩ := ih ran
    exact ⟨fun _ asked => requestsLater (requests asked),
      fun _ sent => signalsLater (signals sent)⟩

theorem reached_of_start (ran : (start config hooked kinds).run events = some chronicle) :
    Reached kinds.length chronicle.executor.snapshot chronicle.history :=
  reached_of_run (reached_start config hooked kinds) ran

/-! ### What a queue keeps -/

/-- A queue that is closed stays closed. -/
theorem closed_of_run (ran : chronicle.run events = some final)
    (closed : chronicle.executor.snapshot.closed = true) :
    final.executor.snapshot.closed = true := by
  induction events generalizing chronicle with
  | nil =>
    cases ran
    exact closed
  | cons event rest ih =>
    obtain ⟨middle, stepped, ran⟩ := Option.bind_eq_some_iff.mp ran
    exact ih ran ((Executor.move_of_step (executor_of_step stepped)).closed closed)

theorem status_of_done (done : chronicle.executor.snapshot.Done) :
    chronicle.executor.shared.queue.status = .done := by
  obtain ⟨stillOpen, finished, empty⟩ := done
  simp only [Executor.snapshot] at stillOpen finished empty
  simp [Queue.status, Queue.producersFinished, stillOpen, finished, empty]

theorem closed_of_status (closed : chronicle.executor.shared.queue.status = .closed) :
    chronicle.executor.snapshot.closed = true := by
  simp only [Queue.status] at closed
  split at closed
  · assumption
  · split at closed
    · contradiction
    · split at closed <;> contradiction

/-! ### No partial result -/

/-- Whatever was inserted was consumed, and nothing more can be inserted. -/
structure RanDry (chronicle : Chronicle ρ α β) : Prop where
  /-- Every entry inserted was passed to the consumer once, in the order of insertion. -/
  passed : chronicle.history.passed = chronicle.history.pushed.map (·.2)
  /-- Every one of them was consumed well. -/
  consumed : chronicle.history.consumed = chronicle.history.passed
  /-- Every producer has ended, and these are the entries it inserted. -/
  producers : ∀ index worker, chronicle.executor.producers[index]? = some worker →
    worker.phase = .ended ∧ (chronicle.history.pushedBy index).length = worker.produced
  inserters : ∀ pair ∈ chronicle.history.pushed, pair.1 < chronicle.executor.producers.length
  marked : chronicle.executor.shared.queue.producersDone =
    chronicle.executor.shared.queue.producersTotal
  status : chronicle.executor.shared.queue.status = .done

theorem ranDry_of_reached {producers : Nat}
    (reached : Reached producers chronicle.executor.snapshot chronicle.history)
    (asked : .finish ∈ chronicle.history.requests) : chronicle.RanDry := by
  have agreement := reached.agreement
  have done := reached.completion.finishing asked
  have ended := agreement.all_ended done.2.1
  have length : chronicle.executor.snapshot.phases.length =
      chronicle.executor.producers.length := Executor.length_phases
  have order := reached.order
  obtain ⟨tail, found, requests, caughtUp⟩ := reached.consumption.asked
  have tailed : tail ≠ [] := by
    rintro rfl
    rw [requests] at asked
    simp at asked
  have inHand : chronicle.executor.snapshot.inHand = [] := by
    obtain ⟨outline, call, errand⟩ := agreement.consumer_outline
    have notPulling : chronicle.executor.snapshot.consumer ≠ .pulling := by
      intro pulling
      rw [pulling] at found
      exact tailed (List.mem_singleton.mp found)
    rw [Snapshot.inHand_of call]
    cases outline with
    | holding entry => exact absurd (agreement.pulling call rfl).2 notPulling
    | idle | inserting | inserted | refused | pulling | ended | closing => rfl
  constructor
  · have sum := order.order
    rw [inHand, done.2.2, order.kept done.1] at sum
    simpa using sum.symm
  · exact caughtUp tailed
  · intro index worker here
    have phase := ended _ (List.mem_of_getElem? (Executor.phases_getElem? here))
    refine ⟨phase, ?_⟩
    rw [reached.ledger.balance index _ (Executor.produced_getElem? here)]
    obtain ⟨outline, call, errand⟩ :=
      agreement.producer_outline (Executor.phases_getElem? here)
    rw [phase] at errand
    rw [Snapshot.pending_of call]
    cases outline <;> first | rfl | contradiction
  · intro pair pushed
    rw [← length]
    exact reached.ledger.inserters pair pushed
  · exact agreement.marks_of_all_ended ended
  · exact status_of_done done

/-- Nobody is asked to finish on a queue that was closed, and nobody gets a result. -/
theorem nothing_of_closed {producers : Nat}
    (reached : Reached producers chronicle.executor.snapshot chronicle.history)
    (closed : chronicle.executor.snapshot.closed = true) :
    .finish ∉ chronicle.history.requests ∧ .conclude ∉ chronicle.history.requests ∧
      ∀ result, .returned (.ok result) ∉ chronicle.executor.executes := by
  have unasked : .finish ∉ chronicle.history.requests := by
    intro asked
    have stillOpen := (reached.completion.finishing asked).1
    rw [closed] at stillOpen
    contradiction
  refine ⟨unasked, fun asked => unasked (reached.consumption.finish_of_conclude asked),
    fun result returned => ?_⟩
  · have sent := reached.carried.results _ returned result rfl
    obtain ⟨-, -, finished, -⟩ := reached.consumption.delivered result sent
    rw [finished] at unasked
    simp at unasked

/-- A consumer that is asked to finish has consumed everything that was inserted, and the
queue has run dry for good.  Once the queue is closed, the consumer is never asked to
finish, and nobody who executes gets a result. -/
theorem no_partial_result
    (ran : (start config hooked kinds).run events = some chronicle)
    (goesOn : chronicle.run later = some final) :
    (.finish ∈ chronicle.history.requests → chronicle.RanDry ∧ final.RanDry) ∧
      (chronicle.executor.shared.queue.status = .closed →
        .finish ∉ final.history.requests ∧ .conclude ∉ final.history.requests ∧
          ∀ result, .returned (.ok result) ∉ final.executor.executes) := by
  have reached := reached_of_start ran
  have reachedLater := reached_of_run reached goesOn
  constructor
  · intro asked
    exact ⟨ranDry_of_reached reached asked,
      ranDry_of_reached reachedLater ((subset_of_run goesOn).1 asked)⟩
  · intro status
    exact nothing_of_closed reachedLater (closed_of_run goesOn (closed_of_status status))

/-- One record is offered, transformed, inserted and consumed, and then the run completes. -/
def deliveredRun : List (Executor.Event Nat Nat Nat) :=
  [.execute, .executing 0 (.readFlag false), .executing 0 .proceed, .executing 0 .proceed,
    .executing 0 .proceed, .executing 0 .proceed, .executing 0 .proceed, .executing 0 .proceed,
    .producer 0 (.offered 7), .producer 0 .checkFlag, .producer 0 (.transformed 8),
    .producer 0 (.measured 10), .enterQueue 0, .notifyQueue 0 none, .reportQueue 0,
    .producer 0 .inserted, .producer 0 .sourceEnded, .producer 0 .report, .producer 0 .markDone,
    .enterQueue 1, .notifyQueue 1 none, .reportQueue 1, .consumer .pulled, .consumer .consumed,
    .enterQueue 1, .consumer .pulled, .consumer .report, .consumer .finished,
    .consumer (.concluded 0), .consumer .deliver, .executing 0 .proceed, .executing 0 .proceed,
    .executing 0 .proceed, .executing 0 .proceed]

/-- A run that finishes with an entry, and one in which the queue is closed at once. -/
theorem no_partial_result_inhabited :
    (∃ chronicle : Chronicle Nat Nat Nat,
      (start {} false [.records]).run deliveredRun = some chronicle ∧
        .finish ∈ chronicle.history.requests ∧ chronicle.RanDry) ∧
      ∃ chronicle : Chronicle Nat Nat Nat,
        (start {} false [.records]).run [.shutdown, .shuttingDown 0] = some chronicle ∧
          chronicle.executor.shared.queue.status = .closed ∧
            .finish ∉ chronicle.history.requests := by
  constructor
  · have asks : ((start {} false [.records]).run deliveredRun).map
        (fun chronicle => decide (.finish ∈ chronicle.history.requests)) = some true := by
      decide +kernel
    obtain ⟨chronicle, ran, asked⟩ := Option.map_eq_some_iff.mp asks
    have finish := of_decide_eq_true asked
    have stays : chronicle.run [] = some chronicle := rfl
    exact ⟨chronicle, ran, finish, ((no_partial_result ran stays).1 finish).1⟩
  · have closes : ((start {} false [.records] : Chronicle Nat Nat Nat).run
        [.shutdown, .shuttingDown 0]).map
        (fun chronicle => decide (chronicle.executor.shared.queue.status = .closed)) =
          some true := by
      decide +kernel
    obtain ⟨chronicle, ran, closed⟩ := Option.map_eq_some_iff.mp closes
    have status := of_decide_eq_true closed
    have stays : chronicle.run [] = some chronicle := rfl
    exact ⟨chronicle, ran, status, ((no_partial_result ran stays).2 status).1⟩

/-! ### Signals -/

theorem all_ended_of_hasEnded
    (ended : ∀ worker ∈ chronicle.executor.workers, chronicle.executor.hasEnded worker = true) :
    (∀ phase ∈ chronicle.executor.snapshot.phases, phase = .ended) ∧
      chronicle.executor.snapshot.consumer = .ended := by
  constructor
  · intro phase found
    obtain ⟨worker, here, rfl⟩ := List.mem_map.mp found
    obtain ⟨index, inside, rfl⟩ := List.mem_iff_getElem.mp here
    have past := ended index (List.mem_range.mpr (Nat.lt_succ_of_lt inside))
    rw [Executor.hasEnded, List.getElem?_eq_getElem inside] at past
    dsimp only at past
    split at past
    · assumption
    · contradiction
  · have past := ended chronicle.executor.consumerIndex
      (List.mem_range.mpr (Nat.lt_succ_self _))
    rw [Executor.hasEnded, Executor.consumerIndex, List.getElem?_eq_none (Nat.le_refl _)] at past
    dsimp only at past
    split at past
    · assumption
    · contradiction

theorem length_signals (signals : List (Signal β)) :
    signals.length = signals.countP Signal.isFailed + signals.countP Signal.isFinished := by
  induction signals with
  | nil => rfl
  | cons signal rest ih =>
    rw [List.length_cons, List.countP_cons, List.countP_cons, ih]
    cases signal <;> simp +arith [Signal.isFailed, Signal.isFinished]

/-- Once every worker has ended, exactly one signal was sent: a result if the failure slot
is empty, and otherwise a failure.  Once a result was sent, the slot stays empty. -/
theorem exactly_one_signal
    (ran : (start config hooked kinds).run events = some chronicle) :
    ((∀ worker ∈ chronicle.executor.workers, chronicle.executor.hasEnded worker = true) →
      ∃ signal, chronicle.history.signals = [signal] ∧
        ((∃ result, signal = .finished result) ↔ chronicle.executor.failure.captured = none) ∧
        (signal = .failed ↔ chronicle.executor.failure.captured ≠ none)) ∧
      ∀ result, .finished result ∈ chronicle.history.signals →
        ∀ later final, chronicle.run later = some final →
          final.executor.failure.captured = none := by
  have reached := reached_of_start ran
  constructor
  · intro ended
    obtain ⟨producers, consumer⟩ := all_ended_of_hasEnded ended
    have alarm := reached.alarm
    have quiet : chronicle.executor.snapshot.alarms = 0 := by
      rw [Snapshot.alarms, consumer, List.countP_eq_zero.mpr]
      · rfl
      · intro phase found
        rw [producers phase found]
        simp [ProducerPhase.isAlarmed]
    have balance := alarm.balance
    have length := length_signals chronicle.history.signals
    rw [quiet] at balance
    cases failure : chronicle.executor.snapshot.failure with
    | none =>
      have empty : chronicle.executor.failure.captured = none := failure
      obtain ⟨result, sent⟩ := (alarm.ended consumer).resolve_left (by simp [failure])
      have counted : 0 < chronicle.history.signals.countP Signal.isFinished :=
        List.countP_pos_iff.mpr ⟨_, sent, rfl⟩
      have single := alarm.single
      rw [failure, Option.isSome_none, Bool.toNat_false] at balance
      obtain ⟨signal, only⟩ := List.length_eq_one_iff.mp
        (by omega : chronicle.history.signals.length = 1)
      rw [only] at sent
      cases List.mem_singleton.mp sent
      exact ⟨_, only, by simp [empty], by simp [empty]⟩
    | some captured =>
      have set : chronicle.executor.failure.captured = some captured := failure
      have unsent : chronicle.history.signals.countP Signal.isFinished = 0 := by
        rw [List.countP_eq_zero]
        intro signal sent finished
        cases signal with
        | finished result =>
          have clean := alarm.clean result sent
          rw [failure] at clean
          contradiction
        | failed => contradiction
      rw [failure, Option.isSome_some, Bool.toNat_true] at balance
      obtain ⟨signal, only⟩ := List.length_eq_one_iff.mp
        (by omega : chronicle.history.signals.length = 1)
      rw [only] at unsent
      cases signal with
      | finished result => simp [Signal.isFinished] at unsent
      | failed => exact ⟨.failed, only, by simp [set], by simp [set]⟩
  · intro result sent later final goesOn
    have reachedLater := reached_of_run reached goesOn
    exact reachedLater.alarm.clean result ((subset_of_run goesOn).2 sent)

/-- Everybody has ended, and the one signal is the result. -/
theorem exactly_one_signal_inhabited :
    ∃ chronicle : Chronicle Nat Nat Nat,
      (start {} false [.records]).run deliveredRun = some chronicle ∧
        (∀ worker ∈ chronicle.executor.workers, chronicle.executor.hasEnded worker = true) ∧
          ∃ signal, chronicle.history.signals = [signal] := by
  have ends : ((start {} false [.records]).run deliveredRun).map
      (fun chronicle => chronicle.executor.workers.all chronicle.executor.hasEnded) =
        some true := by
    decide +kernel
  obtain ⟨chronicle, ran, ended⟩ := Option.map_eq_some_iff.mp ends
  have all := List.all_eq_true.mp ended
  obtain ⟨signal, only, -⟩ := (exactly_one_signal ran).1 all
  exact ⟨chronicle, ran, all, signal, only⟩

end BoundedIngest.Chronicle

/-
Module: BoundedIngest.Proofs.Executor.Consumption
Purpose: What the consumer was asked for at each point of its course.
Main exports:
  Snapshot.Consumption, Reached.consumption
-/
import BoundedIngest.Proofs.Executor.Started

namespace BoundedIngest

/-!
A consumer is passed entries one at a time, and each of them only after the one before was
consumed well.  Then it is asked to finish and for its result, once each.  A failure ends
the course at any point.
-/

variable {ρ α β : Type}

/-- What may have been asked after the entries, by phase. -/
def ConsumerPhase.tails : ConsumerPhase α β → List (List (Request α))
  | .finishing => [[.finish]]
  | .concluding | .delivering _ => [[.finish, .conclude]]
  | .failing _ | .alarmed | .closing | .signalling | .ended =>
      [[], [.finish], [.finish, .conclude]]
  | _ => [[]]

theorem ConsumerPhase.tails_subset (phase : ConsumerPhase α β) :
    phase.tails ⊆ [[], [.finish], [.finish, .conclude]] := by
  cases phase <;> simp [ConsumerPhase.tails]

/-- Every entry passed so far was consumed well. -/
def ConsumerPhase.isCaughtUp : ConsumerPhase α β → Bool
  | .unborn | .hooking | .pulling | .drained _ | .finishing | .concluding | .delivering _ => true
  | _ => false

namespace Snapshot

structure Consumption (snapshot : Snapshot ρ α β) (history : History ρ α β) : Prop where
  caughtUp : snapshot.consumer.isCaughtUp = true → history.consumed = history.passed
  current : ∀ entry, snapshot.consumer = .consuming entry →
    history.passed = history.consumed ++ [entry]
  asked : ∃ tail ∈ snapshot.consumer.tails,
    history.requests = history.passed.map .consume ++ tail ∧
      (tail ≠ [] → history.consumed = history.passed)
  unanswered : (∀ result, snapshot.consumer ≠ .delivering result) →
    snapshot.consumer ≠ .ended → history.results = []
  answered : ∀ result, snapshot.consumer = .delivering result → history.results = [result]
  delivered : ∀ result, .finished result ∈ history.signals →
    snapshot.consumer = .ended ∧ history.results = [result] ∧
      history.requests = history.passed.map .consume ++ [.finish, .conclude] ∧
      history.consumed = history.passed

end Snapshot

namespace Snapshot

variable {snapshot next : Snapshot ρ α β} {history later : History ρ α β}

/-- What was asked before the next request can come. -/
theorem Consumption.asked_of_tails {tail : List (Request α)}
    (consumption : snapshot.Consumption history) (tails : snapshot.consumer.tails = [tail]) :
    history.requests = history.passed.map .consume ++ tail := by
  obtain ⟨other, found, requests, -⟩ := consumption.asked
  rw [tails] at found
  rw [← List.mem_singleton.mp found]
  exact requests

theorem Consumption.unanswered_of {phase : ConsumerPhase α β}
    (consumption : snapshot.Consumption history) (was : snapshot.consumer = phase)
    (silent : ∀ result, phase ≠ .delivering result) (alive : phase ≠ .ended) :
    history.results = [] := by
  subst was
  exact consumption.unanswered silent alive

/-- A consumer that goes on has not delivered, and nobody else delivers. -/
theorem Consumption.silent (consumption : snapshot.Consumption history)
    (event : Executor.Event ρ α β) (alive : snapshot.consumer ≠ .ended)
    (messages : next.messages = snapshot.messages ∨
      next.messages = snapshot.messages ++ [.failed]) (result : β) :
    .finished result ∉ (history.extend snapshot event next).signals := by
  have unsent : .finished result ∉ history.signals :=
    fun sent => alive (consumption.delivered result sent).1
  rcases messages with same | failed
  · rw [History.signals_extend_same (same ▸ Nat.le_refl _)]
    exact unsent
  · rw [History.signals_extend_append failed]
    simp [unsent]

/-- A consumer that has consumed all it was passed, and is not passed another entry. -/
theorem Consumption.onward {tail : List (Request α)} {act : Executor.ConsumerAct β}
    (consumption : snapshot.Consumption history) (tails : snapshot.consumer.tails = [tail])
    (asks : tail ++ next.consumer.request?.toList ∈ next.consumer.tails)
    (idle : ∀ entry, next.consumer ≠ .consuming entry)
    (waiting : ∀ result, next.consumer ≠ .delivering result)
    (consumed : (history.extend snapshot (.consumer act) next).consumed = history.passed)
    (results : (history.extend snapshot (.consumer act) next).results = [])
    (silent : ∀ result,
      .finished result ∉ (history.extend snapshot (.consumer act) next).signals) :
    next.Consumption (history.extend snapshot (.consumer act) next) := by
  have passed : (history.extend snapshot (.consumer act) next).passed = history.passed :=
    History.passed_extend_idle idle
  have requests : (history.extend snapshot (.consumer act) next).requests =
      history.passed.map .consume ++ (tail ++ next.consumer.request?.toList) := by
    rw [← List.append_assoc, ← consumption.asked_of_tails tails]
    rfl
  constructor
  · exact fun _ => consumed.trans passed.symm
  · exact fun entry is => absurd is (idle entry)
  · refine ⟨_, asks, ?_, fun _ => consumed.trans passed.symm⟩
    rw [passed]
    exact requests
  · exact fun _ _ => results
  · exact fun result is => absurd is (waiting result)
  · exact fun result sent => absurd sent (silent result)

/-- A consumer that fails is asked for nothing more. -/
theorem Consumption.fails (consumption : snapshot.Consumption history)
    (waiting : ∀ result, snapshot.consumer ≠ .delivering result)
    (alive : snapshot.consumer ≠ .ended)
    (failed : next.consumer.tails = [[], [.finish], [.finish, .conclude]])
    (requests : later.requests = history.requests)
    (consumed : later.consumed = history.consumed) (results : later.results = history.results)
    (silent : ∀ result, .finished result ∉ later.signals) : next.Consumption later := by
  obtain ⟨tail, found, asked, caughtUp⟩ := consumption.asked
  have passed : later.passed = history.passed := by rw [History.passed, requests, History.passed]
  have any : tail ∈ next.consumer.tails := by
    rw [failed]
    exact snapshot.consumer.tails_subset found
  have slow : next.consumer.isCaughtUp = false ∧ next.consumer.request? = none ∧
      ∀ result, next.consumer ≠ .delivering result := by
    revert failed
    cases next.consumer <;>
      simp [ConsumerPhase.tails, ConsumerPhase.isCaughtUp, ConsumerPhase.request?]
  constructor
  · simp [slow.1]
  · intro entry is
    rw [is] at slow
    simp [ConsumerPhase.request?] at slow
  · refine ⟨tail, any, ?_, ?_⟩
    · rw [requests, passed]
      exact asked
    · rw [consumed, passed]
      exact caughtUp
  · intro _ _
    rw [results]
    exact consumption.unanswered waiting alive
  · exact fun result is => absurd is (slow.2.2 result)
  · exact fun result sent => absurd sent (silent result)

/-- The consumer gives its result. -/
theorem Consumption.answers {result : β} (consumption : snapshot.Consumption history)
    (was : snapshot.consumer = .concluding) (consumer : next.consumer = .delivering result)
    (messages : next.messages = snapshot.messages) :
    next.Consumption (history.extend snapshot (.consumer (.concluded result)) next) := by
  have caughtUp := consumption.caughtUp (by rw [was]; rfl)
  have asked := consumption.asked_of_tails (by rw [was]; rfl)
  have results := consumption.unanswered_of was (by simp) (by simp)
  have silent := consumption.silent (.consumer (.concluded result)) (by simp [was])
    (.inl messages)
  have passed : (history.extend snapshot (.consumer (.concluded result)) next).passed =
      history.passed := by
    rw [History.passed_extend_consumer, consumer]
    exact List.append_nil _
  have requests : (history.extend snapshot (.consumer (.concluded result)) next).requests =
      history.requests := by
    simp [History.extend, consumer, ConsumerPhase.request?]
  constructor
  · exact fun _ => caughtUp.trans passed.symm
  · simp [consumer]
  · rw [consumer, requests, passed]
    exact ⟨_, List.mem_singleton_self _, asked, fun _ => caughtUp⟩
  · exact fun waiting => absurd consumer (waiting result)
  · intro other is
    rw [consumer] at is
    cases is
    simp [History.extend, results]
  · exact fun other sent => absurd sent (silent other)

/-- The consumer gets an entry. -/
theorem Consumption.receives {entry : α} (consumption : snapshot.Consumption history)
    (was : snapshot.consumer = .pulling) (consumer : next.consumer = .consuming entry)
    (messages : next.messages = snapshot.messages) :
    next.Consumption (history.extend snapshot (.consumer .pulled) next) := by
  have caughtUp := consumption.caughtUp (by rw [was]; rfl)
  have asked := consumption.asked_of_tails (by rw [was]; rfl)
  have results := consumption.unanswered_of was (by simp) (by simp)
  have silent := consumption.silent (.consumer .pulled) (by simp [was]) (.inl messages)
  have passed : (history.extend snapshot (.consumer .pulled) next).passed =
      history.passed ++ [entry] := by
    rw [History.passed_extend_consumer, consumer]
    rfl
  have requests : (history.extend snapshot (.consumer .pulled) next).requests =
      history.requests ++ [.consume entry] := by
    simp [History.extend, consumer, ConsumerPhase.request?]
  constructor
  · simp [consumer, ConsumerPhase.isCaughtUp]
  · intro other is
    rw [consumer] at is
    cases is
    rw [passed, ← caughtUp]
    rfl
  · rw [consumer, requests, passed, asked]
    exact ⟨[], List.mem_singleton_self _, by simp, by simp⟩
  · exact fun _ _ => results
  · simp [consumer]
  · exact fun other sent => absurd sent (silent other)

/-- The consumer sends its result and ends. -/
theorem Consumption.delivers {result : β} (consumption : snapshot.Consumption history)
    (was : snapshot.consumer = .delivering result) (consumer : next.consumer = .ended)
    (messages : next.messages = snapshot.messages ++ [.finished result]) :
    next.Consumption (history.extend snapshot (.consumer .deliver) next) := by
  have caughtUp := consumption.caughtUp (by rw [was]; rfl)
  have asked := consumption.asked_of_tails (by rw [was]; rfl)
  have results := consumption.answered result was
  have unsent : ∀ other, .finished other ∉ history.signals := by
    intro other sent
    have ended := (consumption.delivered other sent).1
    rw [was] at ended
    contradiction
  have passed : (history.extend snapshot (.consumer .deliver) next).passed =
      history.passed := by
    rw [History.passed_extend_consumer, consumer]
    exact List.append_nil _
  have requests : (history.extend snapshot (.consumer .deliver) next).requests =
      history.requests := by
    simp [History.extend, consumer, ConsumerPhase.request?]
  constructor
  · simp [consumer, ConsumerPhase.isCaughtUp]
  · simp [consumer]
  · rw [consumer, requests, passed]
    exact ⟨_, by simp [ConsumerPhase.tails], asked, fun _ => caughtUp⟩
  · exact fun _ alive => absurd consumer alive
  · simp [consumer]
  · intro other sent
    rw [History.signals_extend_append messages] at sent
    rcases List.mem_append.mp sent with old | new
    · exact absurd old (unsent other)
    · cases List.mem_singleton.mp new
      rw [requests, passed]
      exact ⟨consumer, results, asked, caughtUp⟩

theorem Consumption.turned {act : Executor.ConsumerAct β} {new : ConsumerPhase α β}
    (consumption : snapshot.Consumption history)
    (turn : Executor.turnConsumer snapshot.consumer act = some new) :
    { snapshot with consumer := new }.Consumption
      (history.extend snapshot (.consumer act) { snapshot with consumer := new }) := by
  have alive : snapshot.consumer ≠ .ended := by
    intro ended
    rw [ended] at turn
    cases act <;> contradiction
  have waiting : ∀ result, snapshot.consumer ≠ .delivering result := by
    intro result delivering
    rw [delivering] at turn
    cases act <;> contradiction
  have results := consumption.unanswered waiting alive
  unfold Executor.turnConsumer at turn
  split at turn
  all_goals cases turn
  case h_4 was =>
    exact consumption.onward (by rw [was]; rfl) (by simp [ConsumerPhase.tails,
      ConsumerPhase.request?]) (by simp) (by simp) (consumption.caughtUp (by rw [was]; rfl))
      results (consumption.silent _ alive (.inl rfl))
  case h_7 result was => exact consumption.answers was rfl rfl
  all_goals
    exact consumption.fails waiting alive rfl (List.append_nil _) rfl rfl
      (consumption.silent _ alive (.inl rfl))

theorem Consumption.consumer {act : Executor.ConsumerAct β}
    (consumption : snapshot.Consumption history) (move : ConsumerMove snapshot act next) :
    next.Consumption (history.extend snapshot (.consumer act) next) := by
  cases move with
  | turned act new turn => exact consumption.turned turn
  | starts was free =>
    exact consumption.onward (by rw [was]; rfl) (List.mem_singleton_self _) (by simp) (by simp)
      (consumption.caughtUp (by rw [was]; rfl)) (consumption.unanswered_of was (by simp) (by simp))
      (consumption.silent _ (by simp [was]) (.inl rfl))
  | goesOn entry was free =>
    refine consumption.onward (by rw [was]; rfl) (List.mem_singleton_self _) (by simp) (by simp)
      ?_ (consumption.unanswered_of was (by simp) (by simp))
      (consumption.silent _ (by simp [was]) (.inl rfl))
    rw [consumption.current entry was]
    simp [History.extend, was]
  | receives entry was call => exact consumption.receives was rfl rfl
  | drains status was call =>
    exact consumption.onward (by rw [was]; rfl) (List.mem_singleton_self _) (by simp) (by simp)
      (consumption.caughtUp (by rw [was]; rfl)) (consumption.unanswered_of was (by simp) (by simp))
      (consumption.silent _ (by simp [was]) (.inl rfl))
  | reports status was =>
    by_cases done : status = .done
    · subst done
      exact consumption.onward (by rw [was]; rfl) (List.mem_singleton_self _)
        (by simp [Executor.afterDrained]) (by simp [Executor.afterDrained])
        (consumption.caughtUp (by rw [was]; rfl))
        (consumption.unanswered_of was (by simp) (by simp))
        (consumption.silent _ (by simp [was]) (.inl rfl))
    · have failing : Executor.afterDrained status =
          (.failing .interrupted : ConsumerPhase α β) := if_neg done
      rw [failing]
      exact consumption.fails (by simp [was]) (by simp [was]) rfl (List.append_nil _) rfl rfl
        (consumption.silent _ (by simp [was]) (.inl rfl))
  | delivers result was => exact consumption.delivers was rfl rfl
  | recorded _ was | discarded _ was | closes was | closed was =>
    exact consumption.fails (by simp [was]) (by simp [was]) rfl (List.append_nil _) rfl rfl
      (consumption.silent _ (by simp [was]) (.inl rfl))
  | signalled was =>
    exact consumption.fails (by simp [was]) (by simp [was]) rfl (List.append_nil _) rfl rfl
      (consumption.silent _ (by simp [was]) (.inr rfl))

/-- A step of somebody else, or the one that spawns the consumer. -/
theorem Consumption.others {event : Executor.Event ρ α β}
    (consumption : snapshot.Consumption history) (others : ∀ act, event ≠ .consumer act)
    (consumer : next.consumer = snapshot.consumer ∨ (snapshot.consumer = .unborn ∧
      (next.consumer = .hooking ∨ next.consumer = .pulling)))
    (messages : next.messages.length ≤ snapshot.messages.length ∨
      next.messages = snapshot.messages ++ [.failed]) :
    next.Consumption (history.extend snapshot event next) := by
  have requests : (history.extend snapshot event next).requests = history.requests :=
    History.requests_extend_others others
  have consumed : (history.extend snapshot event next).consumed = history.consumed := by
    cases event <;> first | rfl | exact absurd rfl (others _)
  have results : (history.extend snapshot event next).results = history.results := by
    cases event <;> first | rfl | exact absurd rfl (others _)
  have passed : (history.extend snapshot event next).passed = history.passed :=
    History.passed_extend_others others
  have signals : ∀ result, .finished result ∈ (history.extend snapshot event next).signals →
      .finished result ∈ history.signals := by
    intro result sent
    rcases messages with fewer | failed
    · rwa [History.signals_extend_same fewer] at sent
    · rw [History.signals_extend_append failed] at sent
      simpa using sent
  obtain ⟨caughtUp, current, asked, unanswered, answered, delivered⟩ := consumption
  rcases consumer with same | ⟨unborn, born⟩
  · constructor
    · rw [same, consumed, passed]
      exact caughtUp
    · rw [same, consumed, passed]
      exact current
    · rw [same, requests, consumed, passed]
      exact asked
    · rw [same, results]
      exact unanswered
    · rw [same, results]
      exact answered
    · rw [same, results, requests, consumed, passed]
      exact fun result sent => delivered result (signals result sent)
  · rw [unborn] at caughtUp asked unanswered delivered
    constructor
    · rw [consumed, passed]
      exact fun _ => caughtUp rfl
    · rcases born with born | born <;> simp [born]
    · rw [requests, consumed, passed]
      rcases born with born | born <;> rw [born] <;> exact asked
    · rw [results]
      exact fun _ _ => unanswered (by simp) (by simp)
    · rcases born with born | born <;> simp [born]
    · exact fun result sent => absurd (delivered result (signals result sent)).1 (by simp)

theorem Consumption.move {event : Executor.Event ρ α β}
    (consumption : snapshot.Consumption history) (started : snapshot.Started)
    (move : Move snapshot event next) :
    next.Consumption (history.extend snapshot event next) := by
  cases move with
  | queue move =>
    have frame := move.frame
    exact consumption.others (by simp) (.inl frame.consumer) (.inl (by simp [frame.messages]))
  | producer move =>
    have frame := move.frame
    refine consumption.others (by simp) (.inl frame.consumer) ?_
    rcases frame.messages with same | failed
    · exact .inl (by simp [same])
    · exact .inr failed
  | consumer move => exact consumption.consumer move
  | caller move =>
    have frame := move.frame
    refine consumption.others (by simp) ?_ (.inl frame.messages)
    rcases frame.consumer with same | ⟨⟨worker, found⟩, born⟩
    · exact .inl same
    · exact .inr ⟨(started.frontier _ found worker rfl).1, born⟩
  | user mine move =>
    have frame := move.frame
    refine consumption.others ?_ (.inl frame.consumer) (.inl (by simp [frame.messages]))
    rcases mine with rfl | rfl | ⟨call, rfl⟩ <;> simp
  | still others => exact consumption.others others (.inl rfl) (.inl (Nat.le_refl _))

/-- Nobody is asked for a result before being asked to finish. -/
theorem Consumption.finish_of_conclude (consumption : snapshot.Consumption history)
    (asked : .conclude ∈ history.requests) : .finish ∈ history.requests := by
  obtain ⟨tail, found, requests, -⟩ := consumption.asked
  rw [requests] at asked ⊢
  have late : .conclude ∈ tail := by simpa using asked
  refine List.mem_append_right _ ?_
  have known := snapshot.consumer.tails_subset found
  simp only [List.mem_cons, List.not_mem_nil, or_false] at known
  rcases known with rfl | rfl | rfl
  · contradiction
  · simp at late
  · simp

theorem consumption_start (producers : Nat) :
    (start producers : Snapshot ρ α β).Consumption {} := by
  constructor
  · exact fun _ => rfl
  · simp [start]
  · exact ⟨[], List.mem_singleton_self _, rfl, fun _ => rfl⟩
  · exact fun _ _ => rfl
  · simp [start]
  · simp

end Snapshot

theorem Reached.consumption {producers : Nat} {snapshot : Snapshot ρ α β}
    {history : History ρ α β} (reached : Reached producers snapshot history) :
    snapshot.Consumption history := by
  induction reached with
  | start => exact Snapshot.consumption_start producers
  | move reached move ih => exact ih.move reached.started move

end BoundedIngest

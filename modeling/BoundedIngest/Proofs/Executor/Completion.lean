/-
Module: BoundedIngest.Proofs.Executor.Completion
Purpose: A consumer finishes only on a queue that is done, and such a queue stays done.
Main exports:
  Snapshot.Done.move, Snapshot.Completion, Reached.completion
-/
import BoundedIngest.Proofs.Executor.Consumption
import BoundedIngest.Proofs.Executor.Ledger
import BoundedIngest.Proofs.Executor.Order

namespace BoundedIngest

/-!
Once all producers are marked done and nothing is left, nobody is there to insert, and
closing has no effect any more.  The consumer learns of it by a pull, and only then does it
finish.
-/

variable {ρ α β : Type}

namespace Snapshot

variable {snapshot next : Snapshot ρ α β}

theorem Done.isOver (done : snapshot.Done) : snapshot.isOver = true := by
  obtain ⟨-, finished, empty⟩ := done
  simp [Snapshot.isOver, finished, empty]

theorem Done.close (done : snapshot.Done) : snapshot.close.Done := by
  have past := done.isOver
  obtain ⟨notClosed, finished, empty⟩ := done
  refine ⟨?_, finished, ?_⟩
  · simp [Snapshot.close, past, notClosed]
  · simp [Snapshot.close, past, empty]

/-- After a close the queue is closed, unless it was done. -/
theorem closed_or_done_close (snapshot : Snapshot ρ α β) :
    snapshot.close.closed = true ∨ snapshot.close.Done := by
  cases closed : snapshot.closed with
  | true => exact .inl (by simp [Snapshot.close, closed])
  | false =>
    cases past : snapshot.isOver with
    | false => exact .inl (by simp [Snapshot.close, past])
    | true =>
      have facts : snapshot.registered ≤ snapshot.marks ∧ snapshot.buffer = [] := by
        simpa [Snapshot.isOver, closed] using past
      exact .inr (Done.close ⟨closed, facts.1, facts.2⟩)

theorem Done.queue {caller : Nat} (done : snapshot.Done) (agreement : snapshot.Agreement)
    (move : QueueMove snapshot caller next) : next.Done := by
  cases move with
  | refused entry was reason => exact done
  | pushed entry was stillOpen =>
    have found := agreement.inserting was rfl
    have ended := agreement.all_ended done.2.1 _ (List.mem_of_getElem? found)
    contradiction
  | taken entry rest was stillOpen front =>
    rw [done.2.2] at front
    contradiction
  | endedClosed was reason => exact done
  | endedDone was reason => exact done

theorem Done.producer {index : Nat} (done : snapshot.Done) (agreement : snapshot.Agreement)
    (move : ProducerMove snapshot index next) : next.Done := by
  obtain ⟨old, new, was, -, alive, -⟩ := move.frame.phases
  have ended := agreement.all_ended done.2.1 old (List.mem_of_getElem? was)
  contradiction

theorem Done.consumer {act : Executor.ConsumerAct β} (done : snapshot.Done)
    (move : ConsumerMove snapshot act next) : next.Done := by
  cases move with
  | closes was free => exact done.close
  | turned | starts | goesOn | receives | drains | reports | delivers | recorded | discarded
  | closed | signalled => exact done

theorem Done.user (done : snapshot.Done) (move : UserMove snapshot next) : next.Done := by
  cases move with
  | closes call was free => exact done.close
  | executes | begins | closed | advances => exact done

/-- A queue that is done stays done. -/
theorem Done.move {event : Executor.Event ρ α β} (done : snapshot.Done)
    (agreement : snapshot.Agreement) (move : Move snapshot event next) : next.Done := by
  cases move with
  | queue move => exact done.queue agreement move
  | producer move => exact done.producer agreement move
  | consumer move => exact done.consumer move
  | caller move =>
    have frame := move.frame
    rw [Done, frame.buffer, frame.closed, frame.registered, frame.marks]
    exact done
  | user mine move => exact done.user move
  | still others => exact done

/-! ### How the consumer comes to finish -/

structure Completion (snapshot : Snapshot ρ α β) (history : History ρ α β) : Prop where
  ended : ∀ caller : Nat, snapshot.outlines[caller]? = some (.ended .done) → snapshot.Done
  drained : snapshot.consumer = .drained .done → snapshot.Done
  finishing : .finish ∈ history.requests → snapshot.Done

variable {history : History ρ α β}

theorem ended_of_set {caller index : Nat} {outline : Outline α} {status : QueueStatus}
    (other : outline ≠ .ended status)
    (outlines : next.outlines = snapshot.outlines.set caller outline)
    (found : next.outlines[index]? = some (.ended status)) :
    snapshot.outlines[index]? = some (.ended status) := by
  rw [outlines] at found
  exact before_of_set other found

namespace Completion

/-- A pull finds the queue done only if it is. -/
theorem ended_of_queue {caller index : Nat} (completion : snapshot.Completion history)
    (move : QueueMove snapshot caller next)
    (found : next.outlines[index]? = some (.ended .done)) : snapshot.Done := by
  cases move with
  | refused entry was reason => exact completion.ended index (ended_of_set (by simp) rfl found)
  | pushed entry was stillOpen =>
    exact completion.ended index (ended_of_set (by simp) rfl found)
  | taken entry rest was stillOpen front =>
    exact completion.ended index (ended_of_set (by simp) rfl found)
  | endedClosed was reason => exact completion.ended index (ended_of_set (by simp) rfl found)
  | endedDone was reason => exact reason

/-- A step of somebody other than the consumer. -/
theorem others {event : Executor.Event ρ α β} (completion : snapshot.Completion history)
    (others : ∀ act, event ≠ .consumer act)
    (done : snapshot.Done → next.Done)
    (ended : ∀ caller : Nat, next.outlines[caller]? = some (.ended .done) → snapshot.Done)
    (consumer : next.consumer = .drained .done → snapshot.consumer = .drained .done) :
    next.Completion (history.extend snapshot event next) := by
  constructor
  · exact fun caller found => done (ended caller found)
  · exact fun drained => done (completion.drained (consumer drained))
  · rw [History.requests_extend_others others]
    exact fun asked => done (completion.finishing asked)

theorem consumer {act : Executor.ConsumerAct β} (completion : snapshot.Completion history)
    (move : ConsumerMove snapshot act next) :
    next.Completion (history.extend snapshot (.consumer act) next) := by
  have done : snapshot.Done → next.Done := fun done => done.consumer move
  have ended : ∀ caller : Nat, next.outlines[caller]? = some (.ended .done) → snapshot.Done := by
    intro caller found
    cases move with
    | starts | goesOn | receives | drains | closes | closed =>
      exact completion.ended caller (ended_of_set (by simp) rfl found)
    | turned | reports | delivers | recorded | discarded | signalled =>
      exact completion.ended caller found
  have reported : ∀ {status : QueueStatus}, Executor.afterDrained status ≠
      (.drained .done : ConsumerPhase α β) := by
    intro status
    cases status <;> simp [Executor.afterDrained]
  have drained : next.consumer = .drained .done → snapshot.Done := by
    intro consumer
    cases move with
    | turned act new turn =>
      rcases Executor.cases_of_turn turn with ⟨error, rfl⟩ | ⟨-, -, rfl⟩ | ⟨result, -, -, rfl⟩ <;>
        contradiction
    | drains status was call =>
      cases consumer
      exact completion.ended _ call
    | reports status was => exact absurd consumer reported
    | starts | goesOn | receives | delivers | recorded | discarded | closes | closed
    | signalled => contradiction
  have finishing : next.consumer = .finishing → snapshot.Done := by
    intro consumer
    cases move with
    | turned act new turn =>
      rcases Executor.cases_of_turn turn with ⟨error, rfl⟩ | ⟨-, -, rfl⟩ | ⟨result, -, -, rfl⟩ <;>
        contradiction
    | reports status was =>
      cases status with
      | done => exact completion.drained was
      | accepting | draining | closed => contradiction
    | starts | goesOn | receives | drains | delivers | recorded | discarded | closes | closed
    | signalled => contradiction
  constructor
  · exact fun caller found => done (ended caller found)
  · exact fun found => done (drained found)
  · intro asked
    rcases List.mem_append.mp asked with before | now
    · exact done (completion.finishing before)
    · refine done (finishing ?_)
      cases phase : next.consumer <;> rw [phase] at now <;> simp [ConsumerPhase.request?] at now ⊢

/-- A call that has just begun has seen nothing. -/
theorem ended_of_append {index : Nat} (completion : snapshot.Completion history)
    (found : (snapshot.outlines ++ [.idle])[index]? = some (.ended .done)) : snapshot.Done := by
  rcases last_or_before found with ⟨-, new⟩ | before
  · contradiction
  · exact completion.ended index before

theorem move {event : Executor.Event ρ α β} (completion : snapshot.Completion history)
    (agreement : snapshot.Agreement) (move : Move snapshot event next) :
    next.Completion (history.extend snapshot event next) := by
  have done : snapshot.Done → next.Done := fun done => done.move agreement move
  cases move with
  | queue move =>
    refine completion.others (by simp) done (fun index found => ?_) (fun drained => ?_)
    · exact completion.ended_of_queue move found
    · rwa [move.frame.consumer] at drained
  | producer move =>
    have frame := move.frame
    refine completion.others (by simp) done (fun index found => ?_) (fun drained => ?_)
    · rcases frame.outlines with same | ⟨outline, other, set⟩
      · rw [same] at found
        exact completion.ended index found
      · exact completion.ended index (ended_of_set (other .done) set found)
    · rwa [frame.consumer] at drained
  | consumer move => exact completion.consumer move
  | caller move =>
    refine completion.others (by simp) done (fun index found => ?_) (fun drained => ?_)
    · cases move with
      | spawnsPull worker was last free =>
        exact completion.ended index (ended_of_set (by simp) rfl found)
      | withdraws reason was => exact completion.ended_of_append found
      | takesParts | spawnsProducer | spawnsHook | receives | proceeds =>
        exact completion.ended index found
    · rcases move.frame.consumer with same | ⟨-, born | born⟩
      · rwa [same] at drained
      · rw [born] at drained
        contradiction
      · rw [born] at drained
        contradiction
  | user mine move =>
    have frame := move.frame
    refine completion.others ?_ done (fun index found => ?_) (fun drained => ?_)
    · rcases mine with rfl | rfl | ⟨call, rfl⟩ <;> simp
    · rcases frame.outlines with same | added | ⟨call, outline, other, set⟩
      · rw [same] at found
        exact completion.ended index found
      · rw [added] at found
        exact completion.ended_of_append found
      · exact completion.ended index (ended_of_set (other .done) set found)
    · rwa [frame.consumer] at drained
  | still others => exact completion.others others id completion.ended id

end Completion

theorem completion_start (producers : Nat) :
    (start producers : Snapshot ρ α β).Completion {} := by
  constructor
  · intro caller found
    have idle := (List.mem_replicate.mp (List.mem_of_getElem? found)).2
    contradiction
  · simp [start]
  · simp

end Snapshot

theorem Reached.completion {producers : Nat} {snapshot : Snapshot ρ α β}
    {history : History ρ α β} (reached : Reached producers snapshot history) :
    snapshot.Completion history := by
  induction reached with
  | start => exact Snapshot.completion_start producers
  | move reached move ih => exact ih.move reached.agreement move

end BoundedIngest

/-
Module: BoundedIngest.Proofs.Executor.Order
Purpose: Entries reach the consumer once each, in the order in which they were inserted.
Main exports:
  Snapshot.inHand, Snapshot.Order, Reached.order
-/
import BoundedIngest.Proofs.Executor.Agreement

namespace BoundedIngest

/-!
What was inserted is what was passed to the consumer, then what the consumer's pull has
taken, then what is in the queue, then what was there when the queue was closed.
-/

variable {ρ α β : Type}

/-- The entry that a pull has taken. -/
def Outline.held : Outline α → List α
  | .holding entry => [entry]
  | _ => []

namespace Snapshot

/-- The entry that the consumer's pull has taken. -/
def inHand (snapshot : Snapshot ρ α β) : List α :=
  (snapshot.outlines[snapshot.phases.length]?.map Outline.held).getD []

structure Order (snapshot : Snapshot ρ α β) (history : History ρ α β) : Prop where
  order : history.pushed.map (·.2) =
    history.passed ++ snapshot.inHand ++ snapshot.buffer ++ history.dropped
  kept : snapshot.closed = false → history.dropped = []

variable {snapshot next : Snapshot ρ α β} {history : History ρ α β}

/-! ### What the consumer's pull has taken -/

theorem inHand_of {outline : Outline α}
    (found : snapshot.outlines[snapshot.phases.length]? = some outline) :
    snapshot.inHand = outline.held := by
  rw [inHand, found]
  rfl

theorem inHand_set {old new : Outline α} {entries : List α}
    (was : snapshot.outlines[snapshot.phases.length]? = some old)
    (outlines : next.outlines = snapshot.outlines.set snapshot.phases.length new)
    (held : new.held = entries) (phases : next.phases.length = snapshot.phases.length) :
    next.inHand = entries := by
  rw [← held]
  apply inHand_of
  rw [phases, outlines]
  exact List.getElem?_set_self (List.getElem?_eq_some_iff.mp was).1

/-- A step of a call of which nothing is in hand. -/
theorem inHand_same {caller : Nat} {old new : Outline α}
    (was : snapshot.outlines[caller]? = some old)
    (outlines : next.outlines = snapshot.outlines.set caller new) (same : new.held = old.held)
    (phases : next.phases.length = snapshot.phases.length) : next.inHand = snapshot.inHand := by
  rw [inHand, inHand, outlines, phases]
  by_cases here : caller = snapshot.phases.length
  · subst here
    rw [List.getElem?_set_self (List.getElem?_eq_some_iff.mp was).1, was]
    exact same
  · rw [List.getElem?_set_ne here]

theorem inHand_set_ne {caller : Nat} {new : Outline α}
    (other : caller ≠ snapshot.phases.length)
    (outlines : next.outlines = snapshot.outlines.set caller new)
    (phases : next.phases.length = snapshot.phases.length) : next.inHand = snapshot.inHand := by
  rw [inHand, inHand, outlines, phases, List.getElem?_set_ne other]

/-! ### What moves preserve -/

namespace Order

/-- A step that moves no entry, unless it closes the queue. -/
theorem quiet {event : Executor.Event ρ α β} (order : snapshot.Order history)
    (pushed : (history.extend snapshot event next).pushed = history.pushed)
    (passed : (history.extend snapshot event next).passed = history.passed)
    (inHand : next.inHand = snapshot.inHand) (contents : snapshot.SameOrClosed next) :
    next.Order (history.extend snapshot event next) := by
  have steady : next.buffer = snapshot.buffer → next.closed = snapshot.closed →
      next.Order (history.extend snapshot event next) := by
    intro buffer closed
    have dropped : (history.extend snapshot event next).dropped = history.dropped :=
      History.dropped_extend_same closed
    constructor
    · rw [pushed, passed, inHand, buffer, dropped]
      exact order.order
    · rw [closed, dropped]
      exact order.kept
  rcases contents with ⟨buffer, closed⟩ | ⟨buffer, closed⟩
  · exact steady buffer closed
  · cases past : snapshot.isOver with
    | true =>
      rw [Snapshot.close, past] at buffer closed
      exact steady buffer (by simpa using closed)
    | false =>
      have stillOpen : snapshot.closed = false := by
        cases shut : snapshot.closed with
        | false => rfl
        | true =>
          rw [Snapshot.isOver, shut] at past
          contradiction
      have dropped : (history.extend snapshot event next).dropped = snapshot.buffer := by
        simp [History.extend, closed, Snapshot.close, past, stillOpen, order.kept stillOpen]
      have emptied : next.buffer = [] := by simp [buffer, Snapshot.close, past]
      constructor
      · rw [pushed, passed, inHand, emptied, dropped, order.order, order.kept stillOpen]
        simp
      · intro closedNot
        rw [closed, Snapshot.close, past] at closedNot
        simp at closedNot

/-- An entry is put at the end. -/
theorem pushes {caller : Nat} {entry : α} (order : snapshot.Order history)
    (stillOpen : snapshot.closed = false) (inHand : next.inHand = snapshot.inHand)
    (buffer : next.buffer = snapshot.buffer ++ [entry]) (closed : next.closed = snapshot.closed) :
    next.Order (history.extend snapshot (.enterQueue caller) next) := by
  have dropped : (history.extend snapshot (.enterQueue caller) next).dropped = history.dropped :=
    History.dropped_extend_same closed
  have pushed : (history.extend snapshot (.enterQueue caller) next).pushed =
      history.pushed ++ [(caller, entry)] := by
    simp [History.extend, buffer]
  have passed : (history.extend snapshot (.enterQueue caller) next).passed = history.passed :=
    History.passed_extend_others (by simp)
  constructor
  · rw [pushed, passed, dropped, inHand, buffer, List.map_append, order.order,
      order.kept stillOpen]
    simp
  · rw [closed, dropped]
    exact order.kept

/-- The entry at the front is taken. -/
theorem takes {caller : Nat} {entry : α} {rest : List α} (order : snapshot.Order history)
    (front : snapshot.buffer = entry :: rest) (free : snapshot.inHand = [])
    (inHand : next.inHand = [entry]) (buffer : next.buffer = rest)
    (closed : next.closed = snapshot.closed) :
    next.Order (history.extend snapshot (.enterQueue caller) next) := by
  have dropped : (history.extend snapshot (.enterQueue caller) next).dropped = history.dropped :=
    History.dropped_extend_same closed
  have pushed : (history.extend snapshot (.enterQueue caller) next).pushed = history.pushed := by
    simp [History.extend, buffer, front]
  have passed : (history.extend snapshot (.enterQueue caller) next).passed = history.passed :=
    History.passed_extend_others (by simp)
  constructor
  · rw [pushed, passed, dropped, inHand, buffer, order.order, front, free]
    simp
  · rw [closed, dropped]
    exact order.kept

/-- A call puts its entry at the end, or takes the one at the front. -/
theorem queue {caller : Nat} (order : snapshot.Order history)
    (agreement : snapshot.Agreement) (move : QueueMove snapshot caller next) :
    next.Order (history.extend snapshot (.enterQueue caller) next) := by
  have still : ∀ {after : Snapshot ρ α β}, after.buffer = snapshot.buffer →
      (history.extend snapshot (.enterQueue caller) after).pushed = history.pushed := by
    intro after same
    simp [History.extend, same]
  have passed : ∀ {after : Snapshot ρ α β},
      (history.extend snapshot (.enterQueue caller) after).passed = history.passed :=
    History.passed_extend_others (by simp)
  cases move with
  | refused entry was reason =>
    exact order.quiet (still rfl) passed (inHand_same was rfl rfl rfl) (.inl ⟨rfl, rfl⟩)
  | pushed entry was stillOpen =>
    exact order.pushes stillOpen (inHand_same was rfl rfl rfl) rfl rfl
  | taken entry rest was stillOpen front =>
    obtain ⟨rfl, pulling⟩ := agreement.pulling was rfl
    exact order.takes front (inHand_of was)
      (inHand_set was rfl rfl rfl) rfl rfl
  | endedClosed was reason =>
    exact order.quiet (still rfl) passed (inHand_same was rfl rfl rfl) (.inl ⟨rfl, rfl⟩)
  | endedDone was reason =>
    exact order.quiet (still rfl) passed (inHand_same was rfl rfl rfl) (.inl ⟨rfl, rfl⟩)

theorem producer {index : Nat} {act : Executor.ProducerAct ρ α} (order : snapshot.Order history)
    (move : ProducerMove snapshot index next) :
    next.Order (history.extend snapshot (.producer index act) next) := by
  have frame := move.frame
  obtain ⟨old, new, was, -, -, phases⟩ := frame.phases
  have length : next.phases.length = snapshot.phases.length := by simp [phases]
  have other : index ≠ snapshot.phases.length :=
    Nat.ne_of_lt (List.getElem?_eq_some_iff.mp was).1
  have inHand : next.inHand = snapshot.inHand := by
    rcases frame.outlines with same | ⟨outline, -, set⟩
    · rw [Snapshot.inHand, Snapshot.inHand, same, length]
    · exact inHand_set_ne other set length
  exact order.quiet (History.pushed_extend_others (by simp))
    (History.passed_extend_others (by simp)) inHand frame.contents

/-- What the pull has taken is passed to the consumer. -/
theorem receives {entry : α} (order : snapshot.Order history)
    (held : snapshot.inHand = [entry]) (free : next.inHand = [])
    (consumer : next.consumer = .consuming entry) (buffer : next.buffer = snapshot.buffer)
    (closed : next.closed = snapshot.closed) :
    next.Order (history.extend snapshot (.consumer .pulled) next) := by
  have dropped : (history.extend snapshot (.consumer .pulled) next).dropped = history.dropped :=
    History.dropped_extend_same closed
  have pushed : (history.extend snapshot (.consumer .pulled) next).pushed = history.pushed :=
    History.pushed_extend_others (by simp)
  have passed : (history.extend snapshot (.consumer .pulled) next).passed =
      history.passed ++ [entry] := by
    rw [History.passed_extend_consumer, consumer]
    rfl
  constructor
  · rw [pushed, passed, dropped, free, buffer, order.order, held]
    simp
  · rw [closed, dropped]
    exact order.kept

theorem consumer {act : Executor.ConsumerAct β} (order : snapshot.Order history)
    (agreement : snapshot.Agreement) (move : ConsumerMove snapshot act next) :
    next.Order (history.extend snapshot (.consumer act) next) := by
  have pushed : (history.extend snapshot (.consumer act) next).pushed = history.pushed :=
    History.pushed_extend_others (by simp)
  have idly : (∀ entry, next.consumer ≠ .consuming entry) → next.inHand = snapshot.inHand →
      next.Order (history.extend snapshot (.consumer act) next) :=
    fun idle inHand =>
      order.quiet pushed (History.passed_extend_idle idle) inHand move.frame.contents
  cases move with
  | turned act new turn =>
    refine idly (fun entry => ?_) rfl
    rcases Executor.cases_of_turn turn with ⟨error, rfl⟩ | ⟨-, -, rfl⟩ | ⟨result, -, -, rfl⟩ <;>
      simp
  | starts was free => exact idly (by simp) (inHand_same free rfl rfl rfl)
  | goesOn entry was free => exact idly (by simp) (inHand_same free rfl rfl rfl)
  | receives entry was call =>
    exact order.receives (inHand_of call)
      (inHand_set call rfl rfl rfl) rfl rfl rfl
  | drains status was call => exact idly (by simp) (inHand_same call rfl rfl rfl)
  | reports status was =>
    refine idly (fun entry => ?_) rfl
    cases status <;> simp [Executor.afterDrained]
  | delivers result was => exact idly (by simp) rfl
  | recorded error was first => exact idly (by simp) rfl
  | discarded error was late => exact idly (by simp) rfl
  | closes was free => exact idly (by simp) (inHand_same free rfl rfl rfl)
  | closed was =>
    obtain ⟨outline, found, errand⟩ := agreement.consumer_outline
    rw [was] at errand
    refine idly (by simp) (inHand_same found rfl ?_ rfl)
    cases outline <;> first | rfl | contradiction
  | signalled was => exact idly (by simp) rfl

/-- Another call of nobody's comes in beside those of the workers. -/
theorem inHand_append (agreement : snapshot.Agreement)
    (outlines : next.outlines = snapshot.outlines ++ [.idle])
    (length : next.phases.length = snapshot.phases.length) : next.inHand = snapshot.inHand := by
  have inside : snapshot.phases.length < snapshot.outlines.length := by
    have := agreement.length_outlines
    omega
  rw [Snapshot.inHand, Snapshot.inHand, outlines, length, List.getElem?_append_left inside]

theorem caller {call : Nat} {act : Executor.ExecuteAct} (order : snapshot.Order history)
    (agreement : snapshot.Agreement) (move : CallerMove snapshot call next) :
    next.Order (history.extend snapshot (.executing call act) next) := by
  have frame := move.frame
  have inHand : next.inHand = snapshot.inHand := by
    cases move with
    | spawnsPull worker was last free => exact inHand_same free rfl rfl rfl
    | spawnsProducer worker new was inside born =>
      simp [Snapshot.inHand, Snapshot.setExecute, Snapshot.setPhase]
    | withdraws reason was => exact inHand_append agreement rfl rfl
    | takesParts | spawnsHook | receives | proceeds => rfl
  exact order.quiet (History.pushed_extend_others (by simp))
    (History.passed_extend_others (by simp)) inHand (.inl ⟨frame.buffer, frame.closed⟩)

theorem user {event : Executor.Event ρ α β} (order : snapshot.Order history)
    (agreement : snapshot.Agreement)
    (mine : event = .execute ∨ event = .shutdown ∨ ∃ call, event = .shuttingDown call)
    (move : UserMove snapshot next) : next.Order (history.extend snapshot event next) := by
  have frame := move.frame
  have length : next.phases.length = snapshot.phases.length := by rw [frame.phases]
  have inHand : next.inHand = snapshot.inHand := by
    rcases frame.outlines with same | added | ⟨call, outline, -, set⟩
    · rw [Snapshot.inHand, Snapshot.inHand, same, length]
    · exact inHand_append agreement added length
    · exact inHand_set_ne (by omega) set length
  refine order.quiet (History.pushed_extend_others ?_) (History.passed_extend_others ?_) inHand
    frame.contents
  · rcases mine with rfl | rfl | ⟨call, rfl⟩ <;> simp
  · rcases mine with rfl | rfl | ⟨call, rfl⟩ <;> simp

theorem move {event : Executor.Event ρ α β} (order : snapshot.Order history)
    (agreement : snapshot.Agreement) (move : Move snapshot event next) :
    next.Order (history.extend snapshot event next) := by
  cases move with
  | queue move => exact order.queue agreement move
  | producer move => exact order.producer move
  | consumer move => exact order.consumer agreement move
  | caller move => exact order.caller agreement move
  | user mine move => exact order.user agreement mine move
  | still others =>
    refine order.quiet ?_ (History.passed_extend_others others) rfl (.inl ⟨rfl, rfl⟩)
    simp only [History.extend]
    split <;> simp

end Order

theorem order_start (producers : Nat) : (start producers : Snapshot ρ α β).Order {} := by
  refine ⟨?_, fun _ => rfl⟩
  have held : (start producers : Snapshot ρ α β).inHand = [] := by
    have idle : (start producers : Snapshot ρ α β).outlines[
        (start producers : Snapshot ρ α β).phases.length]? = some .idle := by
      simp [start]
    exact inHand_of idle
  rw [held]
  rfl

end Snapshot

theorem Reached.order {producers : Nat} {snapshot : Snapshot ρ α β}
    {history : History ρ α β} (reached : Reached producers snapshot history) :
    snapshot.Order history := by
  induction reached with
  | start => exact Snapshot.order_start producers
  | move reached move ih => exact ih.move reached.agreement move

end BoundedIngest

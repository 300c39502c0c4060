/-
Module: BoundedIngest.Proofs.Executor.Ledger
Purpose: Every producer counts the entries that it inserted, and nobody else inserts.
Main exports:
  Snapshot.pending, Snapshot.Ledger, Reached.ledger
-/
import BoundedIngest.Proofs.Executor.Agreement

namespace BoundedIngest

/-!
A producer counts an insert when it takes the reply.  Between the critical section and the
reply the entry is in the queue, but not counted yet.
-/

variable {ρ α β : Type}

def Outline.isInserted : Outline α → Bool
  | .inserted => true
  | _ => false

namespace Snapshot

/-- How many entries of a producer were added but not counted. -/
def pending (snapshot : Snapshot ρ α β) (index : Nat) : Nat :=
  ((snapshot.outlines[index]?.map Outline.isInserted).getD false).toNat

structure Ledger (snapshot : Snapshot ρ α β) (history : History ρ α β) : Prop where
  balance : ∀ index count, snapshot.produced[index]? = some count →
    (history.pushedBy index).length = count + snapshot.pending index
  inserters : ∀ pair ∈ history.pushed, pair.1 < snapshot.phases.length

variable {snapshot next : Snapshot ρ α β} {history : History ρ α β}

theorem pending_of {index : Nat} {outline : Outline α}
    (found : snapshot.outlines[index]? = some outline) :
    snapshot.pending index = outline.isInserted.toNat := by
  rw [pending, found]
  rfl

theorem pending_set_ne {caller index : Nat} {outline : Outline α} (other : caller ≠ index)
    (outlines : next.outlines = snapshot.outlines.set caller outline) :
    next.pending index = snapshot.pending index := by
  rw [pending, pending, outlines, List.getElem?_set_ne other]

theorem pending_set {caller : Nat} {old new : Outline α}
    (was : snapshot.outlines[caller]? = some old)
    (outlines : next.outlines = snapshot.outlines.set caller new) :
    next.pending caller = new.isInserted.toNat := by
  apply pending_of
  rw [outlines]
  exact List.getElem?_set_self (List.getElem?_eq_some_iff.mp was).1

/-- A call that was not about to be counted, and is not now. -/
theorem pending_same {caller index : Nat} {old new : Outline α}
    (was : snapshot.outlines[caller]? = some old)
    (outlines : next.outlines = snapshot.outlines.set caller new)
    (same : new.isInserted = old.isInserted) :
    next.pending index = snapshot.pending index := by
  by_cases here : caller = index
  · subst here
    rw [pending_set was outlines, pending_of was, same]
  · exact pending_set_ne here outlines

namespace Ledger

/-- A step that inserts nothing and counts nothing. -/
theorem quiet {event : Executor.Event ρ α β} (ledger : snapshot.Ledger history)
    (pushed : (history.extend snapshot event next).pushed = history.pushed)
    (produced : next.produced = snapshot.produced)
    (pending : ∀ index < snapshot.produced.length,
      next.pending index = snapshot.pending index)
    (phases : next.phases.length = snapshot.phases.length) :
    next.Ledger (history.extend snapshot event next) := by
  constructor
  · intro index count counted
    rw [produced] at counted
    rw [History.pushedBy, pushed, pending index (List.getElem?_eq_some_iff.mp counted).1]
    exact ledger.balance index count counted
  · rw [pushed, phases]
    exact ledger.inserters

/-- An insert adds its entry, which is counted when its reply is taken. -/
theorem pushes {caller : Nat} {entry : α} (ledger : snapshot.Ledger history)
    (inside : caller < snapshot.phases.length)
    (was : snapshot.outlines[caller]? = some (.inserting entry))
    (outlines : next.outlines = snapshot.outlines.set caller .inserted)
    (buffer : next.buffer = snapshot.buffer ++ [entry])
    (produced : next.produced = snapshot.produced) (phases : next.phases = snapshot.phases) :
    next.Ledger (history.extend snapshot (.enterQueue caller) next) := by
  have pushed : (history.extend snapshot (.enterQueue caller) next).pushed =
      history.pushed ++ [(caller, entry)] := by
    simp [History.extend, buffer]
  constructor
  · intro index count counted
    rw [produced] at counted
    have balance := ledger.balance index count counted
    rw [History.pushedBy_append pushed, List.length_append, balance]
    by_cases here : caller = index
    · subst here
      rw [pending_set was outlines, pending_of was]
      simp [Outline.isInserted]
    · rw [pending_set_ne here outlines]
      simp [here]
  · rw [pushed, phases]
    intro pair found
    rcases List.mem_append.mp found with old | new
    · exact ledger.inserters pair old
    · cases List.mem_singleton.mp new
      exact inside

/-- A producer counts the insert of which it takes the reply. -/
theorem counts {caller count : Nat} {act : Executor.ProducerAct ρ α}
    (ledger : snapshot.Ledger history)
    (was : snapshot.outlines[caller]? = some .inserted)
    (counted : snapshot.produced[caller]? = some count)
    (outlines : next.outlines = snapshot.outlines.set caller .idle)
    (produced : next.produced = snapshot.produced.set caller (count + 1))
    (phases : next.phases.length = snapshot.phases.length) :
    next.Ledger (history.extend snapshot (.producer caller act) next) := by
  have pushed : (history.extend snapshot (.producer caller act) next).pushed =
      history.pushed := History.pushed_extend_others (by simp)
  constructor
  · intro index other found
    rw [History.pushedBy, pushed]
    rw [produced] at found
    by_cases here : caller = index
    · subst here
      rw [List.getElem?_set_self (List.getElem?_eq_some_iff.mp counted).1] at found
      cases found
      have balance := ledger.balance caller count counted
      rw [pending_of was, History.pushedBy] at balance
      rw [balance, pending_set was outlines]
      rfl
    · rw [List.getElem?_set_ne here] at found
      rw [pending_set_ne here outlines]
      exact ledger.balance index other found
  · rw [pushed, phases]
    exact ledger.inserters

theorem queue {caller : Nat} (ledger : snapshot.Ledger history)
    (agreement : snapshot.Agreement) (move : QueueMove snapshot caller next) :
    next.Ledger (history.extend snapshot (.enterQueue caller) next) := by
  have still : ∀ {after : Snapshot ρ α β}, after.buffer.length ≤ snapshot.buffer.length →
      (history.extend snapshot (.enterQueue caller) after).pushed = history.pushed := by
    intro after fewer
    simp [History.extend, fewer]
  cases move with
  | refused entry was reason =>
    exact ledger.quiet (still (Nat.le_refl _)) rfl (fun _ _ => pending_same was rfl rfl) rfl
  | pushed entry was stillOpen =>
    have inserting := agreement.inserting was rfl
    exact ledger.pushes (List.getElem?_eq_some_iff.mp inserting).1 was rfl rfl rfl rfl
  | taken entry rest was stillOpen front =>
    refine ledger.quiet (still ?_) rfl (fun _ _ => pending_same was rfl rfl) rfl
    rw [front]
    exact Nat.le_succ _
  | endedClosed was reason =>
    exact ledger.quiet (still (Nat.le_refl _)) rfl (fun _ _ => pending_same was rfl rfl) rfl
  | endedDone was reason =>
    exact ledger.quiet (still (Nat.le_refl _)) rfl (fun _ _ => pending_same was rfl rfl) rfl

theorem producer {index : Nat} {act : Executor.ProducerAct ρ α}
    (ledger : snapshot.Ledger history) (agreement : snapshot.Agreement)
    (move : ProducerMove snapshot index next) :
    next.Ledger (history.extend snapshot (.producer index act) next) := by
  have pushed : (history.extend snapshot (.producer index act) next).pushed = history.pushed :=
    History.pushed_extend_others (by simp)
  have phases : next.phases.length = snapshot.phases.length := by
    obtain ⟨old, new, -, -, -, phases⟩ := move.frame.phases
    simp [phases]
  cases move with
  | turned old new was busy stays => exact ledger.quiet pushed rfl (fun _ _ => rfl) phases
  | inserts entry record was free =>
    exact ledger.quiet pushed rfl (fun _ _ => pending_same free rfl rfl) phases
  | measuringFailed entry error was call =>
    exact ledger.quiet pushed rfl (fun _ _ => pending_same call rfl rfl) phases
  | accepted count was call counted => exact ledger.counts call counted rfl rfl phases
  | declined new was call stays =>
    exact ledger.quiet pushed rfl (fun _ _ => pending_same call rfl rfl) phases
  | closes was free =>
    exact ledger.quiet pushed rfl (fun _ _ => pending_same free rfl rfl) phases
  | closed was =>
    obtain ⟨outline, call, errand⟩ := agreement.producer_outline was
    refine ledger.quiet pushed rfl (fun _ _ => pending_same call rfl ?_) phases
    cases outline <;> first | rfl | contradiction
  | reported | recorded | discarded | signalled | marked =>
    exact ledger.quiet pushed rfl (fun _ _ => rfl) phases

/-- A step that touches only calls of others than producers. -/
theorem others {event : Executor.Event ρ α β} (ledger : snapshot.Ledger history)
    (agreement : snapshot.Agreement) (others : ∀ caller, event ≠ .enterQueue caller)
    (produced : next.produced = snapshot.produced)
    (outlines : ∀ index < snapshot.phases.length,
      next.outlines[index]? = snapshot.outlines[index]?)
    (phases : next.phases.length = snapshot.phases.length) :
    next.Ledger (history.extend snapshot event next) := by
  refine ledger.quiet (History.pushed_extend_others others) produced (fun index inside => ?_)
    phases
  rw [agreement.produced] at inside
  rw [pending, pending, outlines index inside]

theorem consumer {act : Executor.ConsumerAct β} (ledger : snapshot.Ledger history)
    (agreement : snapshot.Agreement) (move : ConsumerMove snapshot act next) :
    next.Ledger (history.extend snapshot (.consumer act) next) := by
  have frame := move.frame
  refine ledger.others agreement (by simp) frame.produced (fun index inside => ?_)
    (by rw [frame.phases])
  have other : snapshot.phases.length ≠ index := by omega
  cases move with
  | starts | goesOn | receives | drains | closes | closed => exact List.getElem?_set_ne other
  | turned | reports | delivers | recorded | discarded | signalled => rfl

theorem caller {call : Nat} {act : Executor.ExecuteAct} (ledger : snapshot.Ledger history)
    (agreement : snapshot.Agreement) (move : CallerMove snapshot call next) :
    next.Ledger (history.extend snapshot (.executing call act) next) := by
  have phases : next.phases.length = snapshot.phases.length := by
    cases move with
    | spawnsProducer worker new was inside born => exact List.length_set ..
    | takesParts | spawnsHook | spawnsPull | receives | withdraws | proceeds => rfl
  refine ledger.others agreement (by simp) move.frame.produced (fun index inside => ?_) phases
  have other : snapshot.phases.length ≠ index := by omega
  cases move with
  | spawnsPull worker was last free => exact List.getElem?_set_ne other
  | withdraws reason was =>
    have length := agreement.length_outlines
    exact List.getElem?_append_left (by omega)
  | takesParts | spawnsProducer | spawnsHook | receives | proceeds => rfl

theorem user {event : Executor.Event ρ α β} (ledger : snapshot.Ledger history)
    (agreement : snapshot.Agreement)
    (mine : event = .execute ∨ event = .shutdown ∨ ∃ call, event = .shuttingDown call)
    (move : UserMove snapshot next) : next.Ledger (history.extend snapshot event next) := by
  have frame := move.frame
  refine ledger.others agreement ?_ frame.produced (fun index inside => ?_)
    (by rw [frame.phases])
  · rcases mine with rfl | rfl | ⟨call, rfl⟩ <;> simp
  · have length := agreement.length_outlines
    rcases frame.outlines with same | added | ⟨call, outline, -, set⟩
    · rw [same]
    · rw [added, List.getElem?_append_left (by omega)]
    · rw [set, List.getElem?_set_ne (by omega)]

theorem move {event : Executor.Event ρ α β} (ledger : snapshot.Ledger history)
    (agreement : snapshot.Agreement) (move : Move snapshot event next) :
    next.Ledger (history.extend snapshot event next) := by
  cases move with
  | queue move => exact ledger.queue agreement move
  | producer move => exact ledger.producer agreement move
  | consumer move => exact ledger.consumer agreement move
  | caller move => exact ledger.caller agreement move
  | user mine move => exact ledger.user agreement mine move
  | still others =>
    refine ledger.quiet ?_ rfl (fun _ _ => rfl) rfl
    simp only [History.extend]
    split <;> simp

end Ledger

theorem ledger_start (producers : Nat) : (start producers : Snapshot ρ α β).Ledger {} := by
  constructor
  · intro index count counted
    have zero := (List.mem_replicate.mp (List.mem_of_getElem? counted)).2
    have nothing : (start producers : Snapshot ρ α β).pending index = 0 := by
      rw [pending]
      cases found : (start producers : Snapshot ρ α β).outlines[index]? with
      | none => rfl
      | some outline =>
        rw [(List.mem_replicate.mp (List.mem_of_getElem? found)).2]
        rfl
    rw [zero, nothing]
    rfl
  · simp

end Snapshot

theorem Reached.ledger {producers : Nat} {snapshot : Snapshot ρ α β}
    {history : History ρ α β} (reached : Reached producers snapshot history) :
    snapshot.Ledger history := by
  induction reached with
  | start => exact Snapshot.ledger_start producers
  | move reached move ih => exact ih.move reached.agreement move

end BoundedIngest

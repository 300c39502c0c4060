/-
Module: BoundedIngest.Proofs.Queue.Conservation
Purpose: A queue hands out what was added to it, in the same order and each entry once,
  until the one close that drops what is left.
Main exports:
  Watch.ClosesHere, Watch.closesHere_of_run, Watch.Conserved, Watch.conserved_of_run,
  QueueIterator, IteratedQueue, IteratedQueue.hands_out_in_order
-/
import BoundedIngest.Queue.Script
import BoundedIngest.Proofs.Queue.Ending
import BoundedIngest.Proofs.Queue.Turns

namespace BoundedIngest

/-!
The history of a queue balances with its contents at every moment.  What makes the balance
tell something is that history only grows where a call has its turn, and that it stands
still once the queue is closed: then the rest of what was added is what that close has
dropped.
-/

variable {α : Type}

namespace Watch

open SharedQueue

variable {origin : SharedQueue α} {watch middle next final : Watch α} {event : Event α}
  {events first other : List (Event α)} {before earlier : Watch α} {caller : Nat}

/-! ### After the close -/

/-- The second queue is closed, and nothing has come or gone since the first. -/
structure AtRest (watch next : Watch α) : Prop where
  closed : next.shared.queue.closed = true
  buffer : next.shared.queue.buffer = watch.shared.queue.buffer
  pushed : next.traffic.pushed = watch.traffic.pushed
  pulled : next.traffic.pulled = watch.traffic.pulled
  dropped : next.traffic.dropped = watch.traffic.dropped

theorem AtRest.trans (first : AtRest watch middle) (second : AtRest middle next) :
    AtRest watch next :=
  ⟨second.closed, second.buffer.trans first.buffer, second.pushed.trans first.pushed,
    second.pulled.trans first.pulled, second.dropped.trans first.dropped⟩

theorem atRest_of_step (closed : watch.shared.queue.closed = true)
    (stepped : watch.step event = some next) : AtRest watch next := by
  have moved := moved_of_step stepped
  have stays := closed_of_moved closed moved
  have shut : ∀ {p : Prop}, watch.shared.queue.closed = false → p := by
    intro p stillOpen
    rw [closed] at stillOpen
    contradiction
  cases moved with
  | pushed caller entry enters was stillOpen contents outlines traffic => exact shut stillOpen
  | pulled caller entry stillOpen contents outlines traffic => exact shut stillOpen
  | ended caller status found contents outlines traffic =>
    exact ⟨stays, by rw [contents], by rw [traffic], by rw [traffic], by rw [traffic]⟩
  | closed caller closable contents outlines traffic =>
    simp [Queue.isClosable, Queue.status_eq_closed.mpr closed] at closable
  | marked contents outlines traffic =>
    exact ⟨stays, by rw [contents]; rfl, by rw [traffic], by rw [traffic], by rw [traffic]⟩
  | passed contents outlines traffic =>
    exact ⟨stays, by rw [contents], by rw [traffic], by rw [traffic], by rw [traffic]⟩

/-- A closed queue is at rest for good. -/
theorem atRest_of_run (closed : watch.shared.queue.closed = true)
    (ran : watch.run events = some final) : AtRest watch final := by
  induction events generalizing watch with
  | nil =>
    cases ran
    exact ⟨closed, rfl, rfl, rfl, rfl⟩
  | cons event rest ih =>
    obtain ⟨middle, stepped, ran⟩ := Option.bind_eq_some_iff.mp ran
    have rests := atRest_of_step closed stepped
    exact rests.trans (ih rests.closed ran)

/-! ### The close -/

/-- The step after `first` is a close that has an effect. -/
structure ClosesHere (origin : SharedQueue α) (events first : List (Event α))
    (before : Watch α) : Prop where
  close : ∃ caller rest, events = first ++ .close caller :: rest
  ran : (begin origin).run first = some before
  effective : before.shared.queue.isClosable = true

theorem open_of_closable {queue : Queue α} (closable : queue.isClosable = true) :
    queue.closed = false := by
  cases closed : queue.closed with
  | false => rfl
  | true => simp [Queue.isClosable, Queue.status_eq_closed.mpr closed] at closable

/-- A close that has an effect drops what is in the queue. -/
theorem drops_of_close (effective : watch.shared.queue.isClosable = true)
    (stepped : watch.step (.close caller) = some next) :
    next.shared.queue = watch.shared.queue.close ∧
      next.traffic.pushed = watch.traffic.pushed ∧ next.traffic.pulled = watch.traffic.pulled ∧
      next.traffic.dropped = watch.traffic.dropped ++ watch.shared.queue.buffer := by
  obtain ⟨moved, traffic⟩ := shared_of_step stepped
  obtain ⟨-, queue, -⟩ := close_outline moved
  rw [if_pos effective] at queue
  rw [Traffic.extend, if_pos effective] at traffic
  rw [traffic]
  exact ⟨queue, rfl, rfl, rfl⟩

/-- Only a close closes a queue. -/
theorem close_of_shut (stepped : watch.step event = some next)
    (stillOpen : watch.shared.queue.closed = false) (closed : next.shared.queue.closed = true) :
    (∃ caller, event = .close caller) ∧ watch.shared.queue.isClosable = true := by
  obtain ⟨moved, -⟩ := shared_of_step stepped
  have unshut : ∀ {p : Prop}, next.shared.queue.closed = watch.shared.queue.closed → p := by
    intro p same
    rw [same, stillOpen] at closed
    contradiction
  cases event with
  | close caller =>
    obtain ⟨-, queue, -⟩ := close_outline moved
    split at queue
    · rename_i effective
      exact ⟨⟨caller, rfl⟩, effective⟩
    · exact unshut (by rw [queue])
  | insert caller entry => exact unshut (by rw [(insert_outline moved).2.1])
  | measured caller size => exact unshut (by rw [(measured_outline moved).1])
  | measuringPanicked caller => exact unshut (by rw [(measuringPanicked_outline moved).2.1])
  | pull caller => exact unshut (by rw [(pull_outline moved).2.1])
  | notify caller target => exact unshut (by rw [(notify_outline moved).1])
  | report caller => exact unshut (by rw [(report_outline moved).1])
  | leave caller => exact unshut (by rw [(leave_contents moved).1])
  | markDone => exact unshut (by rw [(markDone_outline moved).1]; rfl)
  | enter caller =>
    cases entered_of_enter moved with
    | refused entry was reason contents outlines => exact unshut (by rw [contents])
    | delayed contents outlines => exact unshut (by rw [contents])
    | pushed entry was stillOpen contents outlines => exact unshut (by rw [contents]; rfl)
    | taken entry was stillOpen contents outlines =>
      obtain ⟨rest, -, queue⟩ := Queue.front_of_pop contents
      exact unshut (by rw [queue])
    | endedClosed was reason contents outlines => exact unshut (by rw [contents])
    | endedDone was reason contents outlines => exact unshut (by rw [contents])
    | starved contents outlines => exact unshut (by rw [contents])

namespace ClosesHere

theorem extend (closes : ClosesHere origin events first before) (event : Event α) :
    ClosesHere origin (events ++ [event]) first before := by
  obtain ⟨caller, rest, split⟩ := closes.close
  exact ⟨⟨caller, rest ++ [event], by simp [split]⟩, closes.ran, closes.effective⟩

/-- From that close on the queue is at rest. -/
theorem shut {rest : List (Event α)} (closes : ClosesHere origin events first before)
    (ran : (begin origin).run (first ++ .close caller :: rest) = some final) :
    final.shared.queue.closed = true := by
  rw [run_append, closes.ran, Option.bind_some] at ran
  obtain ⟨after, stepped, ran⟩ := Option.bind_eq_some_iff.mp ran
  obtain ⟨queue, -⟩ := drops_of_close closes.effective stepped
  have closed : after.shared.queue.closed = true := by
    rw [queue]
    rfl
  exact (atRest_of_run closed ran).closed

/-- No close that has an effect comes after another one. -/
theorem not_later {later : List (Event α)} {event : Event α}
    (one : ClosesHere origin events first before)
    (two : ClosesHere origin events (first ++ event :: later) earlier) : False := by
  obtain ⟨caller, rest, split⟩ := one.close
  obtain ⟨again, others, splitAgain⟩ := two.close
  rw [split, List.append_assoc] at splitAgain
  have same : event = .close caller := by
    have tails := List.append_cancel_left splitAgain
    rw [List.cons_append] at tails
    exact (List.cons.inj tails).1.symm
  subst same
  have closed := one.shut two.ran
  rw [open_of_closable two.effective] at closed
  contradiction

/-- There is no other close that has an effect. -/
theorem only (one : ClosesHere origin events first before)
    (two : ClosesHere origin events other earlier) : other = first := by
  obtain ⟨caller, rest, split⟩ := one.close
  obtain ⟨again, others, splitAgain⟩ := two.close
  rw [split] at splitAgain
  rcases List.append_eq_append_iff.mp splitAgain with ⟨later, same, -⟩ | ⟨later, same, -⟩
  · cases later with
    | nil => simpa using same
    | cons event later =>
      subst same
      exact (one.not_later two).elim
  · cases later with
    | nil => simpa using same.symm
    | cons event later =>
      subst same
      exact (two.not_later one).elim

end ClosesHere

/-- What a closed queue looks like: the rest is what its close has dropped. -/
structure Emptied (before final : Watch α) : Prop where
  buffer : final.shared.queue.buffer = []
  pushed : final.traffic.pushed = before.traffic.pushed
  pulled : final.traffic.pulled = before.traffic.pulled
  dropped : final.traffic.dropped = before.traffic.dropped ++ before.shared.queue.buffer

/-- A queue that was opened and is closed was closed by one step of the run. -/
theorem closesHere_of_run (stillOpen : origin.queue.closed = false)
    (ran : (begin origin).run events = some final) (closed : final.shared.queue.closed = true) :
    ∃ first before, ClosesHere origin events first before ∧ Emptied before final := by
  induction events using List.reverseRecOn generalizing final with
  | nil =>
    cases ran
    rw [begin, stillOpen] at closed
    contradiction
  | append_singleton events event ih =>
    obtain ⟨middle, ranFirst, stepped⟩ := run_concat ran
    cases was : middle.shared.queue.closed with
    | true =>
      obtain ⟨first, before, closes, emptied⟩ := ih ranFirst was
      have rests := atRest_of_step was stepped
      exact ⟨first, before, closes.extend event,
        rests.buffer.trans emptied.buffer, rests.pushed.trans emptied.pushed,
        rests.pulled.trans emptied.pulled, rests.dropped.trans emptied.dropped⟩
    | false =>
      obtain ⟨⟨caller, rfl⟩, effective⟩ := close_of_shut stepped was closed
      obtain ⟨queue, pushed, pulled, dropped⟩ := drops_of_close effective stepped
      refine ⟨events, middle, ⟨⟨caller, [], rfl⟩, ranFirst, effective⟩, ?_, pushed, pulled, dropped⟩
      rw [queue]
      rfl

/-! ### What is conserved -/

/-- What a run of a queue does to the entries. -/
structure Conserved (origin : SharedQueue α) (events : List (Event α)) (final : Watch α) :
    Prop where
  /-- What was added is what was taken, in the order in which it was taken, then what is in
  the queue, then what was dropped. -/
  contents : final.traffic.pushed.map Prod.snd =
    final.traffic.pulled.map Prod.snd ++ final.shared.queue.buffer ++ final.traffic.dropped
  /-- Until a close has an effect nothing is dropped. -/
  whileOpen : final.shared.queue.closed = false →
    final.traffic.dropped = [] ∧ ∀ first before, ¬ClosesHere origin events first before
  /-- One close has had an effect; it has dropped what was in the queue, and nothing was
  added or taken since. -/
  onceClosed : final.shared.queue.closed = true →
    final.shared.queue.buffer = [] ∧
    ∃ first before, ClosesHere origin events first before ∧
      final.traffic.dropped = before.shared.queue.buffer ∧
      final.traffic.pushed = before.traffic.pushed ∧
      final.traffic.pulled = before.traffic.pulled ∧
      ∀ other earlier, ClosesHere origin events other earlier → other = first
  /-- An insert that returns has added its entry once, or was refused and has added
  nothing. -/
  inserts : ∀ first caller entry span before begun after reply,
    first ++ .insert caller entry :: span <+: events →
    (begin origin).run first = some before →
    before.step (.insert caller entry) = some begun → begun.run span = some after →
    (∀ event ∈ span, event.endsCall caller = false) →
    after.shared.reply? caller = some reply →
    (reply = .inserted ∧
        after.traffic.pushedBy caller = before.traffic.pushedBy caller ++ [entry]) ∨
      (reply = .refused ∧ after.traffic.pushedBy caller = before.traffic.pushedBy caller)
  /-- A pull that returns has taken the one entry it returns with, or has found the end and
  has taken nothing. -/
  pulls : ∀ first caller span before begun after reply,
    first ++ .pull caller :: span <+: events →
    (begin origin).run first = some before →
    before.step (.pull caller) = some begun → begun.run span = some after →
    (∀ event ∈ span, event.endsCall caller = false) →
    after.shared.reply? caller = some reply →
    (∃ entry, reply = .entry entry ∧
        after.traffic.pulledBy caller = before.traffic.pulledBy caller ++ [entry]) ∨
      ((∃ status, reply = .ended status) ∧
        after.traffic.pulledBy caller = before.traffic.pulledBy caller)
  /-- Nothing is added but the entry of an insert in progress. -/
  pushes : ∀ first event before after, first ++ [event] <+: events →
    (begin origin).run first = some before → before.step event = some after →
    after.traffic.pushed ≠ before.traffic.pushed →
    ∃ caller entry, after.traffic.pushed = before.traffic.pushed ++ [(caller, entry)] ∧
      InProgress caller (.insert caller entry) first
  /-- Nothing is taken but by a pull in progress. -/
  takes : ∀ first event before after, first ++ [event] <+: events →
    (begin origin).run first = some before → before.step event = some after →
    after.traffic.pulled ≠ before.traffic.pulled →
    ∃ caller entry, after.traffic.pulled = before.traffic.pulled ++ [(caller, entry)] ∧
      InProgress caller (.pull caller) first

/-- In every run of a queue that begins open, empty and unused, entries are conserved. -/
theorem conserved_of_run (stillOpen : origin.queue.closed = false)
    (empty : origin.queue.buffer = []) (idle : ∀ call ∈ origin.calls, call = .idle)
    (ran : (begin origin).run events = some final) : Conserved origin events final := by
  have balanced := balanced_of_run ran
  constructor
  · have contents := balanced.contents
    rwa [empty, List.nil_append] at contents
  · intro opened
    refine ⟨balanced.kept opened, fun first before closes => ?_⟩
    obtain ⟨caller, rest, split⟩ := closes.close
    rw [split] at ran
    rw [closes.shut ran] at opened
    contradiction
  · intro closed
    obtain ⟨first, before, closes, emptied⟩ := closesHere_of_run stillOpen ran closed
    refine ⟨emptied.buffer, first, before, closes, ?_, emptied.pushed, emptied.pulled,
      fun _ _ again => closes.only again⟩
    have nothing := (balanced_of_run closes.ran).kept (open_of_closable closes.effective)
    rw [emptied.dropped, nothing, List.nil_append]
  · intro first caller entry span before begun after reply _ _ stepped ranSpan goesOn replied
    exact reply_of_insert stepped ranSpan goesOn replied
  · intro first caller span before begun after reply _ _ stepped ranSpan goesOn replied
    exact reply_of_pull stepped ranSpan goesOn replied
  · intro first event before after _ ranFirst stepped changed
    exact push_in_progress idle ranFirst stepped changed
  · intro first event before after _ ranFirst stepped changed
    exact take_in_progress idle ranFirst stepped changed

end Watch

/-! ### Iterators -/

/-- The entry that a pull returns with, if any. -/
def Reply.taken : Reply α → List α
  | .entry value => [value]
  | _ => []

/-- The entry that a pull has in hand, if any. -/
def Outline.taken : Outline α → List α
  | .holding entry => [entry]
  | _ => []

/-- An iterator over a queue, and what it has handed out. -/
structure QueueIterator (α : Type) where
  cursor : Script.Cursor := {}
  /-- Oldest first. -/
  yielded : List α := []
deriving DecidableEq

namespace QueueIterator

open SharedQueue

/-- A step of the queue, seen by an iterator: it hands out what the call made on it
returns with. -/
def settle (shared : SharedQueue α) (event : Event α) (iterator : QueueIterator α) :
    QueueIterator α :=
  match event with
  | .leave caller =>
      match shared.reply? caller with
      | some reply =>
          { cursor := Script.State.settleCursor caller reply iterator.cursor
            yielded :=
              if iterator.cursor.pending = some caller then iterator.yielded ++ reply.taken
              else iterator.yielded }
      | none => iterator
  | _ => iterator

/-- What the call made on the iterator has taken and not returned with yet. -/
def inHand (shared : SharedQueue α) (iterator : QueueIterator α) : List α :=
  ((iterator.cursor.pending.bind (shared.outlines[·]?)).map Outline.taken).getD []

variable {watch next : Watch α} {event : Event α} {iterator : QueueIterator α} {caller : Nat}

theorem inHand_idle {shared : SharedQueue α} (idle : iterator.cursor.pending = none) :
    iterator.inHand shared = [] := by
  rw [inHand, idle]
  rfl

theorem inHand_pending {shared : SharedQueue α} {outline : Outline α}
    (pending : iterator.cursor.pending = some caller)
    (here : shared.outlines[caller]? = some outline) :
    iterator.inHand shared = outline.taken := by
  rw [inHand, pending, Option.bind_some, here]
  rfl

/-- Where the outline of the call did not change, neither did what it has in hand. -/
theorem inHand_same (pending : iterator.cursor.pending = some caller)
    (same : next.shared.outlines[caller]? = watch.shared.outlines[caller]?) :
    iterator.inHand next.shared = iterator.inHand watch.shared := by
  rw [inHand, inHand, pending, Option.bind_some, Option.bind_some, same]

theorem settleCursor_apart {cursor : Script.Cursor} (reply : Reply α)
    (elsewhere : cursor.pending ≠ some caller) :
    Script.State.settleCursor caller reply cursor = cursor :=
  if_neg elsewhere

theorem settleCursor_free {cursor : Script.Cursor} (reply : Reply α)
    (pending : cursor.pending = some caller) :
    (Script.State.settleCursor caller reply cursor).pending = none := by
  unfold Script.State.settleCursor
  rw [if_pos pending]
  cases reply <;> rfl

/-- Until the call made on it is over, an iterator stays as it is. -/
theorem settle_same {shared : SharedQueue α}
    (apart : ∀ caller, iterator.cursor.pending = some caller → event.endsCall caller = false) :
    iterator.settle shared event = iterator := by
  cases event with
  | leave other =>
    have elsewhere : iterator.cursor.pending ≠ some other := by
      intro pending
      have goesOn := apart other pending
      simp [Event.endsCall] at goesOn
    unfold settle
    dsimp only
    split
    · rw [if_neg elsewhere, settleCursor_apart _ elsewhere]
    · rfl
  | insert | measured | measuringPanicked | pull | enter | notify | report | close | markDone =>
    rfl

theorem taken_outline (reply : Reply α) : (Call.returned reply).outline.taken = reply.taken := by
  cases reply <;> rfl

/-- The thread of the call takes the reply, and so the iterator hands out what the call had
in hand. -/
theorem settle_leave {reply : Reply α} (pending : iterator.cursor.pending = some caller)
    (replied : watch.shared.reply? caller = some reply) (after : SharedQueue α) :
    (iterator.settle watch.shared (.leave caller)).yielded ++
        (iterator.settle watch.shared (.leave caller)).inHand after =
      iterator.yielded ++ iterator.inHand watch.shared := by
  have settled : iterator.settle watch.shared (.leave caller) =
      { cursor := Script.State.settleCursor caller reply iterator.cursor
        yielded := iterator.yielded ++ reply.taken } := by
    rw [settle, replied]
    exact congrArg _ (if_pos pending)
  have before : iterator.inHand watch.shared = reply.taken := by
    rw [inHand_pending pending (outline_of_reply replied), taken_outline]
  rw [settled, inHand_idle (settleCursor_free reply pending), List.append_nil, before]

theorem taken_begun {outline : Outline α} (begun : Begun caller event outline) :
    outline.taken = [] := by
  cases begun <;> rfl

/-- A turn puts into the hand what it takes. -/
theorem taken_turned {old new : Outline α} {added taken : List α}
    (turned : Turned old new added taken) : old.taken = [] ∧ new.taken = taken := by
  cases turned <;> exact ⟨rfl, rfl⟩

/-- What an iterator has handed out and has in hand was taken in this order. -/
def InOrder (watch : Watch α) (iterator : QueueIterator α) : Prop :=
  (iterator.yielded ++ iterator.inHand watch.shared).Sublist
    (watch.traffic.pulled.map Prod.snd)

/-- What was taken stays taken. -/
theorem InOrder.grows {other : QueueIterator α} (inOrder : InOrder watch iterator)
    (stepped : watch.step event = some next)
    (same : other.yielded ++ other.inHand next.shared =
      iterator.yielded ++ iterator.inHand watch.shared) : InOrder next other := by
  have grown : watch.traffic.pulled.map Prod.snd <+: next.traffic.pulled.map Prod.snd := by
    by_cases changed : next.traffic.pulled = watch.traffic.pulled
    · exact changed ▸ List.prefix_rfl
    · obtain ⟨who, old, new, added, taken, -, -, -, pulled⟩ :=
        Watch.turn_of_change stepped (.inr changed)
      rw [pulled, List.map_append]
      exact List.prefix_append _ _
  rw [InOrder, same]
  exact inOrder.trans grown.sublist

theorem InOrder.settle (inOrder : InOrder watch iterator)
    (stepped : watch.step event = some next) :
    InOrder next (iterator.settle watch.shared event) := by
  cases pending : iterator.cursor.pending with
  | none =>
    have same : iterator.settle watch.shared event = iterator :=
      settle_same fun caller here => by rw [pending] at here; contradiction
    apply inOrder.grows stepped
    rw [same, inHand_idle pending, inHand_idle pending]
  | some caller =>
    have stays : event.endsCall caller = false →
        iterator.settle watch.shared event = iterator := by
      intro goesOn
      apply settle_same
      intro who here
      rw [pending] at here
      cases here
      exact goesOn
    cases Watch.passage_of_step caller stepped with
    | stays goesOn outline pushed pulled =>
      apply inOrder.grows stepped
      rw [stays goesOn, inHand_same pending outline]
    | begins outline begun was now pushed pulled =>
      have goesOn : event.endsCall caller = false := by cases begun <;> rfl
      apply inOrder.grows stepped
      rw [stays goesOn, inHand_pending pending was, inHand_pending pending now, taken_begun begun]
      rfl
    | turns old new added taken enters was now turned pushed pulled =>
      obtain ⟨before, after⟩ := taken_turned turned
      rw [InOrder, inHand_pending pending was, before, List.append_nil] at inOrder
      rw [stays (by rw [enters]; rfl), InOrder, inHand_pending pending now, after, pulled,
        List.map_append, List.map_map]
      apply inOrder.append
      simp [Function.comp_def]
    | leaves ends now pushed pulled =>
      cases event with
      | leave who =>
        have same : who = caller := by simpa [Event.endsCall] using ends
        subst same
        obtain ⟨reply, replied⟩ : ∃ reply, watch.shared.reply? who = some reply :=
          reply_of_leave (Watch.shared_of_step stepped).1
        exact inOrder.grows stepped (settle_leave pending replied next.shared)
      | measuringPanicked who =>
        have same : who = caller := by simpa [Event.endsCall] using ends
        subst same
        obtain ⟨⟨entry, was⟩, -, -⟩ :=
          measuringPanicked_outline (Watch.shared_of_step stepped).1
        have same : iterator.settle watch.shared (.measuringPanicked who) = iterator := rfl
        apply inOrder.grows stepped
        rw [same, inHand_pending pending now, inHand_pending pending was]
        rfl
      | insert | measured | pull | enter | notify | report | close | markDone =>
        simp [Event.endsCall] at ends

end QueueIterator

/-- A queue that is also used through iterators, each of which makes one call at a time. -/
structure IteratedQueue (α : Type) where
  watch : Watch α
  iterators : List (QueueIterator α) := []
  /-- The steps of the queue so far. -/
  made : List (SharedQueue.Event α) := []
deriving DecidableEq

namespace IteratedQueue

inductive Event (α : Type) where
  | queue (event : SharedQueue.Event α)
  /-- A new iterator. -/
  | iterate
  /-- A thread asks an iterator for its next entry. -/
  | next (position caller : Nat)
deriving Repr, DecidableEq

variable {iterated middle final : IteratedQueue α}

/-- A fresh queue without iterators. -/
def start (config : ExecutorConfig) (producers callers : Nat) : IteratedQueue α :=
  { watch := Watch.begin (SharedQueue.start config producers callers) }

/-- A step of the queue. -/
def touch (iterated : IteratedQueue α) (event : SharedQueue.Event α) :
    Option (IteratedQueue α) :=
  (iterated.watch.step event).map fun watch =>
    { watch
      iterators := iterated.iterators.map (QueueIterator.settle iterated.watch.shared event)
      made := iterated.made ++ [event] }

/-- One step.  An iterator that has ended leaves the queue alone. -/
def step (iterated : IteratedQueue α) : Event α → Option (IteratedQueue α)
  | .queue event => iterated.touch event
  | .iterate => some { iterated with iterators := iterated.iterators ++ [{}] }
  | .next position caller =>
      match iterated.iterators[position]? with
      | none => none
      | some iterator =>
          if iterator.cursor.pending.isSome then none
          else if iterator.cursor.endStatus.isSome then some iterated
          else
            (iterated.touch (.pull caller)).map fun after =>
              let cursor := { iterator.cursor with pending := some caller }
              { after with iterators := after.iterators.set position { iterator with cursor } }

def run (iterated : IteratedQueue α) : List (Event α) → Option (IteratedQueue α)
  | [] => some iterated
  | event :: rest => (iterated.step event).bind (·.run rest)

/-! ### What iterators hand out -/

/-- The steps that were made are a run of the queue, and what each iterator has handed out
was taken in this order. -/
structure Lawful (origin : SharedQueue α) (iterated : IteratedQueue α) : Prop where
  ran : (Watch.begin origin).run iterated.made = some iterated.watch
  inOrder : ∀ iterator ∈ iterated.iterators, iterator.InOrder iterated.watch

namespace Lawful

variable {origin : SharedQueue α}

theorem touch {event : SharedQueue.Event α} (lawful : Lawful origin iterated)
    (touched : iterated.touch event = some final) : Lawful origin final := by
  obtain ⟨next, stepped, rfl⟩ := Option.map_eq_some_iff.mp touched
  constructor
  · rw [Watch.run_append, lawful.ran, Option.bind_some, Watch.run, stepped]
    rfl
  · intro iterator present
    obtain ⟨before, was, rfl⟩ := List.mem_map.mp present
    exact (lawful.inOrder before was).settle stepped

theorem outline_of_pull {caller : Nat} (touched : iterated.touch (.pull caller) = some final) :
    final.watch.shared.outlines[caller]? = some .pulling := by
  obtain ⟨next, stepped, rfl⟩ := Option.map_eq_some_iff.mp touched
  obtain ⟨was, outlines, -, -⟩ := Watch.begun_of_step .pull stepped
  obtain ⟨inside, -⟩ := List.getElem?_eq_some_iff.mp was
  rw [outlines, List.getElem?_set_self inside]

theorem next {position caller : Nat} (lawful : Lawful origin iterated)
    (stepped : iterated.step (.next position caller) = some final) : Lawful origin final := by
  simp only [IteratedQueue.step] at stepped
  split at stepped
  · contradiction
  · rename_i iterator found
    split at stepped
    · contradiction
    · rename_i idle
      split at stepped
      · cases stepped
        exact lawful
      · obtain ⟨after, touched, rfl⟩ := Option.map_eq_some_iff.mp stepped
        have moved := lawful.touch touched
        refine ⟨moved.ran, fun other present => ?_⟩
        rcases List.mem_or_eq_of_mem_set present with before | rfl
        · exact moved.inOrder other before
        · -- Neither before nor after does the iterator have anything in hand.
          have was := lawful.inOrder iterator (List.mem_of_getElem? found)
          have before : iterator.inHand iterated.watch.shared = [] :=
            QueueIterator.inHand_idle (by simpa using idle)
          have pulling := outline_of_pull touched
          obtain ⟨next, moves, rfl⟩ := Option.map_eq_some_iff.mp touched
          apply was.grows moves
          rw [before]
          exact congrArg _ (QueueIterator.inHand_pending rfl pulling)

theorem step {event : Event α} (lawful : Lawful origin iterated)
    (stepped : iterated.step event = some final) : Lawful origin final := by
  cases event with
  | queue event => exact lawful.touch stepped
  | next position caller => exact lawful.next stepped
  | iterate =>
    cases stepped
    refine ⟨lawful.ran, fun iterator present => ?_⟩
    rcases List.mem_append.mp present with before | new
    · exact lawful.inOrder iterator before
    · rw [List.mem_singleton.mp new]
      exact List.nil_sublist _

theorem run {events : List (Event α)} (lawful : Lawful origin iterated)
    (ran : iterated.run events = some final) : Lawful origin final := by
  induction events generalizing iterated with
  | nil =>
    cases ran
    exact lawful
  | cons event rest ih =>
    obtain ⟨middle, stepped, ran⟩ := Option.bind_eq_some_iff.mp ran
    exact ih (lawful.step stepped) ran

end Lawful

/-- However many threads use a queue, directly or through iterators, and in whichever
order: entries are conserved, and each iterator hands out entries that were taken, in the
order in which they were taken. -/
theorem hands_out_in_order {config : ExecutorConfig} {producers callers : Nat}
    {events : List (Event α)}
    (ran : (start config producers callers).run events = some final) :
    (Watch.begin (SharedQueue.start config producers callers)).run final.made =
        some final.watch ∧
      Watch.Conserved (SharedQueue.start config producers callers) final.made final.watch ∧
      ∀ iterator ∈ final.iterators,
        iterator.yielded.Sublist (final.watch.traffic.pulled.map Prod.snd) := by
  have fresh : Lawful (SharedQueue.start config producers callers : SharedQueue α)
      (start config producers callers) :=
    ⟨rfl, fun _ none => absurd none List.not_mem_nil⟩
  have lawful := fresh.run ran
  refine ⟨lawful.ran, ?_, ?_⟩
  · apply Watch.conserved_of_run rfl rfl _ lawful.ran
    intro call present
    exact List.eq_of_mem_replicate present
  · intro iterator present
    exact (List.sublist_append_left _ _).trans (lawful.inOrder iterator present)

/-- Two inserts, and two calls on one iterator: the first hands out an entry, the second
begins before the queue is closed and takes nothing any more. -/
def draining : List (Event Nat) :=
  [.iterate, .queue (.insert 0 1), .queue (.measured 0 10), .queue (.enter 0), .next 0 1,
    .queue (.enter 1), .queue (.notify 1 none), .queue (.report 1), .queue (.leave 1),
    .queue (.notify 0 none), .queue (.report 0), .queue (.leave 0), .queue (.insert 0 2),
    .queue (.measured 0 10), .queue (.enter 0), .next 0 1, .queue (.close 2),
    .queue (.enter 1), .queue (.leave 1), .next 0 1]

theorem hands_out_in_order_inhabited :
    ∃ final : IteratedQueue Nat,
      (start { writeBufferLimitBytes := 10 } 1 3).run draining = some final ∧
        final.watch.traffic.pushed = [(0, 1), (0, 2)] ∧
        final.watch.traffic.pulled = [(1, 1)] ∧ final.watch.traffic.dropped = [2] ∧
        final.iterators.map QueueIterator.yielded = [[1]] ∧
        Watch.Conserved (SharedQueue.start { writeBufferLimitBytes := 10 } 1 3) final.made
          final.watch := by
  have runs : ((start { writeBufferLimitBytes := 10 } 1 3).run draining).map (fun final =>
      decide (final.watch.traffic.pushed = [(0, 1), (0, 2)] ∧
        final.watch.traffic.pulled = [(1, 1)] ∧ final.watch.traffic.dropped = [2] ∧
        final.iterators.map QueueIterator.yielded = [[1]])) = some true := by
    decide +kernel
  obtain ⟨final, ran, holds⟩ := Option.map_eq_some_iff.mp runs
  obtain ⟨pushed, pulled, dropped, yielded⟩ := of_decide_eq_true holds
  obtain ⟨-, conserved, -⟩ := hands_out_in_order ran
  exact ⟨final, ran, pushed, pulled, dropped, yielded, conserved⟩

end IteratedQueue

end BoundedIngest

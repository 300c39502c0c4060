/-
Module: BoundedIngest.Proofs.Queue.Admission
Purpose: An entry is added only to an open queue with room for it, so the length stays within a
  limit that has been in force, and a limit that shrinks below the length drops nothing.
Main exports:
  SharedQueue.Weighed, SharedQueue.Handled, SharedQueue.handled_of_step, SharedQueue.MakesRoom,
  SharedQueue.RoomMade, SharedQueue.shrinks_or_makes_room, SharedQueue.admission_bound
-/
import BoundedIngest.Proofs.Queue.Outline

namespace BoundedIngest

/-!
The limit is computed anew with every measurement, by whichever insert brings it along, while
others wait for room.  The same critical section compares the length with the limit that it
leaves behind, so what matters for a push is the limit afterwards.  A limit that shrinks below
the length sends nobody away: the queue is crowded until pulls have emptied it far enough, or
until a later measurement has raised the limit again, or until it is closed.
-/

variable {α : Type}

/-- A model that admits one entry at least has a limit within what it admits at most. -/
theorem Capacity.limit_observe_le {capacity : Capacity} (positive : 1 ≤ capacity.maxRecords.toNat)
    (size : UInt64) :
    (capacity.observe size).1.limit ≤ (capacity.observe size).1.maxRecords.toNat := by
  have most : ∀ quotient : Nat,
      max 1 (min quotient capacity.maxRecords.toNat) ≤ capacity.maxRecords.toNat :=
    fun quotient => max_le positive (Nat.min_le_right _ _)
  exact most _

namespace SharedQueue

variable {shared next final : SharedQueue α} {caller : Nat} {entry : α} {event : Event α}

/-! ### What a step does to the entries and to the limit -/

/-- The capacity that a step leaves behind is the one before it, or has a measurement folded in
that an insert has brought along. -/
def Weighed (shared : SharedQueue α) (event : Event α) (capacity : Capacity) : Prop :=
  capacity = shared.queue.capacity ∨
    ∃ caller entry size, event = .enter caller ∧
      shared.calls[caller]? = some (.inserting entry (some size)) ∧
      capacity = (shared.queue.capacity.observe size).1

/-- A step adds an entry, or takes the oldest one, or closes the queue, or leaves the entries as
they are. -/
inductive Handled (shared : SharedQueue α) (event : Event α) (next : SharedQueue α) : Prop
  | admitted (caller : Nat) (entry : α) (enters : event = .enter caller)
      (was : shared.outlines[caller]? = some (.inserting entry))
      (stillOpen : shared.queue.closed = false)
      (weighed : Weighed shared event next.queue.capacity)
      (room : shared.queue.buffer.length < next.queue.capacity.limit)
      (buffer : next.queue.buffer = shared.queue.buffer ++ [entry])
  | taken (entry : α) (contents : shared.queue.pop? = some (entry, next.queue))
  | emptied (capacity : next.queue.capacity = shared.queue.capacity)
      (closed : next.queue.closed = true) (buffer : next.queue.buffer = [])
  | kept (weighed : Weighed shared event next.queue.capacity)
      (closed : next.queue.closed = shared.queue.closed)
      (buffer : next.queue.buffer = shared.queue.buffer)

/-- A step that leaves the queue alone. -/
theorem handled_of_same (same : next.queue = shared.queue) : Handled shared event next := by
  refine .kept (.inl ?_) ?_ ?_ <;> rw [same]

/-- An insert inside the lock, where `observed` has perhaps a measurement folded in. -/
theorem handled_of_tryPush {observed : SharedQueue α} {waited : Bool}
    (contents : SameContents shared.queue observed.queue)
    (weighed : Weighed shared (.enter caller) observed.queue.capacity)
    (was : shared.outlines[caller]? = some (.inserting entry)) :
    Handled shared (.enter caller) (observed.tryPush caller entry waited) := by
  have closed : observed.queue.closed = shared.queue.closed := by rw [contents]
  have buffer : observed.queue.buffer = shared.queue.buffer := by rw [contents]
  unfold tryPush
  split
  · exact .kept weighed closed buffer
  · rename_i notClosed
    split
    · exact .kept weighed closed buffer
    · rename_i notFull
      refine .admitted caller entry rfl was ?_ weighed ?_ (congrArg (· ++ [entry]) buffer)
      · rw [← closed]
        exact Bool.eq_false_of_not_eq_true notClosed
      · rw [← buffer]
        have room : observed.queue.buffer.length < observed.queue.capacity.limit := by
          simpa [Queue.isFull] using notFull
        exact room

theorem handled_of_firstInsert {size : Option UInt64}
    (found : shared.calls[caller]? = some (.inserting entry size)) :
    Handled shared (.enter caller) (shared.firstInsert caller entry size) := by
  have was : shared.outlines[caller]? = some (.inserting entry) := outlines_getElem? found
  have arrives : ∀ observed : SharedQueue α, SameContents shared.queue observed.queue →
      Weighed shared (.enter caller) observed.queue.capacity →
      Handled shared (.enter caller)
        (if observed.queue.refuses then observed.setCall caller (.returned .refused)
          else observed.tryPush caller entry false) := by
    intro observed contents weighed
    split
    · refine .kept weighed ?_ ?_ <;> rw [queue_setCall, contents]
    · exact handled_of_tryPush contents weighed was
  cases size with
  | none => exact arrives shared rfl (.inl rfl)
  | some size =>
    refine arrives _ (observe_contents size) (.inr ⟨caller, entry, size, rfl, found, ?_⟩)
    unfold observe
    dsimp only
    split <;> rfl

theorem handled_of_tryPull : Handled shared (.enter caller) (shared.tryPull caller) := by
  unfold tryPull
  split
  · exact handled_of_same rfl
  · split
    · rename_i entry queue popped
      exact .taken entry popped
    · split <;> exact handled_of_same rfl

theorem handled_of_enter (entered : shared.enter caller = some next) :
    Handled shared (.enter caller) next := by
  unfold enter at entered
  split at entered
  · rename_i found
    cases entered
    exact handled_of_firstInsert found
  · rename_i found
    cases entered
    exact handled_of_tryPush rfl (.inl rfl) (outlines_getElem? found)
  · cases entered
    exact handled_of_tryPull
  · cases entered
    exact handled_of_tryPull
  · contradiction

theorem handled_of_step (stepped : shared.step event = some next) :
    Handled shared event next := by
  cases event with
  | insert caller entry => exact handled_of_same (insert_outline stepped).2.1
  | measured caller size => exact handled_of_same (measured_outline stepped).1
  | measuringPanicked caller => exact handled_of_same (measuringPanicked_outline stepped).2.1
  | pull caller => exact handled_of_same (pull_outline stepped).2.1
  | enter caller => exact handled_of_enter stepped
  | notify caller target => exact handled_of_same (notify_outline stepped).1
  | report caller => exact handled_of_same (report_outline stepped).1
  | close caller =>
    have queue := (close_outline stepped).2.1
    split at queue
    · refine .emptied ?_ ?_ ?_ <;> rw [queue] <;> rfl
    · exact handled_of_same queue
  | markDone =>
    have queue := (markDone_outline stepped).1
    refine .kept (.inl ?_) ?_ ?_ <;> rw [queue] <;> rfl
  | leave caller => exact handled_of_same (leave_contents stepped).1

/-! ### The bound -/

/-- A queue that has grown over a run is no longer than a limit that was in force on the way. -/
theorem length_le_limit_of_run {events : List (Event α)} (ran : shared.run events = some final) :
    final.queue.buffer.length ≤ shared.queue.buffer.length ∨
      ∃ earlier later reached, events = earlier ++ later ∧ shared.run earlier = some reached ∧
        final.queue.buffer.length ≤ reached.queue.capacity.limit := by
  induction events generalizing shared with
  | nil =>
    cases ran
    exact .inl (Nat.le_refl _)
  | cons event rest ih =>
    obtain ⟨middle, stepped, ran⟩ := Option.bind_eq_some_iff.mp ran
    have onward : ∀ earlier : List (Event α),
        shared.run (event :: earlier) = middle.run earlier := by
      intro earlier
      rw [run, stepped, Option.bind_some]
    rcases ih ran with shorter | ⟨earlier, later, reached, rfl, reaches, within⟩
    · cases handled_of_step stepped with
      | admitted caller entry enters was stillOpen weighed room buffer =>
        refine .inr ⟨[event], rest, middle, rfl, onward [], ?_⟩
        rw [buffer, List.length_append, List.length_singleton] at shorter
        exact shorter.trans room
      | taken entry contents =>
        obtain ⟨others, front, queue⟩ := Queue.front_of_pop contents
        refine .inl (shorter.trans ?_)
        rw [queue, front]
        exact Nat.le_succ _
      | emptied capacity closed buffer =>
        rw [buffer] at shorter
        exact .inl (shorter.trans (Nat.zero_le _))
      | kept weighed closed buffer =>
        rw [buffer] at shorter
        exact .inl shorter
    · exact .inr ⟨event :: earlier, later, reached, rfl, (onward earlier).trans reaches, within⟩

/-- The limit and the length are within what the queue admits at most. -/
structure Confined (most : Nat) (shared : SharedQueue α) : Prop where
  positive : 1 ≤ most
  given : shared.queue.capacity.maxRecords.toNat = most
  limit : shared.queue.capacity.limit ≤ most
  length : shared.queue.buffer.length ≤ most

theorem confined_start (config : ExecutorConfig) (producers callers : Nat) :
    (start config producers callers : SharedQueue α).Confined
      (max 1 config.maxCachedRecords.toNat) := by
  refine ⟨le_max_left 1 _, ?_, le_max_left 1 _, Nat.zero_le _⟩
  change (max config.maxCachedRecords 1).toNat = _
  rw [UInt64.toNat_max, max_comm]
  rfl

theorem Weighed.confined {most : Nat} {capacity : Capacity} (confined : shared.Confined most)
    (weighed : Weighed shared event capacity) :
    capacity.maxRecords.toNat = most ∧ capacity.limit ≤ most := by
  rcases weighed with rfl | ⟨caller, entry, size, -, -, rfl⟩
  · exact ⟨confined.given, confined.limit⟩
  · have positive : 1 ≤ shared.queue.capacity.maxRecords.toNat := by
      rw [confined.given]
      exact confined.positive
    refine ⟨confined.given, (Capacity.limit_observe_le positive size).trans ?_⟩
    exact confined.given.le

theorem Confined.step {most : Nat} (confined : shared.Confined most)
    (stepped : shared.step event = some next) : next.Confined most := by
  cases handled_of_step stepped with
  | admitted caller entry enters was stillOpen weighed room buffer =>
    obtain ⟨given, limit⟩ := weighed.confined confined
    refine ⟨confined.positive, given, limit, ?_⟩
    rw [buffer, List.length_append, List.length_singleton]
    exact room.trans_le limit
  | taken entry contents =>
    obtain ⟨others, front, queue⟩ := Queue.front_of_pop contents
    have shorter : others.length ≤ shared.queue.buffer.length := by
      rw [front]
      exact Nat.le_succ _
    refine ⟨confined.positive, ?_, ?_, ?_⟩ <;> rw [queue]
    · exact confined.given
    · exact confined.limit
    · exact shorter.trans confined.length
  | emptied capacity closed buffer =>
    refine ⟨confined.positive, ?_, ?_, ?_⟩
    · rw [capacity]
      exact confined.given
    · rw [capacity]
      exact confined.limit
    · rw [buffer]
      exact Nat.zero_le _
  | kept weighed closed buffer =>
    obtain ⟨given, limit⟩ := weighed.confined confined
    refine ⟨confined.positive, given, limit, ?_⟩
    rw [buffer]
    exact confined.length

theorem Confined.run {most : Nat} {events : List (Event α)} (confined : shared.Confined most)
    (ran : shared.run events = some final) : final.Confined most := by
  induction events generalizing shared with
  | nil =>
    cases ran
    exact confined
  | cons event rest ih =>
    obtain ⟨middle, stepped, ran⟩ := Option.bind_eq_some_iff.mp ran
    exact ih (confined.step stepped) ran

/-! ### A crowded queue -/

/-- No entry can be added: the limit is not above the length, or the queue is closed. -/
def Crowded (shared : SharedQueue α) : Prop :=
  shared.queue.isFull = true ∨ shared.queue.closed = true

/-- A step makes room for an entry: a pull brings the length below the limit, or a measurement
raises the limit above the length. -/
inductive MakesRoom (shared : SharedQueue α) (event : Event α) (next : SharedQueue α) : Prop
  | pull (entry : α) (contents : shared.queue.pop? = some (entry, next.queue))
      (room : next.queue.buffer.length < next.queue.capacity.limit)
  | raise (caller : Nat) (entry : α) (size : UInt64) (enters : event = .enter caller)
      (found : shared.calls[caller]? = some (.inserting entry (some size)))
      (raised : shared.queue.capacity.limit < (shared.queue.capacity.observe size).1.limit)
      (room : shared.queue.buffer.length < (shared.queue.capacity.observe size).1.limit)

/-- One of the steps of a run makes room. -/
def RoomMade (shared : SharedQueue α) (events : List (Event α)) : Prop :=
  ∃ earlier event later before after, events = earlier ++ event :: later ∧
    shared.run earlier = some before ∧ before.step event = some after ∧
    MakesRoom before event after

/-- A limit above the length of a full queue comes from a measurement. -/
theorem Weighed.makesRoom (weighed : Weighed shared event next.queue.capacity)
    (full : shared.queue.isFull = true)
    (room : shared.queue.buffer.length < next.queue.capacity.limit) :
    MakesRoom shared event next := by
  have below : shared.queue.capacity.limit ≤ shared.queue.buffer.length := by
    simpa [Queue.isFull] using full
  rcases weighed with same | ⟨caller, entry, size, enters, found, folded⟩
  · rw [same] at room
    exact absurd below room.not_ge
  · rw [folded] at room
    exact .raise caller entry size enters found (below.trans_lt room) room

/-- Nothing is added to a crowded queue unless the same step makes room, and what it has lost it
has lost at its front. -/
theorem shrinks_or_makes_room (crowded : shared.Crowded)
    (stepped : shared.step event = some next) :
    (next.Crowded ∧ next.queue.buffer <:+ shared.queue.buffer) ∨ MakesRoom shared event next := by
  cases handled_of_step stepped with
  | admitted caller entry enters was stillOpen weighed room buffer =>
    rcases crowded with full | closed
    · exact .inr (weighed.makesRoom full room)
    · rw [stillOpen] at closed
      contradiction
  | taken entry contents =>
    obtain ⟨others, front, queue⟩ := Queue.front_of_pop contents
    rcases Nat.lt_or_ge next.queue.buffer.length next.queue.capacity.limit with room | full
    · exact .inr (.pull entry contents room)
    · refine .inl ⟨.inl (decide_eq_true full), ?_⟩
      rw [queue, front]
      exact List.suffix_cons entry others
  | emptied capacity closed buffer =>
    rw [buffer]
    exact .inl ⟨.inr closed, List.nil_suffix⟩
  | kept weighed closed buffer =>
    have suffix : next.queue.buffer <:+ shared.queue.buffer := buffer ▸ List.suffix_rfl
    rcases crowded with full | wasClosed
    · rcases Nat.lt_or_ge next.queue.buffer.length next.queue.capacity.limit with room | full'
      · rw [buffer] at room
        exact .inr (weighed.makesRoom full room)
      · exact .inl ⟨.inl (decide_eq_true full'), suffix⟩
    · exact .inl ⟨.inr (closed.trans wasClosed), suffix⟩

/-- A crowded queue stays crowded until room is made. -/
theorem crowded_or_roomMade {events : List (Event α)} (crowded : shared.Crowded)
    (ran : shared.run events = some final) : final.Crowded ∨ shared.RoomMade events := by
  induction events generalizing shared with
  | nil =>
    cases ran
    exact .inl crowded
  | cons event rest ih =>
    obtain ⟨middle, stepped, ran⟩ := Option.bind_eq_some_iff.mp ran
    rcases shrinks_or_makes_room crowded stepped with ⟨still, -⟩ | makes
    · rcases ih still ran with crowded | ⟨earlier, later, more, before, after, rfl, reaches, rest⟩
      · exact .inl crowded
      · refine .inr ⟨event :: earlier, later, more, before, after, rfl, ?_, rest⟩
        rw [run, stepped]
        exact reaches
    · exact .inr ⟨[], event, rest, shared, middle, rfl, rfl, stepped, makes⟩

/-- Until room is made, each step leaves a crowded queue as it is or takes entries from its
front. -/
theorem suffix_or_roomMade {rest : List (Event α)} {before after : SharedQueue α}
    (crowded : shared.Crowded) (ran : shared.run rest = some before)
    (stepped : before.step event = some after) :
    after.queue.buffer <:+ before.queue.buffer ∨ shared.RoomMade (rest ++ [event]) := by
  rcases crowded_or_roomMade crowded ran with
    still | ⟨earlier, moment, later, middle, onward, rfl, made⟩
  · rcases shrinks_or_makes_room still stepped with ⟨-, suffix⟩ | makes
    · exact .inl suffix
    · exact .inr ⟨rest, event, [], before, after, rfl, ran, stepped, makes⟩
  · exact .inr ⟨earlier, moment, later ++ [event], middle, onward, by simp, made⟩

/-! ### Admission -/

/-- A full queue stays as it is, whether it is closed or not. -/
theorem queue_tryPush_of_full {waited : Bool} (full : shared.queue.isFull = true) :
    (shared.tryPush caller entry waited).queue = shared.queue := by
  unfold tryPush
  rw [if_pos full]
  split
  · exact queue_setCall _
  · exact queue_setCall _

/-- Folding in a measurement that leaves the limit at or below the length adds no entry and drops
none. -/
theorem kept_of_full {size : UInt64}
    (found : shared.calls[caller]? = some (.inserting entry (some size)))
    (full : (shared.observe size).queue.isFull = true)
    (stepped : shared.step (.enter caller) = some next) :
    next.queue.isFull = true ∧ next.queue.buffer = shared.queue.buffer := by
  have same : SameContents shared.queue (shared.observe size).queue := observe_contents size
  have buffer : (shared.observe size).queue.buffer = shared.queue.buffer := by rw [same]
  have entered : next = shared.firstInsert caller entry (some size) := by
    rw [step, enter, found] at stepped
    exact (Option.some.inj stepped).symm
  have queue : next.queue = (shared.observe size).queue := by
    rw [entered]
    unfold firstInsert
    dsimp only
    split
    · exact queue_setCall _
    · exact queue_tryPush_of_full full
  rw [queue]
  exact ⟨full, buffer⟩

/-- In every interleaving, whatever the entries measure: an entry is added only by an insert that
holds the lock of an open queue and finds fewer entries than the limit then in force, so the
length never exceeds the largest limit there has been, nor the configured number of records; and
a measurement that leaves the limit at or below the length drops nothing, and from then on
entries only go, until pulls have made room or a later measurement has. -/
theorem admission_bound (config : ExecutorConfig) (producers callers : Nat)
    {events : List (Event α)}
    (ran : (start config producers callers).run events = some shared) :
    (∀ event next, shared.step event = some next →
      shared.queue.buffer.length < next.queue.buffer.length →
      ∃ caller entry, event = .enter caller ∧
        shared.outlines[caller]? = some (.inserting entry) ∧ shared.queue.closed = false ∧
        shared.queue.buffer.length < next.queue.capacity.limit ∧
        next.queue.buffer = shared.queue.buffer ++ [entry]) ∧
    (∃ earlier later reached, events = earlier ++ later ∧
      (start config producers callers).run earlier = some reached ∧
      shared.queue.buffer.length ≤ reached.queue.capacity.limit) ∧
    shared.queue.buffer.length ≤ max 1 config.maxCachedRecords.toNat ∧
    ∀ caller entry size next,
      shared.calls[caller]? = some (.inserting entry (some size)) →
      (shared.observe size).queue.isFull = true →
      shared.step (.enter caller) = some next →
      next.queue.buffer = shared.queue.buffer ∧
      ∀ rest before event after, next.run rest = some before →
        before.step event = some after →
        after.queue.buffer <:+ before.queue.buffer ∨ next.RoomMade (rest ++ [event]) := by
  refine ⟨?pushes, ?reached, ((confined_start config producers callers).run ran).length, ?narrowed⟩
  case pushes =>
    intro event next stepped longer
    cases handled_of_step stepped with
    | admitted caller entry enters was stillOpen weighed room buffer =>
      exact ⟨caller, entry, enters, was, stillOpen, room, buffer⟩
    | taken entry contents =>
      obtain ⟨others, front, queue⟩ := Queue.front_of_pop contents
      rw [queue, front, List.length_cons] at longer
      exact absurd longer (Nat.lt_succ_self _).not_gt
    | emptied capacity closed buffer =>
      rw [buffer] at longer
      exact absurd longer (Nat.not_lt_zero _)
    | kept weighed closed buffer =>
      rw [buffer] at longer
      exact absurd longer (Nat.lt_irrefl _)
  case reached =>
    rcases length_le_limit_of_run ran with empty | within
    · exact ⟨[], events, _, rfl, rfl, empty.trans (Nat.zero_le _)⟩
    · exact within
  case narrowed =>
    intro caller entry size next found full stepped
    obtain ⟨full', buffer⟩ := kept_of_full found full stepped
    exact ⟨buffer, fun rest before event after ran stepped =>
      suffix_or_roomMade (.inl full') ran stepped⟩

/-- An entry of ten bytes gets in, and one of a hundred and thirty is about to. -/
def narrowing : List (Event Nat) :=
  [.insert 0 1, .measured 0 10, .enter 0, .insert 1 2, .measured 1 130]

/-- The second entry shrinks the limit to what is in the queue already. -/
theorem admission_bound_inhabited :
    ∃ shared next : SharedQueue Nat,
      (start { writeBufferLimitBytes := 100 } 1 3).run narrowing = some shared ∧
        shared.step (.enter 1) = some next ∧ shared.queue.capacity.limit = 10 ∧
        next.queue.capacity.limit = 1 ∧ next.queue.buffer = [1] ∧
        ∀ rest before event after, next.run rest = some before → before.step event = some after →
          after.queue.buffer <:+ before.queue.buffer ∨ next.RoomMade (rest ++ [event]) := by
  have runs : ((start { writeBufferLimitBytes := 100 } 1 3).run narrowing).map
      (fun shared : SharedQueue Nat => (shared.queue.capacity.limit, shared.queue.buffer,
        shared.calls[1]?, (shared.observe 130).queue.isFull,
        (shared.step (.enter 1)).map fun next => next.queue.capacity.limit)) =
      some (10, [1], some (.inserting 2 (some 130)), true, some 1) := by
    decide +kernel
  obtain ⟨shared, ran, facts⟩ := Option.map_eq_some_iff.mp runs
  simp only [Prod.mk.injEq] at facts
  obtain ⟨limit, buffer, found, full, onward⟩ := facts
  obtain ⟨next, stepped, shrunk⟩ := Option.map_eq_some_iff.mp onward
  obtain ⟨-, -, -, narrowed⟩ := admission_bound _ _ _ ran
  obtain ⟨same, shrinks⟩ := narrowed 1 2 130 next found full stepped
  exact ⟨shared, next, ran, stepped, limit, shrunk, same.trans buffer, shrinks⟩

/-- A third entry, smaller again, raises the limit above the length and gets in, although nobody
has pulled anything. -/
theorem admission_bound_without_pulls :
    ¬ ∀ (config : ExecutorConfig) (producers callers : Nat) (events rest : List (Event Nat))
        (shared next final : SharedQueue Nat) (caller entry : Nat) (size : UInt64),
        (start config producers callers).run events = some shared →
        shared.calls[caller]? = some (.inserting entry (some size)) →
        (shared.observe size).queue.isFull = true →
        shared.step (.enter caller) = some next →
        next.run rest = some final →
        (∀ puller, Event.pull puller ∉ events ++ rest) →
        final.queue.buffer.length ≤ next.queue.buffer.length := by
  intro claimed
  have runs : ((start { writeBufferLimitBytes := 100 } 1 3).run narrowing).bind
      (fun shared : SharedQueue Nat => (shared.step (.enter 1)).bind fun next =>
        (next.run [.insert 2 3, .measured 2 10, .enter 2]).map fun final =>
          (shared.calls[1]?, (shared.observe 130).queue.isFull, next.queue.buffer.length,
            final.queue.buffer.length)) =
      some (some (.inserting 2 (some 130)), true, 1, 2) := by
    decide +kernel
  obtain ⟨shared, ran, onward⟩ := Option.bind_eq_some_iff.mp runs
  obtain ⟨next, stepped, onward⟩ := Option.bind_eq_some_iff.mp onward
  obtain ⟨final, ended, facts⟩ := Option.map_eq_some_iff.mp onward
  simp only [Prod.mk.injEq] at facts
  obtain ⟨found, full, before, after⟩ := facts
  have nobody : ∀ puller, Event.pull puller ∉
      narrowing ++ [.insert 2 3, .measured 2 10, .enter 2] := by
    intro puller
    simp [narrowing]
  have short := claimed _ _ _ _ _ shared next final 1 2 130 ran found full stepped ended nobody
  rw [before, after] at short
  exact absurd short (by decide)

end SharedQueue

end BoundedIngest

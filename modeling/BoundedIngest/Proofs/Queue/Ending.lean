/-
Module: BoundedIngest.Proofs.Queue.Ending
Purpose: What can still happen to a queue once all of its producers are done.
Main exports:
  Call.admitted?, SharedQueue.Narrows, SharedQueue.narrows_of_step, Watch.Late,
  Watch.late_of_run, Watch.only_admitted_enter
-/
import BoundedIngest.Proofs.Queue.Traffic

namespace BoundedIngest

/-!
An insert asks whether all producers are done when it takes the lock for the first time,
and never again.  So the inserts that may still add an entry afterwards are those that had
asked before and wait for room: each of them at most once, and nobody else.  Where there
are none, the last producer is the end: nothing enters, and a queue that has run dry stays
dry.
-/

variable {α : Type}

/-- The entry of an insert that was not refused on arrival and has found no room yet. -/
def Call.admitted? : Call α → Option α
  | .awaitingRoom entry | .retryingInsert entry => some entry
  | _ => none

@[simp] theorem Call.admitted_notifyRoom (call : Call α) :
    call.notifyRoom.admitted? = call.admitted? := by
  cases call <;> rfl

@[simp] theorem Call.admitted_notifyEntry (call : Call α) :
    call.notifyEntry.admitted? = call.admitted? := by
  cases call <;> rfl

namespace SharedQueue

def admitted? (shared : SharedQueue α) (caller : Nat) : Option α :=
  shared.calls[caller]?.bind Call.admitted?

variable {shared middle next : SharedQueue α} {caller : Nat} {entry : α}

theorem admitted_getElem? {call : Call α} (found : shared.calls[caller]? = some call) :
    shared.admitted? caller = call.admitted? := by
  simp [admitted?, found]

theorem outline_of_admitted (admitted : shared.admitted? caller = some entry) :
    shared.outlines[caller]? = some (.inserting entry) := by
  obtain ⟨call, found, stage⟩ := Option.bind_eq_some_iff.mp admitted
  rw [outlines_getElem? found]
  unfold Call.admitted? at stage
  split at stage
  · cases stage
    rfl
  · cases stage
    rfl
  · contradiction

theorem not_admitted_of_outline {outline : Outline α}
    (was : shared.outlines[caller]? = some outline)
    (other : ∀ entry, outline ≠ .inserting entry) : shared.admitted? caller = none := by
  apply Option.eq_none_iff_forall_ne_some.mpr
  intro entry admitted
  rw [outline_of_admitted admitted] at was
  exact other entry (Option.some.inj was).symm

/-- Whoever is admitted in the second queue is admitted in the first, with the same
entry. -/
def Narrows (shared next : SharedQueue α) : Prop :=
  ∀ caller entry, next.admitted? caller = some entry → shared.admitted? caller = some entry

theorem Narrows.refl (shared : SharedQueue α) : Narrows shared shared := fun _ _ same => same

theorem Narrows.trans (first : Narrows shared middle) (second : Narrows middle next) :
    Narrows shared next :=
  fun caller entry admitted => first caller entry (second caller entry admitted)

/-- Who is outside stays outside. -/
theorem Narrows.outside (narrows : Narrows shared next)
    (outside : shared.admitted? caller = none) : next.admitted? caller = none := by
  apply Option.eq_none_iff_forall_ne_some.mpr
  intro entry admitted
  rw [narrows caller entry admitted] at outside
  contradiction

theorem narrows_of_calls (same : next.calls = shared.calls) : Narrows shared next := by
  intro caller entry admitted
  rwa [admitted?, same] at admitted

/-- A call goes on to a stage at which it is admitted only if it was before. -/
theorem Narrows.setCall {call : Call α} (narrows : Narrows shared middle)
    (allowed : ∀ entry, call.admitted? = some entry → shared.admitted? caller = some entry) :
    Narrows shared (middle.setCall caller call) := by
  intro who entry admitted
  obtain ⟨now, found, stage⟩ := Option.bind_eq_some_iff.mp admitted
  rcases set_or_before found with ⟨rfl, rfl⟩ | before
  · exact allowed entry stage
  · exact narrows who entry (by rw [admitted_getElem? before, stage])

theorem narrows_setCall {call : Call α} (outside : call.admitted? = none) :
    Narrows shared (shared.setCall caller call) := by
  apply (Narrows.refl shared).setCall
  intro entry admitted
  rw [outside] at admitted
  contradiction

theorem narrows_notifyAllRoom : Narrows shared shared.notifyAllRoom := by
  intro caller entry admitted
  simpa [admitted?, notifyAllRoom, Option.bind_map, Function.comp_def] using admitted

theorem narrows_notifyAllEntry : Narrows shared shared.notifyAllEntry := by
  intro caller entry admitted
  simpa [admitted?, notifyAllEntry, Option.bind_map, Function.comp_def] using admitted

theorem narrows_notifyOneRoom {target : Option Nat}
    (notified : shared.notifyOneRoom target = some next) : Narrows shared next := by
  rcases reached_of_notifyOneRoom notified with ⟨-, rfl⟩ | ⟨woken, entry, found, rfl⟩
  · exact Narrows.refl _
  · exact (Narrows.refl shared).setCall fun _ stage => (admitted_getElem? found).trans stage

theorem narrows_notifyOneEntry {target : Option Nat}
    (notified : shared.notifyOneEntry target = some next) : Narrows shared next := by
  rcases reached_of_notifyOneEntry notified with ⟨-, rfl⟩ | ⟨woken, found, rfl⟩
  · exact Narrows.refl _
  · exact narrows_setCall rfl

theorem narrows_observe (size : UInt64) : Narrows shared (shared.observe size) := by
  unfold observe
  dsimp only
  split
  · exact narrows_notifyAllRoom
  · exact narrows_of_calls rfl

/-! ### Nobody is let in any more -/

/-- On arrival every insert is refused, whatever its measurement changes. -/
theorem firstInsert_of_finished {size : Option UInt64}
    (finished : shared.queue.producersFinished = true) :
    ∃ observed, Narrows shared observed ∧ observed.outlines = shared.outlines ∧
      shared.firstInsert caller entry size = observed.setCall caller (.returned .refused) := by
  have refuses : ∀ observed : SharedQueue α, SameContents shared.queue observed.queue →
      observed.queue.refuses = true := by
    intro observed contents
    rw [contents, Queue.refuses]
    simp [Queue.producersFinished] at finished ⊢
    exact .inr finished
  cases size with
  | none =>
    refine ⟨shared, Narrows.refl shared, rfl, ?_⟩
    exact if_pos (refuses shared rfl)
  | some bytes =>
    refine ⟨_, narrows_observe bytes, outlines_observe bytes, ?_⟩
    exact if_pos (refuses _ (observe_contents bytes))

theorem narrows_tryPush {waited : Bool} (was : shared.admitted? caller = some entry) :
    Narrows shared (shared.tryPush caller entry waited) := by
  unfold tryPush
  split
  · exact narrows_setCall rfl
  · split
    · apply (Narrows.refl shared).setCall
      intro same stage
      cases stage
      exact was
    · exact (narrows_of_calls rfl).trans (narrows_setCall rfl)

theorem narrows_tryPull : Narrows shared (shared.tryPull caller) := by
  unfold tryPull
  split
  · exact narrows_setCall rfl
  · split
    · exact (narrows_of_calls rfl).trans (narrows_setCall rfl)
    · split <;> exact narrows_setCall rfl

theorem narrows_enter (finished : shared.queue.producersFinished = true)
    (entered : shared.enter caller = some next) : Narrows shared next := by
  unfold enter at entered
  split at entered
  · cases entered
    obtain ⟨observed, narrows, -, refused⟩ := firstInsert_of_finished finished
    rw [refused]
    exact narrows.trans (narrows_setCall rfl)
  · rename_i found
    cases entered
    exact narrows_tryPush (admitted_getElem? found)
  · cases entered
    exact narrows_tryPull
  · cases entered
    exact narrows_tryPull
  · contradiction

theorem narrows_notify {target : Option Nat}
    (notified : shared.notify caller target = some next) : Narrows shared next := by
  unfold notify at notified
  split at notified
  · obtain ⟨middle, first, rfl⟩ := Option.map_eq_some_iff.mp notified
    exact (narrows_notifyOneEntry first).trans (narrows_setCall rfl)
  · obtain ⟨middle, first, rfl⟩ := Option.map_eq_some_iff.mp notified
    exact (narrows_notifyOneRoom first).trans (narrows_setCall rfl)
  · cases notified
    exact narrows_notifyAllRoom.trans (narrows_setCall rfl)
  · cases notified
    exact narrows_notifyAllEntry.trans (narrows_setCall rfl)
  · contradiction

theorem narrows_report (reported : shared.report caller = some next) : Narrows shared next := by
  unfold report at reported
  split at reported
  · rename_i waited found
    cases reported
    cases waited <;> exact (narrows_of_calls rfl).trans (narrows_setCall rfl)
  · cases reported
    exact (narrows_of_calls rfl).trans (narrows_setCall rfl)
  · contradiction

theorem narrows_close : Narrows shared (shared.close caller) := by
  unfold close
  split
  · exact (narrows_of_calls rfl).trans (narrows_setCall rfl)
  · exact narrows_setCall rfl

theorem narrows_markDone : Narrows shared shared.markDone := by
  unfold markDone
  dsimp only
  split
  · exact (narrows_of_calls rfl).trans (narrows_notifyAllEntry.trans narrows_notifyAllRoom)
  · exact narrows_of_calls rfl

/-- Once all producers are done, no step lets an insert in. -/
theorem narrows_of_step {event : Event α} (finished : shared.queue.producersFinished = true)
    (stepped : shared.step event = some next) : Narrows shared next := by
  cases event with
  | enter caller => exact narrows_enter finished stepped
  | notify caller target => exact narrows_notify stepped
  | report caller => exact narrows_report stepped
  | markDone =>
    cases stepped
    exact narrows_markDone
  | close caller =>
    simp only [step] at stepped
    split at stepped
    · cases stepped
      exact narrows_close
    · contradiction
  | insert caller entry =>
    simp only [step] at stepped
    split at stepped
    · cases stepped
      apply (narrows_of_calls rfl).trans (narrows_setCall _)
      split <;> rfl
    · contradiction
  | measured caller | measuringPanicked caller | pull caller | leave caller =>
    simp only [step] at stepped
    split at stepped
    · cases stepped
      exact narrows_setCall rfl
    · contradiction

/-- Once all producers are done, an insert that adds its entry was let in before. -/
theorem admitted_of_pushed (finished : shared.queue.producersFinished = true)
    (entered : shared.enter caller = some next)
    (was : shared.outlines[caller]? = some (.inserting entry))
    (outlines : next.outlines = shared.outlines.set caller .inserted) :
    shared.admitted? caller = some entry := by
  obtain ⟨inside, -⟩ := List.getElem?_eq_some_iff.mp was
  have now : next.outlines[caller]? = some .inserted := by
    rw [outlines, List.getElem?_set_self inside]
  unfold enter at entered
  split at entered
  · cases entered
    obtain ⟨observed, -, same, refused⟩ := firstInsert_of_finished finished
    rw [refused, outlines_setCall, same, List.getElem?_set_self inside] at now
    simp [Call.outline] at now
  · rename_i found
    rw [outlines_getElem? found] at was
    cases was
    exact admitted_getElem? found
  · rename_i found
    rw [outlines_getElem? found] at was
    simp [Call.outline] at was
  · rename_i found
    rw [outlines_getElem? found] at was
    simp [Call.outline] at was
  · contradiction

end SharedQueue

/-! ### The end of a queue -/

namespace Queue

variable {queue next : Queue α}

/-- To be done for good is to have no producer left, no entry, and not to be closed. -/
theorem status_eq_done : queue.status = .done ↔
    queue.closed = false ∧ queue.producersFinished = true ∧ queue.buffer = [] := by
  unfold status
  cases queue.closed <;> cases queue.producersFinished <;> cases queue.buffer <;> simp

theorem status_eq_closed : queue.status = .closed ↔ queue.closed = true := by
  unfold status
  cases queue.closed <;> cases queue.producersFinished <;> cases queue.buffer <;> simp

theorem producersFinished_markDone (finished : queue.producersFinished = true) :
    queue.markDone.producersFinished = true := by
  unfold producersFinished at *
  rw [decide_eq_true_eq] at *
  dsimp only [markDone]
  omega

end Queue

namespace Watch

open SharedQueue

variable {origin : SharedQueue α} {watch next final : Watch α} {event : Event α}

theorem finished_of_moved (finished : watch.shared.queue.producersFinished = true)
    (moved : Moved watch event next) : next.shared.queue.producersFinished = true := by
  cases moved with
  | pushed caller entry enters was stillOpen contents outlines traffic =>
    rw [contents]
    exact finished
  | pulled caller entry stillOpen contents outlines traffic =>
    obtain ⟨rest, -, after⟩ := Queue.front_of_pop contents
    rw [after]
    exact finished
  | ended caller status found contents outlines traffic => rwa [contents]
  | closed caller closable contents outlines traffic =>
    rw [contents]
    exact finished
  | marked contents outlines traffic =>
    rw [contents]
    exact Queue.producersFinished_markDone finished
  | passed contents outlines traffic =>
    rw [contents]
    exact finished

/-- A closed queue stays closed. -/
theorem closed_of_moved (closed : watch.shared.queue.closed = true)
    (moved : Moved watch event next) : next.shared.queue.closed = true := by
  cases moved with
  | pushed caller entry enters was stillOpen contents outlines traffic =>
    rw [contents]
    exact closed
  | pulled caller entry stillOpen contents outlines traffic =>
    obtain ⟨rest, -, after⟩ := Queue.front_of_pop contents
    rw [after]
    exact closed
  | ended caller status found contents outlines traffic => rwa [contents]
  | closed caller closable contents outlines traffic =>
    rw [contents]
    rfl
  | marked contents outlines traffic =>
    rw [contents]
    exact closed
  | passed contents outlines traffic =>
    rw [contents]
    exact closed

/-- Only a push makes an insert one that has added its entry. -/
theorem inserted_of_moved {caller : Nat} (moved : Moved watch event next)
    (now : next.shared.outlines[caller]? = some .inserted) :
    watch.shared.outlines[caller]? = some .inserted ∨
      ∃ entry, (caller, entry) ∈ next.traffic.pushed := by
  have set : ∀ {who : Nat} {outline : Outline α}, outline ≠ .inserted →
      next.shared.outlines = watch.shared.outlines.set who outline →
      watch.shared.outlines[caller]? = some .inserted := by
    intro who outline different outlines
    rw [outlines] at now
    exact before_of_set different now
  cases moved with
  | pushed who entry enters was stillOpen contents outlines traffic =>
    by_cases same : who = caller
    · refine .inr ⟨entry, ?_⟩
      rw [traffic, same]
      exact List.mem_append_right _ (List.mem_singleton_self _)
    · rw [outlines, List.getElem?_set_ne same] at now
      exact .inl now
  | pulled who entry stillOpen contents outlines traffic => exact .inl (set (by simp) outlines)
  | ended who status found contents outlines traffic => exact .inl (set (by simp) outlines)
  | closed who closable contents outlines traffic => exact .inl (set (by simp) outlines)
  | marked contents outlines traffic =>
    rw [outlines] at now
    exact .inl now
  | passed contents outlines traffic =>
    rcases outlines with same | ⟨who, outline, different, outlines⟩
    · rw [same] at now
      exact .inl now
    · exact .inl (set different outlines)

/-- What has become of the inserts since all producers were done, in the state
`origin`. -/
structure Late (origin : SharedQueue α) (watch : Watch α) : Prop where
  finished : watch.shared.queue.producersFinished = true
  narrows : Narrows origin watch.shared
  pushed : ∀ caller entry, (caller, entry) ∈ watch.traffic.pushed →
    origin.admitted? caller = some entry ∧ watch.shared.admitted? caller = none
  once : (watch.traffic.pushed.map Prod.fst).Nodup
  inserted : ∀ caller, watch.shared.outlines[caller]? = some .inserted →
    origin.outlines[caller]? = some .inserted ∨
      ∃ entry, (caller, entry) ∈ watch.traffic.pushed

theorem late_begin (finished : origin.queue.producersFinished = true) :
    Late origin (begin origin) where
  finished := finished
  narrows := Narrows.refl origin
  pushed := by
    intro caller entry added
    contradiction
  once := List.nodup_nil
  inserted := fun _ was => .inl was

theorem Late.step (late : Late origin watch) (stepped : watch.step event = some next) :
    Late origin next := by
  obtain ⟨onQueue, -⟩ := shared_of_step stepped
  have moved := moved_of_step stepped
  have narrows : Narrows watch.shared next.shared := narrows_of_step late.finished onQueue
  have unpushed : next.traffic.pushed = watch.traffic.pushed → Late origin next := by
    intro same
    refine ⟨finished_of_moved late.finished moved, late.narrows.trans narrows, ?_, ?_, ?_⟩
    · intro caller entry added
      rw [same] at added
      obtain ⟨before, after⟩ := late.pushed caller entry added
      exact ⟨before, narrows.outside after⟩
    · rw [same]
      exact late.once
    · intro caller now
      rcases inserted_of_moved moved now with was | added
      · rw [same]
        exact late.inserted caller was
      · exact .inr added
  cases moved with
  | pushed caller entry enters was stillOpen contents outlines traffic =>
    subst enters
    have admitted : watch.shared.admitted? caller = some entry :=
      admitted_of_pushed late.finished onQueue was outlines
    have gone : next.shared.admitted? caller = none := by
      obtain ⟨inside, -⟩ := List.getElem?_eq_some_iff.mp was
      have inserted : next.shared.outlines[caller]? = some .inserted := by
        rw [outlines, List.getElem?_set_self inside]
      exact not_admitted_of_outline inserted (by simp)
    have pushed : next.traffic.pushed = watch.traffic.pushed ++ [(caller, entry)] := by
      rw [traffic]
    refine ⟨finished_of_moved late.finished (moved_of_step stepped),
      late.narrows.trans narrows, ?_, ?_, ?_⟩
    · intro who value added
      rw [pushed] at added
      rcases List.mem_append.mp added with before | new
      · obtain ⟨first, after⟩ := late.pushed who value before
        exact ⟨first, narrows.outside after⟩
      · cases List.mem_singleton.mp new
        exact ⟨late.narrows caller entry admitted, gone⟩
    · rw [pushed, List.map_append, List.nodup_append]
      refine ⟨late.once, by simp, ?_⟩
      intro who added last final same
      rw [List.map_singleton, List.mem_singleton] at final
      obtain ⟨⟨position, value⟩, before, rfl⟩ := List.mem_map.mp added
      have after := (late.pushed position value before).2
      rw [show position = caller from same.trans final, admitted] at after
      contradiction
    · intro who now
      rcases inserted_of_moved (moved_of_step stepped) now with was | added
      · rcases late.inserted who was with first | ⟨value, added⟩
        · exact .inl first
        · exact .inr ⟨value, by rw [pushed]; exact List.mem_append_left _ added⟩
      · exact .inr added
  | pulled caller entry stillOpen contents outlines traffic => exact unpushed (by rw [traffic])
  | ended caller status found contents outlines traffic => exact unpushed (by rw [traffic])
  | closed caller closable contents outlines traffic => exact unpushed (by rw [traffic])
  | marked contents outlines traffic => exact unpushed (by rw [traffic])
  | passed contents outlines traffic => exact unpushed (by rw [traffic])

theorem late_of_run {events : List (Event α)} (late : Late origin watch)
    (ran : watch.run events = some final) : Late origin final :=
  keep_of_run (fun _ _ _ late stepped => late.step stepped) late ran

/-! ### Nobody was let in -/

/-- No insert had been let in that had not found room. -/
def Settled (origin : SharedQueue α) : Prop := ∀ caller, origin.admitted? caller = none

theorem Late.nothing_pushed (late : Late origin watch) (settled : Settled origin) :
    watch.traffic.pushed = [] := by
  apply List.eq_nil_iff_forall_not_mem.mpr
  rintro ⟨caller, entry⟩ added
  have admitted := (late.pushed caller entry added).1
  rw [settled caller] at admitted
  contradiction

/-- A queue that has run dry is left as it is: nothing enters, so there is nothing to
take. -/
theorem done_of_step (late : Late origin next) (settled : Settled origin)
    (done : watch.shared.queue.status = .done) (stepped : watch.step event = some next) :
    next.shared.queue.status = .done ∧ next.traffic.pulled = watch.traffic.pulled := by
  obtain ⟨stillOpen, finished, empty⟩ := Queue.status_eq_done.mp done
  have moved := moved_of_step stepped
  have finishedNext := finished_of_moved finished moved
  cases moved with
  | pushed caller entry enters was stillOpen contents outlines traffic =>
    have nothing := late.nothing_pushed settled
    rw [traffic] at nothing
    simp at nothing
  | pulled caller entry stillOpen contents outlines traffic =>
    obtain ⟨rest, front, -⟩ := Queue.front_of_pop contents
    rw [empty] at front
    contradiction
  | ended caller status found contents outlines traffic =>
    rw [contents, traffic]
    exact ⟨done, rfl⟩
  | closed caller closable contents outlines traffic =>
    rw [Queue.isClosable, done] at closable
    contradiction
  | marked contents outlines traffic =>
    refine ⟨Queue.status_eq_done.mpr ⟨?_, finishedNext, ?_⟩, by rw [traffic]⟩
    · rw [contents]
      exact stillOpen
    · rw [contents]
      exact empty
  | passed contents outlines traffic =>
    refine ⟨Queue.status_eq_done.mpr ⟨?_, finishedNext, ?_⟩, by rw [traffic]⟩
    · rw [contents]
      exact stillOpen
    · rw [contents]
      exact empty

theorem done_of_run {events : List (Event α)} (late : Late origin watch)
    (settled : Settled origin) (done : watch.shared.queue.status = .done)
    (ran : watch.run events = some final) :
    final.shared.queue.status = .done ∧ final.traffic.pulled = watch.traffic.pulled := by
  induction events generalizing watch with
  | nil =>
    cases ran
    exact ⟨done, rfl⟩
  | cons event rest ih =>
    obtain ⟨middle, stepped, ran⟩ := Option.bind_eq_some_iff.mp ran
    have lateNext := late.step stepped
    obtain ⟨still, same⟩ := done_of_step lateNext settled done stepped
    rw [← same]
    exact ih lateNext still ran

/-- A pull that ended because the queue had run dry has left it so. -/
theorem done_of_ended {events : List (Event α)} {caller : Nat}
    (finished : origin.queue.producersFinished = true) (settled : Settled origin)
    (ran : (begin origin).run events = some final)
    (ended : (caller, .done) ∈ final.traffic.ended) :
    final.shared.queue.status = .done := by
  have keeps : ∀ watch event next,
      (Late origin watch ∧ ((caller, .done) ∈ watch.traffic.ended →
        watch.shared.queue.status = .done)) → Watch.step watch event = some next →
      Late origin next ∧ ((caller, .done) ∈ next.traffic.ended →
        next.shared.queue.status = .done) := by
    rintro watch event next ⟨late, done⟩ stepped
    have lateNext := late.step stepped
    refine ⟨lateNext, fun found => ?_⟩
    have before : (caller, .done) ∈ watch.traffic.ended → next.shared.queue.status = .done :=
      fun was => (done_of_step lateNext settled (done was) stepped).1
    cases moved_of_step stepped with
    | ended who status was contents outlines traffic =>
      rw [traffic] at found
      rcases List.mem_append.mp found with old | new
      · exact before old
      · cases List.mem_singleton.mp new
        rwa [contents]
    | pushed who entry enters was stillOpen contents outlines traffic =>
      exact before (by rwa [traffic] at found)
    | pulled who entry stillOpen contents outlines traffic =>
      exact before (by rwa [traffic] at found)
    | closed who closable contents outlines traffic => exact before (by rwa [traffic] at found)
    | marked contents outlines traffic => exact before (by rwa [traffic] at found)
    | passed contents outlines traffic => exact before (by rwa [traffic] at found)
  exact (keep_of_run keeps ⟨late_begin finished, by simp [begin]⟩ ran).2 ended

/-- Once all producers are done, only inserts that had been let in before add an entry,
each at most once, every other insert is refused, no producer comes back, and a closed queue
stays closed.  If there are no such inserts, nothing enters any more, a queue that has run
dry stays so, and after a pull has found it dry no entry is added or handed out. -/
theorem only_admitted_enter {events later : List (Event α)} {watched : Watch α}
    (finished : origin.queue.producersFinished = true)
    (ran : (begin origin).run events = some watched) (goesOn : watched.run later = some final) :
    (∀ caller entry, (caller, entry) ∈ final.traffic.pushed →
        origin.admitted? caller = some entry) ∧
      (final.traffic.pushed.map Prod.fst).Nodup ∧
      (∀ caller, final.shared.outlines[caller]? = some .inserted →
        origin.outlines[caller]? = some .inserted ∨
          ∃ entry, (caller, entry) ∈ final.traffic.pushed) ∧
      final.shared.queue.status ≠ .accepting ∧
      (watched.shared.queue.status = .closed → final.shared.queue.status = .closed) ∧
      (Settled origin →
        final.traffic.pushed = [] ∧
        (watched.shared.queue.status = .done → final.shared.queue.status = .done) ∧
        ∀ caller, (caller, .done) ∈ watched.traffic.ended →
          final.shared.queue.status = .done ∧
            final.traffic.pulled = watched.traffic.pulled) := by
  have lateWatched : Late origin watched := late_of_run (late_begin finished) ran
  have late : Late origin final := late_of_run lateWatched goesOn
  refine ⟨?_, late.once, late.inserted, ?_, ?_, ?_⟩
  · intro caller entry added
    exact (late.pushed caller entry added).1
  · unfold Queue.status
    rw [late.finished]
    cases final.shared.queue.closed <;> cases final.shared.queue.buffer <;> simp
  · intro shut
    have closed : final.shared.queue.closed = true :=
      keep_of_run (fun _ _ _ closed stepped => closed_of_moved closed (moved_of_step stepped))
        (Queue.status_eq_closed.mp shut) goesOn
    exact Queue.status_eq_closed.mpr closed
  · intro settled
    refine ⟨late.nothing_pushed settled, ?_, ?_⟩
    · intro done
      exact (done_of_run lateWatched settled done goesOn).1
    · intro caller ended
      exact done_of_run lateWatched settled (done_of_ended finished settled ran ended) goesOn

/-- An entry is added, and then the only producer is done. -/
def filling : List (Event Nat) :=
  [.insert 0 1, .measured 0 10, .enter 0, .notify 0 none, .report 0, .leave 0, .markDone]

/-- The entry is taken, an insert that comes now is refused, and a pull finds the end. -/
def drying : List (Event Nat) :=
  [.pull 0, .enter 0, .insert 1 2, .measured 1 10, .enter 1, .notify 0 none, .report 0, .leave 0,
    .pull 0, .enter 0, .leave 1]

/-- Another insert is refused, another pull finds the end. -/
def knocking : List (Event Nat) :=
  [.insert 1 3, .measured 1 10, .enter 1, .leave 0, .pull 0, .enter 0]

/-- Two inserts and two pulls after the last producer, and nothing has entered. -/
theorem only_admitted_enter_inhabited :
    ∃ (origin : SharedQueue Nat) (watched final : Watch Nat),
      (start { writeBufferLimitBytes := 10 } 1 2).run filling = some origin ∧
        origin.queue.producersFinished = true ∧ (begin origin).run drying = some watched ∧
        watched.run knocking = some final ∧ Settled origin ∧
        (0, .done) ∈ watched.traffic.ended ∧
        final.traffic.pushed = [] ∧ final.shared.queue.status = .done ∧
        final.traffic.pulled = watched.traffic.pulled := by
  have runs : ((start { writeBufferLimitBytes := 10 } 1 2).run filling).bind (fun origin =>
      ((begin origin).run drying).bind fun watched => (watched.run knocking).map fun _ =>
        origin.queue.producersFinished && origin.calls.all (·.admitted?.isNone) &&
          watched.traffic.ended.contains (0, .done)) = some true := by
    decide +kernel
  obtain ⟨origin, filled, runs⟩ := Option.bind_eq_some_iff.mp runs
  obtain ⟨watched, dried, runs⟩ := Option.bind_eq_some_iff.mp runs
  obtain ⟨final, knocked, holds⟩ := Option.map_eq_some_iff.mp runs
  rw [Bool.and_eq_true, Bool.and_eq_true] at holds
  obtain ⟨⟨finished, outside⟩, found⟩ := holds
  have settled : Settled origin := by
    intro caller
    rw [admitted?, Option.bind_eq_none_iff]
    intro call here
    have out := List.all_eq_true.mp outside call (List.mem_of_getElem? here)
    exact Option.isNone_iff_eq_none.mp out
  have ended : (0, .done) ∈ watched.traffic.ended := List.contains_iff_mem.mp found
  obtain ⟨-, -, -, -, -, nobody⟩ := only_admitted_enter finished dried knocked
  obtain ⟨pushed, -, dry⟩ := nobody settled
  obtain ⟨done, pulled⟩ := dry 0 ended
  exact ⟨origin, watched, final, filled, finished, dried, knocked, settled, ended, pushed, done,
    pulled⟩

/-- An entry is added, a second insert finds no room, and then the only producer is
done. -/
def crowding : List (Event Nat) :=
  [.insert 0 1, .measured 0 10, .enter 0, .notify 0 none, .report 0, .leave 0,
    .insert 1 2, .measured 1 10, .enter 1, .markDone]

/-- The entry is taken, and a pull finds the end. -/
def overtaking : List (Event Nat) :=
  [.pull 2, .enter 2, .notify 2 none, .report 2, .leave 2, .pull 0, .enter 0]

/-- The second insert gets the lock at last. -/
def slipping : List (Event Nat) := [.enter 1, .notify 1 none, .report 1]

/-- One more pull. -/
def emptying : List (Event Nat) := [.pull 2, .enter 2]

/-- An insert that waits for room when the last producer is done adds its entry to a queue
that has run dry, which then is not done any more, and the entry is handed out after a pull
has found the end. -/
theorem enters_when_done :
    ∃ (marked : SharedQueue Nat) (dry reopened final : Watch Nat),
      (start { writeBufferLimitBytes := 10 } 1 3).run crowding = some marked ∧
        marked.queue.producersFinished = true ∧ (begin marked).run overtaking = some dry ∧
        dry.shared.queue.status = .done ∧ (0, .done) ∈ dry.traffic.ended ∧
        dry.run slipping = some reopened ∧ reopened.shared.queue.status = .draining ∧
        reopened.shared.reply? 1 = some .inserted ∧ reopened.traffic.pushed = [(1, 2)] ∧
        reopened.run emptying = some final ∧ (2, 2) ∈ final.traffic.pulled := by
  have runs : ((start { writeBufferLimitBytes := 10 } 1 3).run crowding).bind (fun marked =>
      ((begin marked).run overtaking).bind fun dry => (dry.run slipping).bind fun reopened =>
        (reopened.run emptying).map fun final =>
          decide (marked.queue.producersFinished = true ∧ dry.shared.queue.status = .done ∧
            (0, .done) ∈ dry.traffic.ended ∧ reopened.shared.queue.status = .draining ∧
            reopened.shared.reply? 1 = some .inserted ∧ reopened.traffic.pushed = [(1, 2)] ∧
            (2, 2) ∈ final.traffic.pulled)) = some true := by
    decide +kernel
  obtain ⟨marked, crowded, runs⟩ := Option.bind_eq_some_iff.mp runs
  obtain ⟨dry, overtook, runs⟩ := Option.bind_eq_some_iff.mp runs
  obtain ⟨reopened, slipped, runs⟩ := Option.bind_eq_some_iff.mp runs
  obtain ⟨final, emptied, holds⟩ := Option.map_eq_some_iff.mp runs
  obtain ⟨finished, done, ended, draining, replied, pushed, pulled⟩ := of_decide_eq_true holds
  exact ⟨marked, dry, reopened, final, crowded, finished, overtook, done, ended, slipped, draining,
    replied, pushed, emptied, pulled⟩

end Watch

end BoundedIngest

/-
Module: BoundedIngest.Proofs.Queue.Turns
Purpose: A call on a queue has its turn once: what it adds, what it takes, and what it
  returns with.
Main exports:
  Traffic.pushedBy, Traffic.pulledBy, SharedQueue.Event.endsCall, Turned,
  Watch.Passage, Watch.passage_of_step, Watch.InProgress, Watch.push_in_progress,
  Watch.take_in_progress, Watch.reply_of_insert, Watch.reply_of_pull
-/
import Mathlib.Data.List.Induction
import BoundedIngest.Proofs.Queue.Traffic

namespace BoundedIngest

/-!
Between its beginning and its return a call may take the lock many times, but only once
does it do what it came for.  From then on it stands on the far side of its turn until its
thread takes the reply.  So the traffic in its name while it lasts is one entry, or none,
and the reply tells which.
-/

variable {α : Type}

namespace Traffic

/-- What a caller has added, oldest first. -/
def pushedBy (traffic : Traffic α) (caller : Nat) : List α :=
  (traffic.pushed.filter (·.1 == caller)).map Prod.snd

/-- What a caller has taken, oldest first. -/
def pulledBy (traffic : Traffic α) (caller : Nat) : List α :=
  (traffic.pulled.filter (·.1 == caller)).map Prod.snd

theorem named_own (caller : Nat) (entries : List α) :
    ((entries.map (Prod.mk caller)).filter (·.1 == caller)).map Prod.snd = entries := by
  induction entries with
  | nil => rfl
  | cons entry rest ih => simp [ih]

variable {before after : Traffic α} {caller other : Nat}

theorem pushedBy_own {entries : List α}
    (grown : after.pushed = before.pushed ++ entries.map (Prod.mk caller)) :
    after.pushedBy caller = before.pushedBy caller ++ entries := by
  rw [pushedBy, pushedBy, grown, List.filter_append, List.map_append, named_own]

theorem pulledBy_own {entries : List α}
    (grown : after.pulled = before.pulled ++ entries.map (Prod.mk caller)) :
    after.pulledBy caller = before.pulledBy caller ++ entries := by
  rw [pulledBy, pulledBy, grown, List.filter_append, List.map_append, named_own]

/-- What one caller does is not noted under the name of another. -/
theorem noted_of_other (apart : other ≠ caller) (was now : Option (Outline α)) :
    (before.note other was now).pushedBy caller = before.pushedBy caller ∧
      (before.note other was now).pulledBy caller = before.pulledBy caller := by
  unfold note
  split <;> simp [pushedBy, pulledBy, apart]

end Traffic

namespace SharedQueue.Event

/-- The call of this caller is over: its thread takes the reply, or a panic leaves it. -/
def endsCall (caller : Nat) : Event α → Bool
  | .leave other | .measuringPanicked other => other == caller
  | _ => false

end SharedQueue.Event

/-- What a call adds and takes in its turn. -/
inductive Turned : Outline α → Outline α → List α → List α → Prop
  | added (entry : α) : Turned (.inserting entry) .inserted [entry] []
  | refused (entry : α) : Turned (.inserting entry) .refused [] []
  | took (entry : α) : Turned .pulling (.holding entry) [] [entry]
  | ended (status : QueueStatus) : Turned .pulling (.ended status) [] []

/-- Whoever has had its turn has no further one. -/
theorem Turned.last {first second third : Outline α} {added taken more others : List α}
    (turned : Turned first second added taken) : ¬Turned second third more others := by
  intro again
  cases turned <;> cases again

theorem Turned.busy {first second : Outline α} {added taken : List α}
    (turned : Turned first second added taken) : first ≠ .idle ∧ second ≠ .idle := by
  cases turned <;> simp

/-- What a call begins with. -/
inductive Begun (caller : Nat) : SharedQueue.Event α → Outline α → Prop
  | insert (entry : α) : Begun caller (.insert caller entry) (.inserting entry)
  | pull : Begun caller (.pull caller) .pulling
  | close : Begun caller (.close caller) .closing

namespace Watch

open SharedQueue

variable {watch next final : Watch α} {event : Event α} {caller : Nat}

/-! ### What a step is to one caller -/

/-- A step of a queue, as it is seen by one caller. -/
inductive Passage (watch : Watch α) (event : Event α) (next : Watch α) (caller : Nat) : Prop
  /-- The caller is where it was. -/
  | stays (goesOn : event.endsCall caller = false)
      (outline : next.shared.outlines[caller]? = watch.shared.outlines[caller]?)
      (pushed : next.traffic.pushedBy caller = watch.traffic.pushedBy caller)
      (pulled : next.traffic.pulledBy caller = watch.traffic.pulledBy caller)
  /-- The caller begins a call. -/
  | begins (outline : Outline α) (begun : Begun caller event outline)
      (was : watch.shared.outlines[caller]? = some .idle)
      (now : next.shared.outlines[caller]? = some outline)
      (pushed : next.traffic.pushed = watch.traffic.pushed)
      (pulled : next.traffic.pulled = watch.traffic.pulled)
  /-- The caller has its turn. -/
  | turns (old new : Outline α) (added taken : List α) (enters : event = .enter caller)
      (was : watch.shared.outlines[caller]? = some old)
      (now : next.shared.outlines[caller]? = some new) (turned : Turned old new added taken)
      (pushed : next.traffic.pushed = watch.traffic.pushed ++ added.map (Prod.mk caller))
      (pulled : next.traffic.pulled = watch.traffic.pulled ++ taken.map (Prod.mk caller))
  /-- The call of the caller is over. -/
  | leaves (ends : event.endsCall caller = true)
      (now : next.shared.outlines[caller]? = some .idle)
      (pushed : next.traffic.pushed = watch.traffic.pushed)
      (pulled : next.traffic.pulled = watch.traffic.pulled)

theorem passage_of_same (goesOn : event.endsCall caller = false)
    (outlines : next.shared.outlines = watch.shared.outlines)
    (traffic : next.traffic = watch.traffic) : Passage watch event next caller :=
  .stays goesOn (by rw [outlines]) (by rw [traffic]) (by rw [traffic])

/-- A step of another call, which is noted under the name of that one, if at all. -/
theorem passage_of_other {other : Nat} {outline : Outline α} (apart : other ≠ caller)
    (goesOn : event.endsCall caller = false)
    (outlines : next.shared.outlines = watch.shared.outlines.set other outline)
    (pushed : next.traffic.pushedBy caller = watch.traffic.pushedBy caller)
    (pulled : next.traffic.pulledBy caller = watch.traffic.pulledBy caller) :
    Passage watch event next caller :=
  .stays goesOn (by rw [outlines, List.getElem?_set_ne apart]) pushed pulled

/-- A call begins on an idle slot, and nothing is noted yet. -/
theorem begun_of_step {outline : Outline α} (begun : Begun caller event outline)
    (stepped : watch.step event = some next) :
    watch.shared.outlines[caller]? = some .idle ∧
      next.shared.outlines = watch.shared.outlines.set caller outline ∧
      next.traffic.pushed = watch.traffic.pushed ∧
      next.traffic.pulled = watch.traffic.pulled := by
  obtain ⟨moved, traffic⟩ := shared_of_step stepped
  cases begun with
  | insert entry =>
    obtain ⟨was, -, outlines⟩ := insert_outline moved
    exact ⟨was, outlines, by rw [traffic]; rfl, by rw [traffic]; rfl⟩
  | pull =>
    obtain ⟨was, -, outlines⟩ := pull_outline moved
    exact ⟨was, outlines, by rw [traffic]; rfl, by rw [traffic]; rfl⟩
  | close =>
    obtain ⟨was, -, outlines⟩ := close_outline moved
    refine ⟨was, outlines, ?_⟩
    rw [traffic, Traffic.extend]
    split <;> exact ⟨rfl, rfl⟩

/-- A call begins, of this caller or of another one. -/
theorem passage_of_begun {other : Nat} {outline : Outline α} (begun : Begun other event outline)
    (stepped : watch.step event = some next) : Passage watch event next caller := by
  obtain ⟨was, outlines, pushed, pulled⟩ := begun_of_step begun stepped
  by_cases same : other = caller
  · subst same
    obtain ⟨inside, -⟩ := List.getElem?_eq_some_iff.mp was
    exact .begins outline begun was (by rw [outlines, List.getElem?_set_self inside]) pushed pulled
  · have goesOn : event.endsCall caller = false := by cases begun <;> rfl
    exact passage_of_other same goesOn outlines (by rw [Traffic.pushedBy, pushed, Traffic.pushedBy])
      (by rw [Traffic.pulledBy, pulled, Traffic.pulledBy])

/-- A call is over, of this caller or of another one. -/
theorem passage_of_left {other : Nat} {old : Outline α}
    (ends : ∀ who, event.endsCall who = (other == who))
    (was : watch.shared.outlines[other]? = some old)
    (outlines : next.shared.outlines = watch.shared.outlines.set other .idle)
    (traffic : next.traffic = watch.traffic) : Passage watch event next caller := by
  by_cases same : other = caller
  · subst same
    obtain ⟨inside, -⟩ := List.getElem?_eq_some_iff.mp was
    exact .leaves (by simp [ends]) (by rw [outlines, List.getElem?_set_self inside])
      (by rw [traffic]) (by rw [traffic])
  · exact passage_of_other same (by simp [ends, same]) outlines (by rw [traffic]) (by rw [traffic])

/-- The caller itself takes the lock. -/
theorem passage_of_own_enter (entered : watch.shared.enter caller = some next.shared)
    (traffic : next.traffic = watch.traffic.note caller watch.shared.outlines[caller]?
      next.shared.outlines[caller]?) : Passage watch (.enter caller) next caller := by
  have unnoted : next.shared.outlines = watch.shared.outlines →
      Passage watch (.enter caller) next caller := by
    intro same
    refine passage_of_same rfl same ?_
    rw [traffic, same]
    exact Traffic.note_same _ _ _
  have turns : ∀ {old new : Outline α}, watch.shared.outlines[caller]? = some old →
      next.shared.outlines = watch.shared.outlines.set caller new →
      next.shared.outlines[caller]? = some new ∧
        next.traffic = watch.traffic.note caller (some old) (some new) := by
    intro old new found outlines
    obtain ⟨inside, -⟩ := List.getElem?_eq_some_iff.mp found
    have now : next.shared.outlines[caller]? = some new := by
      rw [outlines, List.getElem?_set_self inside]
    exact ⟨now, by rw [traffic, found, now]⟩
  cases entered_of_enter entered with
  | delayed contents outlines => exact unnoted outlines
  | starved contents outlines => exact unnoted outlines
  | refused entry was reason contents outlines =>
    obtain ⟨now, noted⟩ := turns was outlines
    exact .turns _ _ _ _ rfl was now (.refused entry) (by simp [noted, Traffic.note])
      (by simp [noted, Traffic.note])
  | pushed entry was stillOpen contents outlines =>
    obtain ⟨now, noted⟩ := turns was outlines
    exact .turns _ _ _ _ rfl was now (.added entry) (by simp [noted, Traffic.note])
      (by simp [noted, Traffic.note])
  | taken entry was stillOpen contents outlines =>
    obtain ⟨now, noted⟩ := turns was outlines
    exact .turns _ _ _ _ rfl was now (.took entry) (by simp [noted, Traffic.note])
      (by simp [noted, Traffic.note])
  | endedClosed was reason contents outlines =>
    obtain ⟨now, noted⟩ := turns was outlines
    exact .turns _ _ _ _ rfl was now (.ended .closed) (by simp [noted, Traffic.note])
      (by simp [noted, Traffic.note])
  | endedDone was reason contents outlines =>
    obtain ⟨now, noted⟩ := turns was outlines
    exact .turns _ _ _ _ rfl was now (.ended .done) (by simp [noted, Traffic.note])
      (by simp [noted, Traffic.note])

/-- Another call takes the lock. -/
theorem passage_of_other_enter {other : Nat} (apart : other ≠ caller)
    (entered : watch.shared.enter other = some next.shared)
    (traffic : next.traffic = watch.traffic.note other watch.shared.outlines[other]?
      next.shared.outlines[other]?) : Passage watch (.enter other) next caller := by
  have unnamed : (watch.traffic.note other watch.shared.outlines[other]?
        next.shared.outlines[other]?).pushedBy caller = watch.traffic.pushedBy caller ∧
      (watch.traffic.note other watch.shared.outlines[other]?
        next.shared.outlines[other]?).pulledBy caller = watch.traffic.pulledBy caller :=
    Traffic.noted_of_other apart _ _
  rw [← traffic] at unnamed
  obtain ⟨pushed, pulled⟩ := unnamed
  cases entered_of_enter entered with
  | delayed contents outlines => exact .stays rfl (by rw [outlines]) pushed pulled
  | starved contents outlines => exact .stays rfl (by rw [outlines]) pushed pulled
  | refused entry was reason contents outlines =>
    exact passage_of_other apart rfl outlines pushed pulled
  | pushed entry was stillOpen contents outlines =>
    exact passage_of_other apart rfl outlines pushed pulled
  | taken entry was stillOpen contents outlines =>
    exact passage_of_other apart rfl outlines pushed pulled
  | endedClosed was reason contents outlines =>
    exact passage_of_other apart rfl outlines pushed pulled
  | endedDone was reason contents outlines =>
    exact passage_of_other apart rfl outlines pushed pulled

/-- Every step is one of these to every caller. -/
theorem passage_of_step (caller : Nat) (stepped : watch.step event = some next) :
    Passage watch event next caller := by
  obtain ⟨moved, traffic⟩ := shared_of_step stepped
  cases event with
  | insert other entry => exact passage_of_begun (.insert entry) stepped
  | measured other size => exact passage_of_same rfl (measured_outline moved).2 traffic
  | measuringPanicked other =>
    obtain ⟨⟨entry, was⟩, -, outlines⟩ := measuringPanicked_outline moved
    exact passage_of_left (fun _ => rfl) was outlines traffic
  | pull other => exact passage_of_begun .pull stepped
  | enter other =>
    by_cases same : other = caller
    · subst same
      exact passage_of_own_enter moved traffic
    · exact passage_of_other_enter same moved traffic
  | notify other target => exact passage_of_same rfl (notify_outline moved).2 traffic
  | report other => exact passage_of_same rfl (report_outline moved).2 traffic
  | close other => exact passage_of_begun .close stepped
  | markDone => exact passage_of_same rfl (markDone_outline moved).2 traffic
  | leave other =>
    obtain ⟨reply, replied⟩ := reply_of_leave moved
    obtain ⟨was, -, outlines⟩ := leave_outline replied moved
    exact passage_of_left (fun _ => rfl) was outlines traffic

/-! ### A call, from its beginning on -/

/-- A call that began with the given outline, and what it has added and taken since. -/
structure Underway (begun : Outline α) (caller : Nat) (before now : Watch α) : Prop where
  account : ∃ outline added taken, now.shared.outlines[caller]? = some outline ∧
    (Turned begun outline added taken ∨ outline = begun ∧ added = [] ∧ taken = []) ∧
    now.traffic.pushedBy caller = before.traffic.pushedBy caller ++ added ∧
    now.traffic.pulledBy caller = before.traffic.pulledBy caller ++ taken

/-- A call that has begun is in its place, and has neither added nor taken anything. -/
theorem underway_of_begun {outline : Outline α} (begun : Begun caller event outline)
    (stepped : watch.step event = some next) : Underway outline caller watch next := by
  obtain ⟨was, outlines, pushed, pulled⟩ := begun_of_step begun stepped
  obtain ⟨inside, -⟩ := List.getElem?_eq_some_iff.mp was
  refine ⟨outline, [], [], ?_, .inr ⟨rfl, rfl, rfl⟩, ?_, ?_⟩
  · rw [outlines, List.getElem?_set_self inside]
  · rw [Traffic.pushedBy, pushed, List.append_nil, Traffic.pushedBy]
  · rw [Traffic.pulledBy, pulled, List.append_nil, Traffic.pulledBy]

namespace Underway

variable {begun : Outline α} {before now : Watch α}

/-- Until the call is over, no step takes it further than through its turn. -/
theorem step (underway : Underway begun caller before watch) (busy : begun ≠ .idle)
    (goesOn : event.endsCall caller = false) (stepped : watch.step event = some next) :
    Underway begun caller before next := by
  obtain ⟨outline, added, taken, here, account, pushed, pulled⟩ := underway.account
  cases passage_of_step caller stepped with
  | stays _ same pushedSame pulledSame =>
    exact ⟨outline, added, taken, by rw [same, here], account, by rw [pushedSame, pushed],
      by rw [pulledSame, pulled]⟩
  | begins other begins was =>
    rw [here] at was
    cases was
    rcases account with turned | ⟨idle, -, -⟩
    · exact absurd rfl turned.busy.2
    · exact absurd idle.symm busy
  | turns old new more others enters was now turned pushedMore pulledMore =>
    rw [here] at was
    cases was
    rcases account with already | ⟨rfl, rfl, rfl⟩
    · exact absurd turned already.last
    · refine ⟨new, more, others, now, .inl turned, ?_, ?_⟩
      · rw [Traffic.pushedBy_own pushedMore, pushed, List.append_nil]
      · rw [Traffic.pulledBy_own pulledMore, pulled, List.append_nil]
  | leaves ends now pushedSame pulledSame =>
    rw [goesOn] at ends
    contradiction

theorem run {span : List (Event α)} (underway : Underway begun caller before watch)
    (busy : begun ≠ .idle) (goesOn : ∀ event ∈ span, event.endsCall caller = false)
    (ran : watch.run span = some final) : Underway begun caller before final := by
  induction span generalizing watch with
  | nil =>
    cases ran
    exact underway
  | cons event rest ih =>
    obtain ⟨middle, stepped, ran⟩ := Option.bind_eq_some_iff.mp ran
    have moved := underway.step busy (goesOn event List.mem_cons_self) stepped
    exact ih moved (fun event later => goesOn event (List.mem_cons_of_mem _ later)) ran

end Underway

/-! ### Which call a turn belongs to -/

theorem run_append (watch : Watch α) (first later : List (Event α)) :
    watch.run (first ++ later) = (watch.run first).bind (·.run later) := by
  induction first generalizing watch with
  | nil => rfl
  | cons event rest ih =>
    rw [List.cons_append, run, run]
    cases watch.step event with
    | none => rfl
    | some middle => exact ih middle

/-- The last step of a run. -/
theorem run_concat {events : List (Event α)} (ran : watch.run (events ++ [event]) = some final) :
    ∃ middle, watch.run events = some middle ∧ middle.step event = some final := by
  rw [run_append] at ran
  obtain ⟨middle, first, last⟩ := Option.bind_eq_some_iff.mp ran
  obtain ⟨after, stepped, done⟩ := Option.bind_eq_some_iff.mp last
  cases done
  exact ⟨middle, first, stepped⟩

/-- The caller has begun a call with this step, and the call is not over. -/
def InProgress (caller : Nat) (opening : Event α) (events : List (Event α)) : Prop :=
  ∃ earlier span, events = earlier ++ opening :: span ∧
    ∀ event ∈ span, event.endsCall caller = false

/-- A call that has its turn ahead has begun, and is not over. -/
theorem inProgress_of_run {origin : SharedQueue α} {events : List (Event α)}
    {begun new : Outline α} {added taken : List α} (idle : ∀ call ∈ origin.calls, call = .idle)
    (ran : (begin origin).run events = some final) (ahead : Turned begun new added taken)
    (here : final.shared.outlines[caller]? = some begun) :
    ∃ opening, Begun caller opening begun ∧ InProgress caller opening events := by
  induction events using List.reverseRecOn generalizing final with
  | nil =>
    cases ran
    obtain ⟨call, present, stage⟩ := List.mem_map.mp (List.mem_of_getElem? here)
    rw [idle call present] at stage
    exact absurd stage.symm ahead.busy.1
  | append_singleton events event ih =>
    obtain ⟨middle, ranFirst, stepped⟩ := run_concat ran
    cases passage_of_step caller stepped with
    | stays goesOn same pushed pulled =>
      rw [same] at here
      obtain ⟨opening, begins, earlier, span, rfl, lasts⟩ := ih ranFirst here
      refine ⟨opening, begins, earlier, span ++ [event], by simp, ?_⟩
      intro other present
      rcases List.mem_append.mp present with before | last
      · exact lasts other before
      · rwa [List.mem_singleton.mp last]
    | begins outline begins was now pushed pulled =>
      rw [here] at now
      cases now
      exact ⟨event, begins, events, [], rfl, fun _ none => absurd none List.not_mem_nil⟩
    | turns old other more others enters was now turned pushed pulled =>
      rw [here] at now
      cases now
      exact absurd ahead turned.last
    | leaves ends now pushed pulled =>
      rw [here] at now
      cases now
      exact absurd rfl ahead.busy.1

/-- Entries come and go only when a call has its turn. -/
theorem turn_of_change (stepped : watch.step event = some next)
    (changed : next.traffic.pushed ≠ watch.traffic.pushed ∨
      next.traffic.pulled ≠ watch.traffic.pulled) :
    ∃ caller old new added taken, watch.shared.outlines[caller]? = some old ∧
      Turned old new added taken ∧
      next.traffic.pushed = watch.traffic.pushed ++ added.map (Prod.mk caller) ∧
      next.traffic.pulled = watch.traffic.pulled ++ taken.map (Prod.mk caller) := by
  have unchanged : next.traffic.pushed = watch.traffic.pushed →
      next.traffic.pulled = watch.traffic.pulled → False := by
    intro pushed pulled
    rcases changed with differs | differs
    · exact differs pushed
    · exact differs pulled
  obtain ⟨-, traffic⟩ := shared_of_step stepped
  cases event with
  | enter caller =>
    cases passage_of_step caller stepped with
    | stays goesOn same pushed pulled =>
      rw [Traffic.extend, same, Traffic.note_same] at traffic
      exact (unchanged (by rw [traffic]) (by rw [traffic])).elim
    | begins outline begun => cases begun
    | turns old new added taken enters was now turned pushed pulled =>
      exact ⟨caller, old, new, added, taken, was, turned, pushed, pulled⟩
    | leaves ends now pushed pulled => exact (unchanged pushed pulled).elim
  | close caller =>
    rw [Traffic.extend] at traffic
    split at traffic <;> exact (unchanged (by rw [traffic]) (by rw [traffic])).elim
  | insert | measured | measuringPanicked | pull | notify | report | markDone | leave =>
    exact (unchanged (by rw [traffic]; rfl) (by rw [traffic]; rfl)).elim

/-- What is added is the entry of an insert in progress, and nothing else. -/
theorem push_in_progress {origin : SharedQueue α} {events : List (Event α)}
    (idle : ∀ call ∈ origin.calls, call = .idle)
    (ran : (begin origin).run events = some watch) (stepped : watch.step event = some next)
    (changed : next.traffic.pushed ≠ watch.traffic.pushed) :
    ∃ caller entry, next.traffic.pushed = watch.traffic.pushed ++ [(caller, entry)] ∧
      InProgress caller (.insert caller entry) events := by
  obtain ⟨caller, old, new, added, taken, was, turned, pushed, -⟩ :=
    turn_of_change stepped (.inl changed)
  obtain ⟨opening, begun, going⟩ := inProgress_of_run idle ran turned was
  cases turned with
  | added entry =>
    cases begun
    exact ⟨caller, entry, pushed, going⟩
  | refused | took | ended => exact absurd (by rw [pushed]; exact List.append_nil _) changed

/-- What is taken is taken by a pull in progress. -/
theorem take_in_progress {origin : SharedQueue α} {events : List (Event α)}
    (idle : ∀ call ∈ origin.calls, call = .idle)
    (ran : (begin origin).run events = some watch) (stepped : watch.step event = some next)
    (changed : next.traffic.pulled ≠ watch.traffic.pulled) :
    ∃ caller entry, next.traffic.pulled = watch.traffic.pulled ++ [(caller, entry)] ∧
      InProgress caller (.pull caller) events := by
  obtain ⟨caller, old, new, added, taken, was, turned, -, pulled⟩ :=
    turn_of_change stepped (.inr changed)
  obtain ⟨opening, begun, going⟩ := inProgress_of_run idle ran turned was
  cases turned with
  | took entry =>
    cases begun
    exact ⟨caller, entry, pulled, going⟩
  | added | refused | ended => exact absurd (by rw [pulled]; exact List.append_nil _) changed

/-! ### What a call returns with -/

/-- An insert that returns has added its entry once and was not refused, or it has added
nothing and was refused. -/
theorem reply_of_insert {entry : α} {before begun : Watch α} {span : List (Event α)}
    {reply : Reply α} (stepped : before.step (.insert caller entry) = some begun)
    (ran : begun.run span = some final)
    (goesOn : ∀ event ∈ span, event.endsCall caller = false)
    (replied : final.shared.reply? caller = some reply) :
    (reply = .inserted ∧
        final.traffic.pushedBy caller = before.traffic.pushedBy caller ++ [entry]) ∨
      (reply = .refused ∧ final.traffic.pushedBy caller = before.traffic.pushedBy caller) := by
  have underway : Underway (.inserting entry) caller before final :=
    (underway_of_begun (.insert entry) stepped).run (by simp) goesOn ran
  obtain ⟨outline, added, taken, here, account, pushed, -⟩ := underway.account
  rw [outline_of_reply replied] at here
  cases here
  rcases account with turned | ⟨same, -, -⟩
  · generalize stage : (Call.returned reply).outline = outline at turned
    cases turned with
    | added =>
      left
      cases reply <;> simp [Call.outline] at stage
      exact ⟨rfl, pushed⟩
    | refused =>
      right
      cases reply <;> simp [Call.outline] at stage
      exact ⟨rfl, by rw [pushed, List.append_nil]⟩
  · cases reply <;> simp [Call.outline] at same

/-- A pull that returns has taken one entry and returns with it, or it has taken nothing
and returns with the end. -/
theorem reply_of_pull {before begun : Watch α} {span : List (Event α)} {reply : Reply α}
    (stepped : before.step (.pull caller) = some begun) (ran : begun.run span = some final)
    (goesOn : ∀ event ∈ span, event.endsCall caller = false)
    (replied : final.shared.reply? caller = some reply) :
    (∃ entry, reply = .entry entry ∧
        final.traffic.pulledBy caller = before.traffic.pulledBy caller ++ [entry]) ∨
      ((∃ status, reply = .ended status) ∧
        final.traffic.pulledBy caller = before.traffic.pulledBy caller) := by
  have underway : Underway .pulling caller before final :=
    (underway_of_begun .pull stepped).run (by simp) goesOn ran
  obtain ⟨outline, added, taken, here, account, -, pulled⟩ := underway.account
  rw [outline_of_reply replied] at here
  cases here
  rcases account with turned | ⟨same, -, -⟩
  · generalize stage : (Call.returned reply).outline = outline at turned
    cases turned with
    | took entry =>
      left
      cases reply <;> simp [Call.outline] at stage
      exact ⟨entry, by rw [stage], pulled⟩
    | ended status =>
      right
      cases reply <;> simp [Call.outline] at stage
      exact ⟨⟨_, rfl⟩, by rw [pulled, List.append_nil]⟩
  · cases reply <;> simp [Call.outline] at same

end Watch

end BoundedIngest

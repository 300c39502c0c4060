/-
Module: BoundedIngest.Proofs.Queue.Blocking
Purpose: Which inserts are counted as blocked: of those that had to wait, the ones that got in.
Main exports:
  Standing.Leads, SharedQueue.leads_of_step, SharedQueue.course, SharedQueue.insertCourses,
  SharedQueue.Settled, SharedQueue.settled_of_run, SharedQueue.blockedCount,
  SharedQueue.blockedCount_of_step, SharedQueue.blocked_inserts_that_got_in
-/
import BoundedIngest.Proofs.Queue.Sampling
import BoundedIngest.Proofs.Queue.Standing

namespace BoundedIngest

/-!
An insert that waits is counted when it has its entry in and reports.  It may have found no room any
number of times by then; it carries one mark along that says that it has waited at all, and it
reports once.  An insert that a close turns away does not come to the point where it would report.
-/

variable {α : Type}

open SharedQueue (Event)

/-! ### The course of a call -/

namespace Standing

/-- What can become of a call with one step, apart from nothing. -/
inductive Leads (closed : Bool) : Standing → Standing → Prop
  | arrives : Leads closed .idle .arriving
  | panics : Leads closed .arriving .idle
  | waits : Leads closed .arriving .waiting
  | refused : Leads closed .arriving .turnedAway
  | adds (length : Nat) : Leads closed .arriving (.added false length)
  /-- Only a close makes an insert give up that has waited. -/
  | givesUp (shut : closed = true) : Leads closed .waiting .turnedAway
  | addsLate (length : Nat) : Leads closed .waiting (.added true length)
  | reports (waited : Bool) (length : Nat) : Leads closed (.added waited length) .admitted
  | works : Leads closed .idle .working
  | passes : Leads closed .idle .served
  | takes (length : Nat) : Leads closed .working (.took length)
  | ends : Leads closed .working .served
  | hands (length : Nat) : Leads closed (.took length) .served
  | leaves (old : Standing) (finished : old.isOver = true) (there : old ≠ .idle) :
      Leads closed old .idle

/-- What a close makes possible stays possible. -/
theorem Leads.later {closed later : Bool} {old new : Standing} (leads : Leads closed old new)
    (stays : closed = true → later = true) : Leads later old new := by
  cases leads with
  | givesUp shut => exact .givesUp (stays shut)
  | leaves old finished there => exact .leaves old finished there
  | arrives | panics | waits | refused | adds | addsLate | reports | works | passes | takes | ends
  | hands => constructor

/-- An insert that has waited and has its entry in. -/
def isLate : Standing → Bool
  | .added waited _ => waited
  | _ => false

/-- An insert that has waited and has its entry in, or may come to that. -/
def mayBeLate : Standing → Bool
  | .arriving | .waiting => true
  | .added waited _ => waited
  | _ => false

theorem Leads.mayBeLate {closed : Bool} {old new : Standing} (leads : Leads closed old new)
    (begun : old ≠ .idle) (never : old.mayBeLate = false) : new.mayBeLate = false := by
  cases leads <;> first | rfl | contradiction

end Standing

namespace SharedQueue

variable {shared middle next final : SharedQueue α} {event : Event α} {events rest : List (Event α)}
variable {caller : Nat}

/-- How the call of a caller stands. -/
def standing (shared : SharedQueue α) (caller : Nat) : Standing :=
  shared.standings[caller]?.getD .idle

theorem standing_of_found {old : Standing} (was : shared.standings[caller]? = some old) :
    shared.standing caller = old := by
  rw [standing, was]
  rfl

theorem standing_of_set {old new : Standing} (was : shared.standings[caller]? = some old)
    (standings : next.standings = shared.standings.set caller new) :
    next.standing caller = new := by
  apply standing_of_found
  rw [standings]
  exact List.getElem?_set_self (List.getElem?_eq_some_iff.mp was).1

theorem Proceeds.leads {closed : Bool} {old new : Standing}
    (proceeds : Proceeds closed event old new) : new = old ∨ old.Leads closed new := by
  cases proceeds with
  | arrives => exact .inr .arrives
  | measures | notifies | starves | releases => exact .inl rfl
  | panics => exact .inr .panics
  | waits caller waited =>
    cases waited with
    | true => exact .inl rfl
    | false => exact .inr .waits
  | givesUp caller waited shut =>
    cases waited with
    | true => exact .inr (.givesUp (shut rfl))
    | false => exact .inr .refused
  | reportsPush caller waited length => exact .inr (.reports waited length)
  | reportsPull caller length => exact .inr (.hands length)
  | pulls => exact .inr .works
  | passes => exact .inr .passes
  | ends | finishes => exact .inr .ends
  | leaves caller old finished there => exact .inr (.leaves old finished there)

/-- What a step makes of any one call. -/
theorem leads_of_step (stepped : shared.step event = some next) (caller : Nat) :
    next.standing caller = shared.standing caller ∨
      (shared.standing caller).Leads shared.queue.closed (next.standing caller) := by
  have moved : ∀ {mover : Nat} {old new : Standing}, shared.standings[mover]? = some old →
      next.standings = shared.standings.set mover new →
      new = old ∨ old.Leads shared.queue.closed new →
      next.standing caller = shared.standing caller ∨
        (shared.standing caller).Leads shared.queue.closed (next.standing caller) := by
    intro mover old new was standings leads
    by_cases same : mover = caller
    · subst same
      rwa [standing_of_set was standings, standing_of_found was]
    · left
      rw [standing, standings, List.getElem?_set_ne same]
      rfl
  cases advanced_of_step stepped with
  | marked marks kept standings =>
    left
    rw [standing, standings]
    rfl
  | proceeded mover old new whose was proceeds kept standings =>
    exact moved was standings proceeds.leads
  | added mover waited enters was stillOpen standings =>
    cases waited with
    | true => exact moved was standings (.inr (.addsLate _))
    | false => exact moved was standings (.inr (.adds _))
  | took mover enters was stillOpen standings => exact moved was standings (.inr (.takes _))
  | closed mover closes was closable emptied standings => exact moved was standings (.inr .works)

/-- How the call of a caller stands from now on, step by step, until the caller is idle. -/
def course (shared : SharedQueue α) (caller : Nat) (events : List (Event α)) : List Standing :=
  if shared.standing caller = .idle then []
  else
    shared.standing caller ::
      match events with
      | [] => []
      | event :: rest =>
          match shared.step event with
          | none => []
          | some next => next.course caller rest

/-- Whose insert begins. -/
def Event.inserter? : Event α → Option Nat
  | .insert caller _ => some caller
  | _ => none

/-- For each insert of a run, in the order in which they begin, its course. -/
def insertCourses (shared : SharedQueue α) : List (Event α) → List (List Standing)
  | [] => []
  | event :: rest =>
      match shared.step event with
      | none => []
      | some next =>
          (event.inserter?.map fun caller => next.course caller rest).toList ++
            next.insertCourses rest

theorem course_idle (idle : shared.standing caller = .idle) (events : List (Event α)) :
    shared.course caller events = [] := by
  unfold course
  exact if_pos idle

theorem course_cons (begun : shared.standing caller ≠ .idle)
    (stepped : shared.step event = some next) :
    shared.course caller (event :: rest) =
      shared.standing caller :: next.course caller rest := by
  rw [course, if_neg begun, stepped]

theorem mem_course {old : Standing} (was : shared.standing caller = old) (begun : old ≠ .idle)
    (events : List (Event α)) : old ∈ shared.course caller events := by
  unfold course
  rw [was, if_neg begun]
  exact List.mem_cons_self

/-! ### What a course tells -/

/-- A call that has returned stands as it does until it leaves. -/
theorem course_of_over {old : Standing} (was : shared.standing caller = old)
    (finished : old.isOver = true) (ran : shared.run events = some final) :
    ∀ standing ∈ shared.course caller events, standing = old := by
  by_cases idle : old = .idle
  · rw [course_idle (was.trans idle)]
    exact fun standing none => absurd none List.not_mem_nil
  · have begun : shared.standing caller ≠ .idle := by rwa [was]
    induction events generalizing shared with
    | nil =>
      rw [course, if_neg begun, was]
      exact fun standing here => List.mem_singleton.mp here
    | cons event rest ih =>
      obtain ⟨middle, stepped, ran⟩ := Option.bind_eq_some_iff.mp ran
      rw [course_cons begun stepped, was, List.forall_mem_cons]
      refine ⟨rfl, ?_⟩
      have leads := leads_of_step stepped caller
      rw [was] at leads
      rcases leads with same | leads
      · exact ih same ran (by rwa [same])
      · have gone : middle.standing caller = .idle := by
          generalize middle.standing caller = new at leads
          cases leads <;> first | rfl | contradiction
        rw [course_idle gone]
        exact fun standing none => absurd none List.not_mem_nil

/-- A closed queue stays closed. -/
theorem closed_of_run (closed : shared.queue.closed = true) (ran : shared.run events = some final) :
    final.queue.closed = true := by
  have shut : (Watch.begin shared).shared.queue.closed = true := closed
  have same := Watch.map_shared_run (Watch.begin shared) events
  obtain ⟨watch, watched, rfl⟩ := Option.map_eq_some_iff.mp (same.trans ran)
  exact (Watch.atRest_of_run shut watched).closed

/-- A call in progress stands as it does for a while, and since it is over in the end, it moves on
then. -/
theorem course_of_inProgress {old : Standing} (tells : List Standing → Prop)
    (was : shared.standing caller = old) (inProgress : old.isOver = false)
    (ran : shared.run events = some final)
    (finished : ∀ caller, (final.standing caller).isOver = true)
    (stays : ∀ course, tells course → tells (old :: course))
    (moves : ∀ (middle : SharedQueue α) (rest : List (Event α)),
      old.Leads final.queue.closed (middle.standing caller) → middle.run rest = some final →
      tells (old :: middle.course caller rest)) : tells (shared.course caller events) := by
  have begun : old ≠ .idle := by
    rintro rfl
    contradiction
  induction events generalizing shared with
  | nil =>
    cases ran
    have returned := finished caller
    rw [was, inProgress] at returned
    contradiction
  | cons event rest ih =>
    obtain ⟨middle, stepped, onward⟩ := Option.bind_eq_some_iff.mp ran
    rw [course_cons (by rwa [was]) stepped, was]
    rcases leads_of_step stepped caller with same | leads
    · exact stays _ (ih (same.trans was) onward)
    · rw [was] at leads
      exact moves middle rest (leads.later fun shut => closed_of_run shut ran) onward

/-- Whoever has added an entry is admitted. -/
theorem course_of_added {waited : Bool} {length : Nat}
    (was : shared.standing caller = .added waited length) (ran : shared.run events = some final)
    (finished : ∀ caller, (final.standing caller).isOver = true) :
    .admitted ∈ shared.course caller events ∧
      ∀ standing ∈ shared.course caller events,
        standing = .added waited length ∨ standing = .admitted := by
  apply course_of_inProgress (fun course => .admitted ∈ course ∧
    ∀ standing ∈ course, standing = .added waited length ∨ standing = .admitted)
    was rfl ran finished
  · rintro course ⟨gotIn, all⟩
    exact ⟨List.mem_cons_of_mem _ gotIn, List.forall_mem_cons.mpr ⟨.inl rfl, all⟩⟩
  · intro middle rest leads onward
    generalize now : middle.standing caller = new at leads
    cases leads with
    | reports =>
      have there := mem_course now (by simp) rest
      have all := course_of_over now rfl onward
      refine ⟨List.mem_cons_of_mem _ there, List.forall_mem_cons.mpr ⟨.inl rfl, ?_⟩⟩
      exact fun standing here => .inr (all standing here)
    | leaves old finished there => contradiction

/-- How a wait for room has ended. -/
inductive Waited (closed : Bool) (course : List Standing) : Prop
  | admitted (late : course.any Standing.isLate = true) (gotIn : .admitted ∈ course)
      (notOut : .turnedAway ∉ course)
  | turnedAway (never : course.any Standing.isLate = false) (notIn : .admitted ∉ course)
      (out : .turnedAway ∈ course) (shut : closed = true)

theorem Waited.cons {closed : Bool} {course : List Standing} (ended : Waited closed course)
    (waited : Bool) : Waited closed (.outside waited :: course) := by
  cases ended with
  | admitted late gotIn notOut =>
    apply Waited.admitted
    · rw [List.any_cons, late, Bool.or_true]
    · exact List.mem_cons_of_mem _ gotIn
    · cases waited <;> simp [Standing.outside, notOut]
  | turnedAway never notIn out shut =>
    apply Waited.turnedAway _ _ (List.mem_cons_of_mem _ out) shut
    · rw [List.any_cons, never]
      cases waited <;> rfl
    · cases waited <;> simp [Standing.outside, notIn]

/-- However often an insert finds no room, in the end it is admitted or a close turns it away. -/
theorem waited_of_waiting (was : shared.standing caller = .waiting)
    (ran : shared.run events = some final)
    (finished : ∀ caller, (final.standing caller).isOver = true) :
    Waited final.queue.closed (shared.course caller events) := by
  apply course_of_inProgress (Waited final.queue.closed) was rfl ran finished
  · exact fun course ended => ended.cons true
  · intro middle rest leads onward
    generalize now : middle.standing caller = new at leads
    apply Waited.cons _ true
    cases leads with
    | givesUp shut =>
      have all := course_of_over now rfl onward
      have out := mem_course now (by simp) rest
      apply Waited.turnedAway _ _ out shut
      · apply List.any_eq_false.mpr
        intro standing here
        simp [all standing here, Standing.isLate]
      · intro gotIn
        cases all _ gotIn
    | addsLate length =>
      obtain ⟨gotIn, all⟩ := course_of_added now onward finished
      have there := mem_course now (by simp) rest
      apply Waited.admitted (List.any_eq_true.mpr ⟨_, there, rfl⟩) gotIn
      intro out
      rcases all _ out with same | same <;> cases same
    | leaves old finished there => contradiction

/-- What the course of an insert tells: it gets in or is refused without a wait, or its wait
ends. -/
def Settled (closed : Bool) (course : List Standing) : Prop :=
  (.waiting ∉ course ∧ course.any Standing.isLate = false) ∨
    (.waiting ∈ course ∧ Waited closed course)

theorem Settled.cons {closed : Bool} {course : List Standing} (settled : Settled closed course) :
    Settled closed (.arriving :: course) := by
  rcases settled with ⟨unheld, never⟩ | ⟨held, ended⟩
  · exact .inl ⟨by simp [unheld], by simp [never, Standing.isLate]⟩
  · exact .inr ⟨List.mem_cons_of_mem _ held, ended.cons false⟩

theorem settled_of_arriving (was : shared.standing caller = .arriving)
    (ran : shared.run events = some final)
    (finished : ∀ caller, (final.standing caller).isOver = true) :
    Settled final.queue.closed (shared.course caller events) := by
  apply course_of_inProgress (Settled final.queue.closed) was rfl ran finished
  · exact fun course settled => settled.cons
  · intro middle rest leads onward
    generalize now : middle.standing caller = new at leads
    apply Settled.cons
    cases leads with
    | panics =>
      rw [course_idle now]
      exact .inl ⟨List.not_mem_nil, rfl⟩
    | refused =>
      have all := course_of_over now rfl onward
      left
      constructor
      · intro held
        cases all _ held
      · apply List.any_eq_false.mpr
        intro standing here
        simp [all standing here, Standing.isLate]
    | adds length =>
      obtain ⟨gotIn, all⟩ := course_of_added now onward finished
      left
      constructor
      · intro held
        rcases all _ held with same | same <;> cases same
      · apply List.any_eq_false.mpr
        intro standing here
        rcases all standing here with same | same <;> simp [same, Standing.isLate]
    | waits =>
      have held := mem_course now (by simp) rest
      exact .inr ⟨held, waited_of_waiting now onward finished⟩
    | leaves old finished there => contradiction

/-! ### The count -/

theorem any_course_cons (begun : shared.standing caller ≠ .idle)
    (stepped : shared.step event = some next) :
    (shared.course caller (event :: rest)).any Standing.isLate =
      ((shared.standing caller).isLate || (next.course caller rest).any Standing.isLate) := by
  rw [course_cons begun stepped]
  exact List.any_cons

/-- A step of another call does not matter to what lies ahead. -/
theorem any_course_kept (stepped : shared.step event = some next)
    (same : next.standing caller = shared.standing caller) :
    (next.course caller rest).any Standing.isLate =
      (shared.course caller (event :: rest)).any Standing.isLate := by
  by_cases idle : shared.standing caller = .idle
  · rw [course_idle idle, course_idle (same.trans idle)]
  · rw [any_course_cons idle stepped]
    cases late : (shared.standing caller).isLate with
    | false => exact (Bool.false_or _).symm
    | true =>
      exact List.any_eq_true.mpr ⟨_, mem_course same idle rest, late⟩

theorem not_late_ahead (never : (shared.standing caller).mayBeLate = false)
    (ran : shared.run events = some final) :
    (shared.course caller events).any Standing.isLate = false := by
  have notLate : ∀ standing : Standing, standing.mayBeLate = false → standing.isLate = false := by
    intro standing never
    cases standing <;> first | rfl | exact never
  induction events generalizing shared with
  | nil =>
    unfold course
    split
    · rfl
    · simp [notLate _ never]
  | cons event rest ih =>
    obtain ⟨middle, stepped, ran⟩ := Option.bind_eq_some_iff.mp ran
    by_cases idle : shared.standing caller = .idle
    · rw [course_idle idle]
      rfl
    · rw [any_course_cons idle stepped, notLate _ never, Bool.false_or]
      rcases leads_of_step stepped caller with same | leads
      · exact ih (by rwa [same]) ran
      · exact ih (leads.mayBeLate idle never) ran

/-- For each call, whether it has waited and has its entry in, or is going to. -/
def lateAhead (shared : SharedQueue α) (events : List (Event α)) : List Bool :=
  shared.standings.mapIdx fun caller _ => (shared.course caller events).any Standing.isLate

/-- The step of a call changes what lies ahead of this call at most. -/
theorem lateAhead_of_step {old new : Standing} (stepped : shared.step event = some next)
    (was : shared.standings[caller]? = some old)
    (standings : next.standings = shared.standings.set caller new) :
    next.lateAhead rest = (shared.lateAhead (event :: rest)).set caller
      ((next.course caller rest).any Standing.isLate) := by
  have inside := (List.getElem?_eq_some_iff.mp was).1
  apply List.ext_getElem?
  intro position
  rw [lateAhead, List.getElem?_mapIdx, standings]
  by_cases same : caller = position
  · subst same
    rw [List.getElem?_set_self inside, List.getElem?_set_self (by simpa [lateAhead] using inside)]
    rfl
  · rw [List.getElem?_set_ne same, List.getElem?_set_ne same, lateAhead, List.getElem?_mapIdx]
    apply congrArg (fun change : Standing → Bool => shared.standings[position]?.map change)
    funext _
    apply any_course_kept stepped
    rw [standing, standings, List.getElem?_set_ne same]
    rfl

/-- A report of an insert that has waited. -/
def reportsLate (shared : SharedQueue α) : Event α → Bool
  | .report caller => (shared.standing caller).isLate
  | _ => false

/-- Both metrics of blocked inserts grow with a report of an insert that has waited. -/
theorem blocked_of_step (stepped : shared.step event = some next) :
    next.metrics.blockedInserts =
        shared.metrics.blockedInserts + (shared.reportsLate event).toNat ∧
      next.metrics.insertWaits =
        shared.metrics.insertWaits + (shared.reportsLate event).toNat := by
  cases reported_of_step stepped with
  | push caller waited length capacity reports was metrics =>
    rw [metrics, reports, reportsLate, standing_of_found was]
    cases waited <;> exact ⟨rfl, rfl⟩
  | pull caller length capacity reports was metrics =>
    rw [metrics, reports, reportsLate, standing_of_found was]
    exact ⟨rfl, rfl⟩
  | other unreported metrics =>
    have silent : shared.reportsLate event = false := by
      cases event with
      | report caller => exact absurd rfl (unreported caller)
      | _ => rfl
    rw [metrics, silent]
    exact ⟨rfl, rfl⟩

/-- The inserts that were counted as blocked, and those that are going to be: the ones in progress
and the ones that have not begun. -/
def blockedCount (shared : SharedQueue α) (events : List (Event α)) : Nat :=
  shared.metrics.blockedInserts + (shared.lateAhead events).countP id +
    (shared.insertCourses events).countP fun course => course.any Standing.isLate

/-- What a step has to see to: that it counts an insert exactly if the insert ceases to lie
ahead. -/
theorem blockedCount_of_balance {old new : Standing} (stepped : shared.step event = some next)
    (was : shared.standings[caller]? = some old)
    (standings : next.standings = shared.standings.set caller new)
    (balance : (shared.reportsLate event).toNat +
        ((next.course caller rest).any Standing.isLate).toNat =
      ((shared.course caller (event :: rest)).any Standing.isLate).toNat +
        (event.inserter?.map fun caller => next.course caller rest).toList.countP
          fun course => course.any Standing.isLate) :
    next.blockedCount rest = shared.blockedCount (event :: rest) := by
  have before : (shared.lateAhead (event :: rest))[caller]? =
      some ((shared.course caller (event :: rest)).any Standing.isLate) := by
    rw [lateAhead, List.getElem?_mapIdx, was]
    rfl
  have ahead := countP_set_add id ((next.course caller rest).any Standing.isLate) before
  rw [← lateAhead_of_step stepped was standings] at ahead
  have counted := (blocked_of_step stepped).1
  rw [blockedCount, blockedCount, insertCourses, stepped, counted]
  dsimp only [id] at ahead ⊢
  rw [List.countP_append]
  omega

/-- A pull or a close begins, and its call is never going to be late. -/
theorem blockedCount_of_begin {new : Standing} (stepped : shared.step event = some next)
    (ran : next.run rest = some final) (was : shared.standings[caller]? = some .idle)
    (standings : next.standings = shared.standings.set caller new)
    (never : new.mayBeLate = false) (quiet : event.inserter? = none)
    (silent : shared.reportsLate event = false) :
    next.blockedCount rest = shared.blockedCount (event :: rest) := by
  have now : next.standing caller = new := standing_of_set was standings
  apply blockedCount_of_balance stepped was standings
  rw [silent, quiet, not_late_ahead (by rwa [now]) ran, course_idle (standing_of_found was)]
  rfl

/-- A call goes on that is not late yet, and it is ahead of it whether it is going to be. -/
theorem blockedCount_of_progress {old new : Standing} (stepped : shared.step event = some next)
    (was : shared.standings[caller]? = some old)
    (standings : next.standings = shared.standings.set caller new)
    (begun : old ≠ .idle) (notLate : old.isLate = false) (quiet : event.inserter? = none)
    (silent : shared.reportsLate event = false) :
    next.blockedCount rest = shared.blockedCount (event :: rest) := by
  have before : shared.standing caller = old := standing_of_found was
  apply blockedCount_of_balance stepped was standings
  rw [silent, quiet, any_course_cons (by rwa [before]) stepped, before, notLate, Bool.false_or]
  exact Nat.zero_add _

theorem blockedCount_of_proceeds {old new : Standing} (stepped : shared.step event = some next)
    (ran : next.run rest = some final) (whose : event.caller? = some caller)
    (was : shared.standings[caller]? = some old)
    (standings : next.standings = shared.standings.set caller new)
    (proceeds : Proceeds shared.queue.closed event old new) :
    next.blockedCount rest = shared.blockedCount (event :: rest) := by
  have before : shared.standing caller = old := standing_of_found was
  have now : next.standing caller = new := standing_of_set was standings
  cases proceeds with
  | arrives mover entry =>
    cases whose
    apply blockedCount_of_balance stepped was standings
    rw [course_idle before, Event.inserter?, Option.map_some, Option.toList_some,
      List.countP_singleton]
    cases (next.course caller rest).any Standing.isLate <;> rfl
  | notifies mover target old length owes =>
    apply blockedCount_of_balance stepped was standings
    rw [any_course_kept stepped (now.trans before.symm)]
    exact Nat.zero_add _
  | reportsPush mover waited length =>
    cases whose
    have admitted : (next.course caller rest).any Standing.isLate = false :=
      not_late_ahead (by rw [now]; rfl) ran
    apply blockedCount_of_balance stepped was standings
    rw [any_course_cons (by simp [before]) stepped, admitted, reportsLate, before, Bool.or_false]
    rfl
  | reportsPull mover length =>
    cases whose
    exact blockedCount_of_progress stepped was standings (by simp) rfl rfl (by
      rw [reportsLate, before]
      rfl)
  | pulls | passes => exact blockedCount_of_begin stepped ran was standings rfl rfl rfl
  | waits mover waited | givesUp mover waited =>
    cases waited <;> exact blockedCount_of_progress stepped was standings
      (by simp [Standing.outside]) rfl rfl rfl
  | leaves mover old finished there =>
    refine blockedCount_of_progress stepped was standings there ?_ rfl rfl
    cases old <;> first | rfl | contradiction
  | measures | panics | starves | ends | releases | finishes =>
    exact blockedCount_of_progress stepped was standings (by simp) rfl rfl rfl

/-- Whatever a step does, it counts an insert exactly if the insert ceases to lie ahead. -/
theorem blockedCount_of_step (stepped : shared.step event = some next)
    (ran : next.run rest = some final) :
    next.blockedCount rest = shared.blockedCount (event :: rest) := by
  cases advanced_of_step stepped with
  | marked marks kept standings =>
    have same : next.lateAhead rest = shared.lateAhead (event :: rest) := by
      rw [lateAhead, lateAhead, standings]
      apply congrArg (fun change : Nat → Standing → Bool => shared.standings.mapIdx change)
      funext caller _
      apply any_course_kept stepped
      rw [standing, standings]
      rfl
    have counted := (blocked_of_step stepped).1
    rw [blockedCount, blockedCount, insertCourses, stepped, counted, same, marks]
    rfl
  | proceeded caller old new whose was proceeds kept standings =>
    exact blockedCount_of_proceeds stepped ran whose was standings proceeds
  | added caller waited enters was stillOpen standings =>
    subst enters
    cases waited <;> exact blockedCount_of_progress stepped was standings
      (by simp [Standing.outside]) rfl rfl rfl
  | took caller enters was stillOpen standings =>
    subst enters
    exact blockedCount_of_progress stepped was standings (by simp) rfl rfl rfl
  | closed caller closes was closable emptied standings =>
    subst closes
    exact blockedCount_of_begin stepped ran was standings rfl rfl rfl

theorem blockedCount_of_run (ran : shared.run events = some final) :
    final.blockedCount [] = shared.blockedCount events := by
  induction events generalizing shared with
  | nil =>
    cases ran
    rfl
  | cons event rest ih =>
    obtain ⟨middle, stepped, ran⟩ := Option.bind_eq_some_iff.mp ran
    rw [ih ran]
    exact blockedCount_of_step stepped ran

/-! ### Runs -/

theorem insertWaits_of_run (same : shared.metrics.insertWaits = shared.metrics.blockedInserts)
    (ran : shared.run events = some final) :
    final.metrics.insertWaits = final.metrics.blockedInserts := by
  induction events generalizing shared with
  | nil =>
    cases ran
    exact same
  | cons event rest ih =>
    obtain ⟨middle, stepped, ran⟩ := Option.bind_eq_some_iff.mp ran
    obtain ⟨blocked, waits⟩ := blocked_of_step stepped
    exact ih (by rw [blocked, waits, same]) ran

/-- There is a course for each insert. -/
theorem length_insertCourses (ran : shared.run events = some final) :
    (shared.insertCourses events).length = events.countP Event.isInsert := by
  induction events generalizing shared with
  | nil => rfl
  | cons event rest ih =>
    obtain ⟨middle, stepped, ran⟩ := Option.bind_eq_some_iff.mp ran
    rw [insertCourses, stepped, countP_cons_toNat, ← ih ran]
    dsimp only
    rw [List.length_append]
    cases event <;> rfl

theorem arriving_of_insert {entry : α} (stepped : shared.step (.insert caller entry) = some next) :
    next.standing caller = .arriving := by
  cases advanced_of_step stepped with
  | proceeded mover old new whose was proceeds kept standings =>
    cases whose
    cases proceeds
    exact standing_of_set was standings
  | marked marks => contradiction
  | added mover waited enters => contradiction
  | took mover enters => contradiction
  | closed mover closes => contradiction

theorem settled_of_run (ran : shared.run events = some final)
    (finished : ∀ caller, (final.standing caller).isOver = true) :
    ∀ course ∈ shared.insertCourses events, Settled final.queue.closed course := by
  induction events generalizing shared with
  | nil => exact fun course none => absurd none List.not_mem_nil
  | cons event rest ih =>
    obtain ⟨middle, stepped, onward⟩ := Option.bind_eq_some_iff.mp ran
    intro course found
    rw [insertCourses, stepped] at found
    rcases List.mem_append.mp found with here | later
    · cases event with
      | insert caller entry =>
        cases List.mem_singleton.mp here
        exact settled_of_arriving (arriving_of_insert stepped) onward finished
      | _ => contradiction
    · exact ih onward course later

theorem blockedCount_of_over (finished : ∀ caller, (final.standing caller).isOver = true) :
    final.blockedCount [] = final.metrics.blockedInserts := by
  have none : (final.lateAhead []).countP id = 0 := by
    apply List.countP_eq_zero.mpr
    intro late found
    obtain ⟨caller, inside, rfl⟩ := List.mem_mapIdx.mp found
    have never : (final.standing caller).mayBeLate = false := by
      have returned := finished caller
      generalize final.standing caller = standing at returned
      cases standing <;> first | rfl | contradiction
    have notLate : (final.course caller []).any Standing.isLate = false :=
      not_late_ahead never rfl
    simp [notLate]
  rw [blockedCount, none]
  rfl

theorem blockedCount_start (config : ExecutorConfig) (producers callers : Nat)
    (events : List (Event α)) :
    (start config producers callers : SharedQueue α).blockedCount events =
      ((start config producers callers).insertCourses events).countP
        fun course => course.any Standing.isLate := by
  have idle : ∀ caller,
      (start config producers callers : SharedQueue α).standing caller = .idle := by
    intro caller
    rw [standing, standings, start, List.map_replicate, List.getElem?_replicate]
    split <;> rfl
  have none : ((start config producers callers : SharedQueue α).lateAhead events).countP id =
      0 := by
    apply List.countP_eq_zero.mpr
    intro late found
    obtain ⟨caller, inside, rfl⟩ := List.mem_mapIdx.mp found
    simp [course_idle (idle caller)]
  rw [blockedCount, none]
  exact Nat.zero_add _

theorem isOver_of_all (finished : final.standings.all Standing.isOver = true) (caller : Nat) :
    (final.standing caller).isOver = true := by
  rw [standing]
  cases found : final.standings[caller]? with
  | none => rfl
  | some standing => exact List.all_eq_true.mp finished standing (List.mem_of_getElem? found)

variable {closed : Bool} {courses : List (List Standing)}

theorem waited_of_settled (settled : ∀ course ∈ courses, Settled closed course) :
    ∀ course ∈ courses.filter (fun course => course.contains .waiting), Waited closed course := by
  intro course there
  obtain ⟨here, waits⟩ := List.mem_filter.mp there
  rcases settled course here with ⟨unheld, -⟩ | ⟨-, ended⟩
  · exact absurd (List.contains_iff_mem.mp waits) unheld
  · exact ended

/-- The inserts that are late at some time are those that wait and are admitted. -/
theorem countP_late (settled : ∀ course ∈ courses, Settled closed course) :
    courses.countP (fun course => course.any Standing.isLate) =
      (courses.filter fun course => course.contains .waiting).countP
        fun course => course.contains .admitted := by
  rw [List.countP_filter]
  apply List.countP_congr
  intro course here
  rw [Bool.and_eq_true, List.contains_iff_mem, List.contains_iff_mem]
  rcases settled course here with ⟨unheld, never⟩ | ⟨held, ended⟩
  · simp [unheld, never]
  · cases ended with
    | admitted late gotIn notOut => simp [late, gotIn, held]
    | turnedAway never notIn out shut => simp [never, notIn]

/-- A wait ends in one of two ways. -/
theorem length_of_waited (waited : ∀ course ∈ courses, Waited closed course) :
    courses.length = courses.countP (fun course => course.contains .admitted) +
      courses.countP fun course => course.contains .turnedAway := by
  rw [List.length_eq_countP_add_countP fun course => course.contains .admitted]
  congr 1
  apply List.countP_congr
  intro course there
  cases waited course there with
  | admitted late gotIn notOut => simp [gotIn, notOut]
  | turnedAway never notIn out shut => simp [notIn, out]

/-- Nobody is turned away where no close does so. -/
theorem countP_turnedAway (waited : ∀ course ∈ courses, Waited closed course)
    (stillOpen : closed = false) :
    courses.countP (fun course => course.contains .turnedAway) = 0 := by
  apply List.countP_eq_zero.mpr
  intro course there
  cases waited course there with
  | admitted late gotIn notOut => simpa using notOut
  | turnedAway never notIn out shut => cases stillOpen.symm.trans shut

variable {config : ExecutorConfig} {producers callers : Nat}

/-- Take any settings and any interleaving of calls on a queue, and let all calls be over.  Both
metrics of blocked inserts are the number of inserts that had to wait and got in, each counted once
however often it was woken and had to wait again.  An insert that had to wait and did not get in was
turned away by a close, and it is not counted.  So if the queue is not closed, then all inserts that
had to wait are counted. -/
theorem blocked_inserts_that_got_in
    (ran : (start config producers callers).run events = some final)
    (finished : final.standings.all Standing.isOver = true) :
    let inserts := (start config producers callers).insertCourses events
    let waited := inserts.filter fun course => course.contains .waiting
    let counted := final.metrics.blockedInserts
    inserts.length = events.countP Event.isInsert ∧
      counted = waited.countP (fun course => course.contains .admitted) ∧
      final.metrics.insertWaits = counted ∧
      waited.length = counted + waited.countP (fun course => course.contains .turnedAway) ∧
      (final.queue.closed = false → counted = waited.length) := by
  intro inserts waited counted
  have settled := settled_of_run ran (isOver_of_all finished)
  have held := waited_of_settled settled
  have gotIn : counted = waited.countP fun course => course.contains .admitted := by
    have all := blockedCount_of_run ran
    rw [blockedCount_of_over (isOver_of_all finished), blockedCount_start] at all
    exact all.trans (countP_late settled)
  have parted : waited.length =
      counted + waited.countP fun course => course.contains .turnedAway := by
    rw [gotIn]
    exact length_of_waited held
  refine ⟨length_insertCourses ran, gotIn, insertWaits_of_run rfl ran, parted, ?_⟩
  intro stillOpen
  rw [parted, countP_turnedAway held stillOpen]
  rfl

/-- There is room for one entry.  The second insert is woken, finds that the third has taken the
room, and gets in when it is woken again; the fourth waits until the queue is closed. -/
def overtaken : List (Event Nat) :=
  [.insert 0 1, .measured 0 10, .enter 0, .notify 0 none, .report 0, .leave 0,
    .insert 1 2, .measured 1 10, .enter 1,
    .pull 2, .enter 2, .notify 2 (some 1), .report 2, .leave 2,
    .insert 0 3, .measured 0 10, .enter 0, .notify 0 none, .report 0, .leave 0, .enter 1,
    .pull 2, .enter 2, .notify 2 (some 1), .report 2, .leave 2,
    .enter 1, .notify 1 none, .report 1,
    .insert 0 4, .measured 0 10, .enter 0,
    .close 2, .notify 2 none, .notify 2 none, .enter 0]

theorem blocked_inserts_that_got_in_inhabited :
    ∃ final : SharedQueue Nat,
      (start { writeBufferLimitBytes := 10 } 1 3).run overtaken = some final ∧
        final.reply? 0 = some .refused ∧ final.reply? 1 = some .inserted ∧
        (((start { writeBufferLimitBytes := 10 } 1 3).insertCourses overtaken).filter
          fun course => course.contains .waiting).length = 2 ∧
        final.metrics.blockedInserts = 1 ∧ final.metrics.insertWaits = 1 := by
  have runs : ((start { writeBufferLimitBytes := 10 } 1 3).run overtaken).map
      (fun final : SharedQueue Nat => decide
        (final.standings.all Standing.isOver = true ∧ final.reply? 0 = some .refused ∧
          final.reply? 1 = some .inserted)) = some true := by
    decide +kernel
  have two : ((((start { writeBufferLimitBytes := 10 } 1 3 : SharedQueue Nat).insertCourses
      overtaken).filter fun course => course.contains .waiting).countP
        fun course => course.contains .admitted) = 1 ∧
      (((start { writeBufferLimitBytes := 10 } 1 3 : SharedQueue Nat).insertCourses
        overtaken).filter fun course => course.contains .waiting).length = 2 := by
    decide +kernel
  obtain ⟨final, ran, holds⟩ := Option.map_eq_some_iff.mp runs
  obtain ⟨finished, refused, inserted⟩ := of_decide_eq_true holds
  obtain ⟨-, gotIn, waits, -, -⟩ := blocked_inserts_that_got_in ran finished
  refine ⟨final, ran, refused, inserted, two.2, ?_, ?_⟩
  · rw [gotIn, two.1]
  · rw [waits, gotIn, two.1]

/-- There is room for one entry, and the second insert waits until the queue is closed. -/
def lockedOut : List (Event Nat) :=
  [.insert 0 1, .measured 0 10, .enter 0, .notify 0 none, .report 0,
    .insert 1 2, .measured 1 10, .enter 1,
    .close 2, .notify 2 none, .notify 2 none, .enter 1]

/-- All calls have returned, and the insert that had to wait is not counted. -/
theorem blocked_inserts_that_got_in_uncounted :
    ∃ final : SharedQueue Nat,
      (start { writeBufferLimitBytes := 10 } 1 3).run lockedOut = some final ∧
        final.reply? 0 = some .inserted ∧ final.reply? 1 = some .refused ∧
        final.reply? 2 = some .closed ∧
        ((start { writeBufferLimitBytes := 10 } 1 3).insertCourses lockedOut).map
          (fun course => course.contains .waiting) = [false, true] ∧
        final.metrics.blockedInserts = 0 ∧ final.metrics.insertWaits = 0 := by
  have runs : ((start { writeBufferLimitBytes := 10 } 1 3).run lockedOut).map
      (fun final : SharedQueue Nat => decide
        (final.reply? 0 = some .inserted ∧ final.reply? 1 = some .refused ∧
          final.reply? 2 = some .closed ∧
          ((start { writeBufferLimitBytes := 10 } 1 3 : SharedQueue Nat).insertCourses
            lockedOut).map (fun course => course.contains .waiting) = [false, true] ∧
          final.metrics.blockedInserts = 0 ∧ final.metrics.insertWaits = 0)) = some true := by
    decide +kernel
  obtain ⟨final, ran, holds⟩ := Option.map_eq_some_iff.mp runs
  exact ⟨final, ran, of_decide_eq_true holds⟩

end SharedQueue

end BoundedIngest

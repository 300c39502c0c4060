/-
Module: BoundedIngest.Proofs.Executor.Account
Purpose: In an undisturbed run every producer inserts what becomes of its records, in order.
Main exports:
  Snapshot.ahead, Portion, Account, Undisturbed.account
-/
import BoundedIngest.Proofs.Executor.Calm

namespace BoundedIngest

/-!
The records offered to a producer are a first part of those assigned to it.  What becomes
of them was inserted, but for the last one, which the producer may still have in hand.
-/

variable {ρ α β : Type}

/-- The entry that a call is about to insert. -/
def Outline.toInsert : Outline α → List α
  | .inserting entry => [entry]
  | _ => []

/-- The producer was offered all its records. -/
def ProducerPhase.isSpent : ProducerPhase ρ → Bool
  | .reporting _ | .marking | .ended => true
  | _ => false

namespace History

variable {history : History ρ α β} {before after : Snapshot ρ α β}
  {event : Executor.Event ρ α β}

theorem offered_extend_others (others : ∀ index record, event ≠ .producer index (.offered record)) :
    (history.extend before event after).offered = history.offered := by
  cases event with
  | producer index act =>
    cases act with
    | offered record => exact absurd rfl (others index record)
    | _ => rfl
  | _ => rfl

theorem offeredTo_extend_others
    (others : ∀ index record, event ≠ .producer index (.offered record)) (index : Nat) :
    (history.extend before event after).offeredTo index = history.offeredTo index := by
  rw [offeredTo, offered_extend_others others, offeredTo]

theorem offeredTo_extend {caller : Nat} {record : ρ} (index : Nat) :
    (history.extend before (.producer caller (.offered record)) after).offeredTo index =
      history.offeredTo index ++ if caller = index then [record] else [] := by
  simp only [extend, offeredTo, List.filter_append, List.map_append]
  by_cases same : caller = index <;> simp [same]

theorem pushedBy_extend_others (others : ∀ caller, event ≠ .enterQueue caller) (index : Nat) :
    (history.extend before event after).pushedBy index = history.pushedBy index := by
  rw [pushedBy, pushed_extend_others others, pushedBy]

end History

namespace Snapshot

/-- The entry that a producer has in hand, or the one that becomes of the record it has in
hand. -/
def ahead (assignment : Assignment ρ α) (snapshot : Snapshot ρ α β) (offered : List ρ)
    (index : Nat) : ProducerPhase ρ → List α
  | .offering record | .transforming record =>
      [assignment.transform index (offered.length - 1) record]
  | .inserting => (snapshot.outlines[index]?.map Outline.toInsert).getD []
  | _ => []

end Snapshot

/-- What one producer was offered and what it has made of it. -/
structure Portion (assignment : Assignment ρ α) (snapshot : Snapshot ρ α β)
    (history : History ρ α β) (index : Nat) (phase : ProducerPhase ρ) : Prop where
  offered : history.offeredTo index <+: assignment.records index
  spent : phase.isSpent = true → history.offeredTo index = assignment.records index
  inserted : history.pushedBy index ++
      snapshot.ahead assignment (history.offeredTo index) index phase =
    (history.offeredTo index).mapIdx (assignment.transform index)

/-- Every producer has done its part so far. -/
def Account (assignment : Assignment ρ α) (snapshot : Snapshot ρ α β)
    (history : History ρ α β) : Prop :=
  ∀ index phase, snapshot.phases[index]? = some phase →
    Portion assignment snapshot history index phase

variable {assignment : Assignment ρ α} {snapshot next : Snapshot ρ α β}
  {history later : History ρ α β} {index : Nat} {old new : ProducerPhase ρ}

/-! ### What steps preserve -/

namespace Portion

/-- A step that does nothing to the producer or its call. -/
theorem untouched (portion : Portion assignment snapshot history index old)
    (outlines : next.outlines[index]? = snapshot.outlines[index]?)
    (offered : later.offeredTo index = history.offeredTo index)
    (pushed : later.pushedBy index = history.pushedBy index) :
    Portion assignment next later index old := by
  have ahead : next.ahead assignment (later.offeredTo index) index old =
      snapshot.ahead assignment (history.offeredTo index) index old := by
    rw [offered]
    cases old with
    | inserting => exact congrArg (fun call => (call.map Outline.toInsert).getD []) outlines
    | _ => rfl
  obtain ⟨before, spent, inserted⟩ := portion
  constructor
  · rwa [offered]
  · rwa [offered]
  · rwa [ahead, offered, pushed]

/-- A producer that goes on with what it has in hand. -/
theorem turn (portion : Portion assignment snapshot history index old)
    (offered : later.offeredTo index = history.offeredTo index)
    (pushed : later.pushedBy index = history.pushedBy index)
    (ahead : next.ahead assignment (history.offeredTo index) index new =
      snapshot.ahead assignment (history.offeredTo index) index old)
    (spent : new.isSpent = true → history.offeredTo index = assignment.records index) :
    Portion assignment next later index new := by
  obtain ⟨before, -, inserted⟩ := portion
  constructor
  · rwa [offered]
  · rwa [offered]
  · rwa [offered, ahead, pushed]

/-- A producer is offered its next record. -/
theorem offer {record : ρ} (portion : Portion assignment snapshot history index old)
    (empty : snapshot.ahead assignment (history.offeredTo index) index old = [])
    (assigned : (assignment.records index)[(history.offeredTo index).length]? = some record)
    (offered : later.offeredTo index = history.offeredTo index ++ [record])
    (pushed : later.pushedBy index = history.pushedBy index) :
    Portion assignment next later index (.offering record) := by
  obtain ⟨⟨rest, before⟩, -, inserted⟩ := portion
  constructor
  · rw [offered]
    cases rest with
    | nil =>
      rw [← before] at assigned
      simp at assigned
    | cons first rest =>
      refine ⟨rest, ?_⟩
      rw [← before] at assigned ⊢
      simp at assigned
      simp [assigned]
  · exact fun spent => absurd spent Bool.false_ne_true
  · rw [empty, List.append_nil] at inserted
    rw [pushed, offered, inserted]
    simp [Snapshot.ahead, List.mapIdx_append]

end Portion

namespace Account

/-- A call does on the queue what it is there for. -/
theorem queue {caller : Nat} (account : Account assignment snapshot history)
    (agreement : snapshot.Agreement) (stillOpen : snapshot.closed = false)
    (move : QueueMove snapshot caller next) :
    Account assignment next (history.extend snapshot (.enterQueue caller) next) := by
  intro index phase found
  rw [move.frame.phases] at found
  have portion := account index phase found
  have offered : (history.extend snapshot (.enterQueue caller) next).offeredTo index =
      history.offeredTo index := History.offeredTo_extend_others (by simp) index
  have elsewhere : ∀ {outline : Outline α}, snapshot.outlines[caller]? = some outline →
      outline.errand = .pull → caller ≠ index := by
    rintro outline was pull rfl
    obtain ⟨rfl, -⟩ := agreement.pulling was pull
    rw [List.getElem?_eq_none (Nat.le_refl _)] at found
    contradiction
  have still : ∀ {after : Snapshot ρ α β}, after.buffer.length ≤ snapshot.buffer.length →
      (history.extend snapshot (.enterQueue caller) after).pushedBy index =
        history.pushedBy index := by
    intro after fewer
    have pushed : (history.extend snapshot (.enterQueue caller) after).pushed =
        history.pushed := by
      simp [History.extend, fewer]
    rw [History.pushedBy, pushed, History.pushedBy]
  cases move with
  | refused entry was reason =>
    rcases reason with closed | finished
    · rw [stillOpen] at closed
      contradiction
    · have inserting := agreement.inserting was rfl
      have ended := agreement.all_ended finished _ (List.mem_of_getElem? inserting)
      contradiction
  | pushed entry was stillOpen =>
    have pushed : (history.extend snapshot (.enterQueue caller)
        { snapshot.setOutline caller .inserted with
          buffer := snapshot.buffer ++ [entry] }).pushed = history.pushed ++ [(caller, entry)] := by
      simp [History.extend]
    have pushedBy := History.pushedBy_append pushed index
    by_cases here : caller = index
    · subst here
      have same := agreement.inserting was rfl
      rw [found] at same
      cases same
      obtain ⟨before, spent, inserted⟩ := portion
      constructor
      · rwa [offered]
      · rwa [offered]
      · have inside := (List.getElem?_eq_some_iff.mp was).1
        rw [Snapshot.ahead, was] at inserted
        rw [offered, pushedBy, if_pos rfl, ← inserted]
        simp [Snapshot.ahead, Snapshot.setOutline, inside, Outline.toInsert]
    · rw [if_neg here, List.append_nil] at pushedBy
      exact portion.untouched (List.getElem?_set_ne here) offered pushedBy
  | taken entry rest was stillOpen front =>
    refine portion.untouched (List.getElem?_set_ne (elsewhere was rfl)) offered (still ?_)
    rw [front]
    exact Nat.le_succ _
  | endedClosed was reason =>
    exact portion.untouched (List.getElem?_set_ne (elsewhere was rfl)) offered
      (still (Nat.le_refl _))
  | endedDone was reason =>
    exact portion.untouched (List.getElem?_set_ne (elsewhere was rfl)) offered
      (still (Nat.le_refl _))

/-- A step that does nothing to producers and their calls. -/
theorem others {event : Executor.Event ρ α β} (account : Account assignment snapshot history)
    (phases : next.phases = snapshot.phases)
    (outlines : ∀ index < snapshot.phases.length,
      next.outlines[index]? = snapshot.outlines[index]?)
    (silent : ∀ index record, event ≠ .producer index (.offered record))
    (pushed : (history.extend snapshot event next).pushed = history.pushed) :
    Account assignment next (history.extend snapshot event next) := by
  intro index phase found
  rw [phases] at found
  have pushedBy : (history.extend snapshot event next).pushedBy index =
      history.pushedBy index := by
    rw [History.pushedBy, pushed, History.pushedBy]
  exact (account index phase found).untouched
    (outlines index (List.getElem?_eq_some_iff.mp found).1)
    (History.offeredTo_extend_others silent index) pushedBy

/-- A step of one producer. -/
theorem set {event : Executor.Event ρ α β} (account : Account assignment snapshot history)
    (phases : next.phases = snapshot.phases.set index new)
    (outlines : ∀ other, index ≠ other → next.outlines[other]? = snapshot.outlines[other]?)
    (silent : ∀ other record, event = .producer other (.offered record) → other = index)
    (apart : ∀ caller, event ≠ .enterQueue caller)
    (mine : Portion assignment next (history.extend snapshot event next) index new) :
    Account assignment next (history.extend snapshot event next) := by
  intro other phase found
  rw [phases] at found
  by_cases here : index = other
  · subst here
    have inside := (List.getElem?_eq_some_iff.mp found).1
    rw [List.length_set] at inside
    rw [List.getElem?_set_self inside] at found
    cases found
    exact mine
  · rw [List.getElem?_set_ne here] at found
    have offered : (history.extend snapshot event next).offeredTo other =
        history.offeredTo other := by
      cases event with
      | producer caller act =>
        cases act with
        | offered record =>
          rw [silent caller record rfl, History.offeredTo_extend, if_neg here, List.append_nil]
        | _ => rfl
      | _ => rfl
    exact (account other phase found).untouched (outlines other here) offered
      (History.pushedBy_extend_others apart other)

/-- A producer goes from one phase to another, with nothing new in hand. -/
theorem turned {act : Executor.ProducerAct ρ α} (account : Account assignment snapshot history)
    (was : snapshot.phases[index]? = some old)
    (phases : next.phases = snapshot.phases.set index new)
    (outlines : next.outlines = snapshot.outlines ∨
      ∃ outline, next.outlines = snapshot.outlines.set index outline)
    (silent : ∀ record, act ≠ .offered record)
    (ahead : next.ahead assignment (history.offeredTo index) index new =
      snapshot.ahead assignment (history.offeredTo index) index old)
    (spent : new.isSpent = true → history.offeredTo index = assignment.records index) :
    Account assignment next (history.extend snapshot (.producer index act) next) := by
  refine account.set phases ?_ ?_ (by simp) ?_
  · intro other apart
    rcases outlines with same | ⟨outline, set⟩
    · rw [same]
    · rw [set, List.getElem?_set_ne apart]
  · intro other record same
    cases same
    exact absurd rfl (silent record)
  · refine (account index old was).turn (History.offeredTo_extend_others ?_ index)
      (History.pushedBy_extend_others (by simp) index) ahead spent
    intro other record same
    cases same
    exact absurd rfl (silent record)

theorem producer {chronicle : Chronicle ρ α β} {worker : ProducerWorker ρ}
    {act : Executor.ProducerAct ρ α} {executor : Executor ρ α β}
    (account : Account assignment chronicle.executor.snapshot chronicle.history)
    (found : chronicle.executor.producers[index]? = some worker)
    (assigned : assignment.Assigns chronicle index act)
    (step : Executor.ProducerStep chronicle.executor index worker act executor) :
    Account assignment executor.snapshot
      (chronicle.history.extend chronicle.executor.snapshot (.producer index act)
        executor.snapshot) := by
  have phase := Executor.phases_getElem? found
  have portion := account index worker.phase phase
  cases step with
  | hooked was =>
    rw [was] at phase
    rw [Executor.snapshot_setProducerPhase]
    exact account.turned phase rfl (.inl rfl) (by simp) rfl fun spent =>
      absurd spent Bool.false_ne_true
  | offered answer record was =>
    rw [was] at phase portion
    rw [Executor.snapshot_setProducerPhase]
    refine account.set rfl (fun _ _ => rfl) ?_ (by simp) (portion.offer rfl assigned ?_ rfl)
    · intro other _ same
      cases same
      rfl
    · rw [History.offeredTo_extend, if_pos rfl]
  | exhausted answer was =>
    rw [was] at phase portion
    rw [Executor.snapshot_setProducerPhase]
    exact account.turned phase rfl (.inl rfl) (by simp) rfl fun _ =>
      portion.offered.eq_of_length_le assigned
  | checked record was =>
    rw [was] at phase
    rw [Executor.snapshot_setProducerPhase]
    exact account.turned phase rfl (.inl rfl) (by simp) rfl fun spent =>
      absurd spent Bool.false_ne_true
  | inserts record entry shared was began =>
    rw [was] at phase
    obtain ⟨free, queue, outlines⟩ := SharedQueue.insert_outline began
    have inside := (List.getElem?_eq_some_iff.mp free).1
    cases (Assignment.due?_eq found was).symm.trans assigned
    rw [Executor.snapshot_setProducerPhase, Executor.snapshot_of_shared
      (SharedQueue.sameContents_of_eq queue) outlines]
    refine account.turned phase rfl (.inr ⟨_, rfl⟩) (by simp) ?_ fun spent =>
      absurd spent Bool.false_ne_true
    have set : (chronicle.executor.snapshot.outlines.set index
        (.inserting (assignment.transform index
          ((chronicle.history.offeredTo index).length - 1) record)))[index]? = some _ :=
      List.getElem?_set_self inside
    simp only [Snapshot.ahead, Snapshot.setPhase, Snapshot.setOutline]
    rw [set]
    rfl
  | measured size shared was folded =>
    obtain ⟨queue, outlines⟩ := SharedQueue.measured_outline folded
    rw [Executor.snapshot_of_same (SharedQueue.sameContents_of_eq queue) outlines]
    exact account.others rfl (fun _ _ => rfl) (by simp) rfl
  | accepted shared was replied left =>
    rw [was] at phase
    obtain ⟨call, queue, outlines⟩ := SharedQueue.leave_outline replied left
    have inside := (List.getElem?_eq_some_iff.mp call).1
    rw [Executor.snapshot_setProducer, Executor.snapshot_of_shared
      (SharedQueue.sameContents_of_eq queue) outlines]
    refine account.turned phase rfl (.inr ⟨_, rfl⟩) (by simp) ?_ fun spent =>
      absurd spent Bool.false_ne_true
    have before : chronicle.executor.snapshot.outlines[index]? = some .inserted := call
    simp only [Snapshot.ahead]
    rw [before]
    rfl
  | reported measurement was =>
    rw [was] at phase portion
    rw [Executor.snapshot_record, Executor.snapshot_setProducerPhase]
    exact account.turned phase rfl (.inl rfl) (by simp) rfl fun _ => portion.spent rfl
  | marked was =>
    rw [was] at phase portion
    have stepped : chronicle.executor.stepQueue .markDone =
        some { chronicle.executor with shared := chronicle.executor.shared.markDone } := rfl
    rw [Executor.snapshot_setProducerPhase, Executor.snapshot_markDone stepped]
    exact account.turned phase rfl (.inl rfl) (by simp) rfl fun _ => portion.spent rfl

theorem consumer {act : Executor.ConsumerAct β} (account : Account assignment snapshot history)
    (move : ConsumerMove snapshot act next) :
    Account assignment next (history.extend snapshot (.consumer act) next) := by
  refine account.others move.frame.phases (fun index inside => ?_) (by simp) rfl
  have other : snapshot.phases.length ≠ index := by omega
  cases move with
  | starts | goesOn | receives | drains | closes | closed => exact List.getElem?_set_ne other
  | turned | reports | delivers | recorded | discarded | signalled => rfl

theorem caller {executor after : Executor ρ α β} {phase : ExecutePhase β}
    {act : Executor.ExecuteAct} {call : Nat}
    (account : Account assignment executor.snapshot history)
    (started : executor.snapshot.Started) (only : executor.executes = [phase])
    (step : Executor.CallerStep executor phase act after) :
    Account assignment after.snapshot
      (history.extend executor.snapshot (.executing call act) after.snapshot) := by
  cases step with
  | spawnsProducer worker named inside =>
    have unborn := started.frontier (.spawning worker) (by simp [Executor.snapshot, only]) worker rfl
    have was : executor.snapshot.phases[worker]? = some .unborn := by
      obtain ⟨old, found⟩ : ∃ old, executor.snapshot.phases[worker]? = some old :=
        ⟨_, List.getElem?_eq_getElem (by simpa using inside)⟩
      rwa [unborn.2 worker old (Nat.le_refl _) found] at found
    rw [Executor.snapshot_setExecute, Executor.snapshot_setProducerPhase]
    refine account.set rfl (fun _ _ => rfl) (by simp) (by simp)
      ((account worker .unborn was).turn rfl rfl ?_ ?_)
    · split
      · rfl
      · rfl
    · split
      · exact fun spent => absurd spent Bool.false_ne_true
      · exact fun spent => absurd spent Bool.false_ne_true
  | spawnsPull worker shared named last began =>
    obtain ⟨-, -, outlines⟩ := SharedQueue.pull_outline began
    refine account.others rfl (fun index inside => ?_) (by simp) rfl
    rw [Executor.length_phases] at inside
    have same : shared.outlines[index]? = executor.shared.outlines[index]? := by
      rw [outlines, List.getElem?_set_ne (by omega)]
    exact same
  | enters | takesParts | takesSender | takesReceiver | starts | fails | spawnsHook | receives
  | givesUp | timesOut | checksFlag | checksSlot | judges | settles | records =>
    exact account.others rfl (fun _ _ => rfl) (by simp) rfl

theorem step {chronicle : Chronicle ρ α β} {event : Executor.Event ρ α β}
    {executor : Executor ρ α β} {producers : Nat}
    (account : Account assignment chronicle.executor.snapshot chronicle.history)
    (reached : Reached producers chronicle.executor.snapshot chronicle.history)
    (calm : chronicle.executor.Calm) (permitted : assignment.Permits chronicle event)
    (stepped : chronicle.executor.step event = some executor) :
    Account assignment executor.snapshot
      (chronicle.history.extend chronicle.executor.snapshot event executor.snapshot) := by
  cases calm.step permitted stepped with
  | enters caller shared entered =>
    rcases Executor.snapshot_enter stepped with move | same
    · exact account.queue reached.agreement calm.queue.stillOpen move
    · rw [same]
      refine account.others rfl (fun _ _ => rfl) (by simp) ?_
      simp [History.extend]
  | notifies caller target shared notified =>
    obtain ⟨queue, outlines⟩ := SharedQueue.notify_outline notified
    rw [Executor.snapshot_of_same (SharedQueue.sameContents_of_eq queue) outlines]
    exact account.others rfl (fun _ _ => rfl) (by simp) rfl
  | reports caller shared reported =>
    obtain ⟨queue, outlines⟩ := SharedQueue.report_outline reported
    rw [Executor.snapshot_of_same (SharedQueue.sameContents_of_eq queue) outlines]
    exact account.others rfl (fun _ _ => rfl) (by simp) rfl
  | producer found step => exact account.producer found permitted.2 step
  | consumer step => exact account.consumer (Executor.move_of_stepConsumer stepped)
  | begins none => exact account.others rfl (fun _ _ => rfl) (by simp) rfl
  | caller only step => exact account.caller reached.started only step

end Account

namespace Undisturbed

variable {config : ExecutorConfig} {hooked : Bool} {chronicle : Chronicle ρ α β}

theorem account (undisturbed : Undisturbed assignment config hooked chronicle) :
    Account assignment chronicle.executor.snapshot chronicle.history := by
  induction undisturbed with
  | start =>
    intro index phase found
    obtain ⟨worker, here, rfl⟩ := List.mem_map.mp (List.mem_of_getElem? found)
    obtain ⟨kind, -, rfl⟩ := List.mem_map.mp here
    exact ⟨List.nil_prefix, fun spent => absurd spent Bool.false_ne_true, rfl⟩
  | step undisturbed permitted stepped ih =>
    obtain ⟨executor, moved, rfl⟩ := Option.map_eq_some_iff.mp stepped
    exact ih.step undisturbed.reached undisturbed.calm permitted moved

end Undisturbed

end BoundedIngest

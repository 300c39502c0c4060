/-
Module: BoundedIngest.Proofs.Executor.Agreement
Purpose: Workers and their calls on the queue agree about what is going on.
Main exports:
  Errand, Snapshot.Agreement, Reached.agreement
-/
import BoundedIngest.Proofs.Executor.Started

namespace BoundedIngest

/-!
Who uses a queue and how far a call has come are kept in different places.  They never
disagree about what the call is for, and the producers marked done are those that ended.
-/

/-- What somebody wants from the queue. -/
inductive Errand where
  | nothing
  | insert
  | pull
  | close
deriving DecidableEq

variable {ρ α β : Type}

def Outline.errand : Outline α → Errand
  | .idle => .nothing
  | .inserting _ | .inserted | .refused => .insert
  | .pulling | .holding _ | .ended _ => .pull
  | .closing => .close

def ProducerPhase.errand : ProducerPhase ρ → Errand
  | .inserting => .insert
  | .closing => .close
  | _ => .nothing

def ConsumerPhase.errand : ConsumerPhase α β → Errand
  | .pulling => .pull
  | .closing => .close
  | _ => .nothing

def ShutdownPhase.errand : ShutdownPhase → Errand
  | .closing => .close
  | _ => .nothing

def ProducerPhase.isEnded : ProducerPhase ρ → Bool
  | .ended => true
  | _ => false

theorem ProducerPhase.errand_of_isBusy {phase : ProducerPhase ρ} (busy : phase.isBusy = true) :
    phase.errand = .nothing := by
  cases phase <;> first | rfl | contradiction

theorem ProducerPhase.not_isEnded_of_isBusy {phase : ProducerPhase ρ}
    (busy : phase.isBusy = true) : phase.isEnded = false := by
  cases phase <;> first | rfl | contradiction

namespace Snapshot

/-- What everybody wants from the queue, by position among the calls. -/
def errands (snapshot : Snapshot ρ α β) : List Errand :=
  snapshot.phases.map ProducerPhase.errand ++
    snapshot.consumer.errand :: snapshot.shutdowns.map ShutdownPhase.errand

structure Agreement (snapshot : Snapshot ρ α β) : Prop where
  calls : snapshot.outlines.map Outline.errand = snapshot.errands
  registered : snapshot.registered = snapshot.phases.length
  marks : snapshot.marks = snapshot.phases.countP ProducerPhase.isEnded
  produced : snapshot.produced.length = snapshot.phases.length

/-- A step that does nothing to what agreement speaks of. -/
structure SameErrands (snapshot next : Snapshot ρ α β) : Prop where
  outlines : next.outlines = snapshot.outlines := by rfl
  phases : next.phases = snapshot.phases := by rfl
  consumer : next.consumer.errand = snapshot.consumer.errand := by rfl
  shutdowns : next.shutdowns.map ShutdownPhase.errand =
    snapshot.shutdowns.map ShutdownPhase.errand := by rfl
  registered : next.registered = snapshot.registered := by rfl
  marks : next.marks = snapshot.marks := by rfl
  produced : next.produced.length = snapshot.produced.length := by rfl

variable {snapshot next : Snapshot ρ α β}

/-! ### How errands change -/

theorem errands_set_producer {phases : List (ProducerPhase ρ)} {index : Nat}
    {phase : ProducerPhase ρ} (inside : index < phases.length) (rest : List Errand) :
    (phases.set index phase).map ProducerPhase.errand ++ rest =
      (phases.map ProducerPhase.errand ++ rest).set index phase.errand := by
  rw [List.map_set, List.set_append_left index _ (by simpa using inside)]

theorem errands_set_consumer (phases : List (ProducerPhase ρ)) (first second : Errand)
    (rest : List Errand) :
    phases.map ProducerPhase.errand ++ second :: rest =
      (phases.map ProducerPhase.errand ++ first :: rest).set phases.length second := by
  rw [List.set_append_right _ _ (by simp)]
  simp

theorem errands_set_shutdown (phases : List (ProducerPhase ρ)) (first : Errand)
    (shutdowns : List ShutdownPhase) (call : Nat) (phase : ShutdownPhase) :
    phases.map ProducerPhase.errand ++
        first :: (shutdowns.set call phase).map ShutdownPhase.errand =
      (phases.map ProducerPhase.errand ++ first :: shutdowns.map ShutdownPhase.errand).set
        (phases.length + 1 + call) phase.errand := by
  have later : phases.length + 1 + call - phases.length = call + 1 := by omega
  rw [List.set_append_right _ _ (by simp; omega)]
  simp [later, List.map_set]

/-! ### What moves preserve -/

namespace Agreement

theorem queue {caller : Nat} (agreement : snapshot.Agreement)
    (move : QueueMove snapshot caller next) : next.Agreement := by
  obtain ⟨calls, registered, marks, produced⟩ := agreement
  have stays : ∀ {old new : Outline α}, snapshot.outlines[caller]? = some old →
      new.errand = old.errand →
      (snapshot.outlines.set caller new).map Outline.errand = snapshot.errands :=
    fun was same => (map_set_same was same).trans calls
  cases move with
  | refused entry was reason => exact ⟨stays was rfl, registered, marks, produced⟩
  | pushed entry was stillOpen => exact ⟨stays was rfl, registered, marks, produced⟩
  | taken entry rest was stillOpen front => exact ⟨stays was rfl, registered, marks, produced⟩
  | endedClosed was reason => exact ⟨stays was rfl, registered, marks, produced⟩
  | endedDone was reason => exact ⟨stays was rfl, registered, marks, produced⟩

theorem setPhase {index : Nat} {old new : ProducerPhase ρ} (agreement : snapshot.Agreement)
    (was : snapshot.phases[index]? = some old) (errand : new.errand = old.errand)
    (ended : new.isEnded = old.isEnded) : (snapshot.setPhase index new).Agreement := by
  obtain ⟨calls, registered, marks, produced⟩ := agreement
  have same := map_set_same was errand
  refine ⟨?_, by simpa [Snapshot.setPhase] using registered, ?_,
    by simpa [Snapshot.setPhase] using produced⟩
  · dsimp only [Snapshot.setPhase, errands]
    rw [same]
    exact calls
  · have counted := countP_set_add ProducerPhase.isEnded new was
    rw [ended] at counted
    dsimp only [Snapshot.setPhase, Snapshot.setOutline]
    omega

theorem setPhase_setOutline {index : Nat} {old new : ProducerPhase ρ} {outline : Outline α}
    (agreement : snapshot.Agreement) (was : snapshot.phases[index]? = some old)
    (errand : new.errand = outline.errand) (ended : new.isEnded = old.isEnded) :
    ((snapshot.setOutline index outline).setPhase index new).Agreement := by
  obtain ⟨calls, registered, marks, produced⟩ := agreement
  have inside : index < snapshot.phases.length := (List.getElem?_eq_some_iff.mp was).1
  refine ⟨?_, by simpa [Snapshot.setPhase, Snapshot.setOutline] using registered, ?_,
    by simpa [Snapshot.setPhase, Snapshot.setOutline] using produced⟩
  · dsimp only [Snapshot.setPhase, Snapshot.setOutline, errands]
    rw [errands_set_producer inside, List.map_set, calls, errand]
    rfl
  · have counted := countP_set_add ProducerPhase.isEnded new was
    rw [ended] at counted
    dsimp only [Snapshot.setPhase, Snapshot.setOutline]
    omega

/-- A producer that ends is counted by the queue. -/
theorem setPhase_ended {index : Nat} (agreement : snapshot.Agreement)
    (was : snapshot.phases[index]? = some .marking) :
    { snapshot.setPhase index .ended with
      marks := min (snapshot.marks + 1) snapshot.registered }.Agreement := by
  obtain ⟨calls, registered, marks, produced⟩ := agreement
  obtain ⟨inside, phase⟩ := List.getElem?_eq_some_iff.mp was
  have counted : (snapshot.phases.set index .ended).countP ProducerPhase.isEnded =
      snapshot.marks + 1 := by
    rw [List.countP_set inside, phase, marks]
    rfl
  have bounded : (snapshot.phases.set index .ended).countP ProducerPhase.isEnded ≤
      snapshot.registered := by
    have length : (snapshot.phases.set index .ended).length = snapshot.phases.length :=
      List.length_set ..
    rw [registered, ← length]
    exact List.countP_le_length
  refine ⟨?_, by simpa [Snapshot.setPhase] using registered, ?_,
    by simpa [Snapshot.setPhase] using produced⟩
  · have same : (snapshot.phases.set index .ended).map ProducerPhase.errand =
        snapshot.phases.map ProducerPhase.errand := map_set_same was rfl
    dsimp only [Snapshot.setPhase, errands]
    rw [same]
    exact calls
  · dsimp only [Snapshot.setPhase]
    omega

/-- Other fields may change as they like. -/
theorem of_same (agreement : snapshot.Agreement) (same : SameErrands snapshot next) :
    next.Agreement := by
  constructor
  · rw [same.outlines, agreement.calls, errands, errands, same.phases, same.consumer,
      same.shutdowns]
  · rw [same.registered, same.phases, agreement.registered]
  · rw [same.marks, same.phases, agreement.marks]
  · rw [same.produced, same.phases, agreement.produced]

theorem producer {index : Nat} (agreement : snapshot.Agreement)
    (move : ProducerMove snapshot index next) : next.Agreement := by
  cases move with
  | turned old new was busy stays =>
    apply agreement.setPhase was
    · rw [ProducerPhase.errand_of_isBusy busy, ProducerPhase.errand_of_isBusy stays]
    · rw [ProducerPhase.not_isEnded_of_isBusy busy, ProducerPhase.not_isEnded_of_isBusy stays]
  | inserts entry record was free => exact agreement.setPhase_setOutline was rfl rfl
  | measuringFailed entry error was call => exact agreement.setPhase_setOutline was rfl rfl
  | accepted count was call counted =>
    have moved : ((snapshot.setOutline index .idle).setPhase index
        (.sourcing none)).Agreement := agreement.setPhase_setOutline was rfl rfl
    exact moved.of_same { produced := List.length_set .. }
  | declined new was call stays =>
    exact agreement.setPhase_setOutline was (ProducerPhase.errand_of_isBusy stays)
      (ProducerPhase.not_isEnded_of_isBusy stays)
  | reported was =>
    rcases was with was | was
    · exact agreement.setPhase was rfl rfl
    · exact agreement.setPhase was rfl rfl
  | recorded error was first =>
    have moved : (snapshot.setPhase index .alarmed).Agreement := agreement.setPhase was rfl rfl
    exact moved.of_same {}
  | discarded error was late => exact agreement.setPhase was rfl rfl
  | closes was free =>
    have closed : snapshot.close.Agreement := agreement.of_same {}
    exact closed.setPhase_setOutline was rfl rfl
  | closed was => exact agreement.setPhase_setOutline was rfl rfl
  | signalled was =>
    have moved : (snapshot.setPhase index .marking).Agreement := agreement.setPhase was rfl rfl
    exact moved.of_same {}
  | marked was => exact agreement.setPhase_ended was

theorem setConsumer {consumer : ConsumerPhase α β} {outline : Outline α}
    (agreement : snapshot.Agreement) (errand : consumer.errand = outline.errand) :
    { snapshot.setOutline snapshot.phases.length outline with consumer }.Agreement := by
  obtain ⟨calls, registered, marks, produced⟩ := agreement
  refine ⟨?_, registered, marks, produced⟩
  dsimp only [Snapshot.setOutline, errands]
  rw [List.map_set, calls, errands, errand, ← errands_set_consumer]

theorem setShutdown {call : Nat} {phase : ShutdownPhase} {outline : Outline α}
    (agreement : snapshot.Agreement) (errand : phase.errand = outline.errand) :
    ((snapshot.setOutline (snapshot.phases.length + 1 + call) outline).setShutdown call
      phase).Agreement := by
  obtain ⟨calls, registered, marks, produced⟩ := agreement
  refine ⟨?_, registered, marks, produced⟩
  dsimp only [Snapshot.setOutline, Snapshot.setShutdown, errands]
  rw [List.map_set, calls, errands, errands_set_shutdown, errand]

theorem errand_of_turn {old new : ConsumerPhase α β} {act : Executor.ConsumerAct β}
    (turn : Executor.turnConsumer old act = some new) :
    new.errand = old.errand := by
  unfold Executor.turnConsumer at turn
  split at turn <;> cases turn <;> rfl

theorem consumer {act : Executor.ConsumerAct β} (agreement : snapshot.Agreement)
    (move : ConsumerMove snapshot act next) : next.Agreement := by
  cases move with
  | turned act new turn => exact agreement.of_same { consumer := errand_of_turn turn }
  | starts was free => exact agreement.setConsumer rfl
  | goesOn entry was free => exact agreement.setConsumer rfl
  | receives entry was call => exact agreement.setConsumer rfl
  | drains status was call => exact agreement.setConsumer rfl
  | reports status was =>
    refine agreement.of_same { consumer := ?_ }
    rw [was]
    cases status <;> rfl
  | delivers result was => exact agreement.of_same { consumer := by rw [was]; rfl }
  | recorded error was first =>
    exact agreement.of_same { consumer := by rw [was]; rfl }
  | discarded error was late =>
    exact agreement.of_same { consumer := by rw [was]; rfl }
  | closes was free =>
    have closed : snapshot.close.Agreement := agreement.of_same {}
    exact closed.setConsumer rfl
  | closed was => exact agreement.setConsumer rfl
  | signalled was => exact agreement.of_same { consumer := by rw [was]; rfl }

/-- A shutdown begins with a call that is idle. -/
theorem begins (agreement : snapshot.Agreement) :
    ({ snapshot with
      outlines := snapshot.outlines ++ [.idle]
      shutdowns := snapshot.shutdowns ++ [.entering] } : Snapshot ρ α β).Agreement := by
  obtain ⟨calls, registered, marks, produced⟩ := agreement
  refine ⟨?_, registered, marks, produced⟩
  dsimp only [errands]
  rw [List.map_append, List.map_append, calls, errands]
  simp [Outline.errand, ShutdownPhase.errand]

/-- Nobody is spawned twice, so spawning takes no call away from anybody. -/
theorem caller {call : Nat} (agreement : snapshot.Agreement) (started : snapshot.Started)
    (move : CallerMove snapshot call next) : next.Agreement := by
  cases move with
  | takesParts was => exact agreement.of_same {}
  | spawnsProducer worker new was inside born =>
    have unborn := started.frontier _ (List.mem_of_getElem? was) worker rfl
    obtain ⟨old, found⟩ : ∃ old, snapshot.phases[worker]? = some old :=
      ⟨_, List.getElem?_eq_getElem inside⟩
    have same := unborn.2 worker old (Nat.le_refl _) found
    subst same
    have moved : (snapshot.setPhase worker new).Agreement :=
      agreement.setPhase found (ProducerPhase.errand_of_isBusy born)
        (ProducerPhase.not_isEnded_of_isBusy born)
    exact moved.of_same {}
  | spawnsHook worker was last =>
    have unborn := started.frontier _ (List.mem_of_getElem? was) worker rfl
    exact agreement.of_same { consumer := by rw [unborn.1]; rfl }
  | spawnsPull worker was last free =>
    have moved : { snapshot.setOutline snapshot.phases.length .pulling with
        consumer := .pulling }.Agreement := agreement.setConsumer rfl
    exact moved.of_same {}
  | receives message rest was front => exact agreement.of_same {}
  | withdraws reason was =>
    have begun := agreement.begins
    exact begun.of_same {}
  | proceeds old new was turn => exact agreement.of_same {}

theorem user (agreement : snapshot.Agreement) (move : UserMove snapshot next) :
    next.Agreement := by
  cases move with
  | executes => exact agreement.of_same {}
  | begins => exact agreement.begins
  | closes call was free =>
    have closed : snapshot.close.Agreement := agreement.of_same {}
    exact closed.setShutdown rfl
  | closed call was => exact agreement.setShutdown rfl
  | advances call old new was turn =>
    have same : new.errand = old.errand := by
      rcases turn with ⟨rfl, rfl⟩ | ⟨rfl, rfl⟩ <;> rfl
    exact agreement.of_same { shutdowns := map_set_same was same }

theorem move {event : Executor.Event ρ α β} (agreement : snapshot.Agreement)
    (started : snapshot.Started) (move : Move snapshot event next) : next.Agreement := by
  cases move with
  | queue move => exact agreement.queue move
  | producer move => exact agreement.producer move
  | consumer move => exact agreement.consumer move
  | caller move => exact agreement.caller started move
  | user mine move => exact agreement.user move
  | still others => exact agreement

/-! ### What agreement tells -/

/-- Whoever a call belongs to wants what the call is for. -/
theorem owner {caller : Nat} {outline : Outline α} (agreement : snapshot.Agreement)
    (found : snapshot.outlines[caller]? = some outline) :
    (∃ phase, snapshot.phases[caller]? = some phase ∧ phase.errand = outline.errand) ∨
      (caller = snapshot.phases.length ∧ snapshot.consumer.errand = outline.errand) ∨
      ∃ call phase, caller = snapshot.phases.length + 1 + call ∧
        snapshot.shutdowns[call]? = some phase ∧ phase.errand = outline.errand := by
  have errand : snapshot.errands[caller]? = some outline.errand := by
    rw [← agreement.calls]
    simp [found]
  rw [errands] at errand
  by_cases inside : caller < snapshot.phases.length
  · left
    rw [List.getElem?_append_left (by simpa using inside), List.getElem?_map,
      Option.map_eq_some_iff] at errand
    exact errand
  · right
    rw [List.getElem?_append_right (by simpa using inside), List.length_map] at errand
    cases position : caller - snapshot.phases.length with
    | zero =>
      rw [position] at errand
      exact .inl ⟨by omega, Option.some.inj errand⟩
    | succ call =>
      rw [position, List.getElem?_cons_succ, List.getElem?_map,
        Option.map_eq_some_iff] at errand
      obtain ⟨phase, found, same⟩ := errand
      exact .inr ⟨call, phase, by omega, found, same⟩

/-- Only producers insert. -/
theorem inserting {caller : Nat} {outline : Outline α} (agreement : snapshot.Agreement)
    (found : snapshot.outlines[caller]? = some outline) (insert : outline.errand = .insert) :
    snapshot.phases[caller]? = some .inserting := by
  rcases agreement.owner found with ⟨phase, here, same⟩ | ⟨-, same⟩ | ⟨call, phase, -, -, same⟩
  · rw [here]
    rw [insert] at same
    cases phase <;> first | rfl | contradiction
  · rw [insert] at same
    cases consumer : snapshot.consumer <;> rw [consumer] at same <;> contradiction
  · rw [insert] at same
    cases phase <;> contradiction

/-- Only the consumer pulls. -/
theorem pulling {caller : Nat} {outline : Outline α} (agreement : snapshot.Agreement)
    (found : snapshot.outlines[caller]? = some outline) (pull : outline.errand = .pull) :
    caller = snapshot.phases.length ∧ snapshot.consumer = .pulling := by
  rcases agreement.owner found with ⟨phase, here, same⟩ | ⟨rfl, same⟩ | ⟨call, phase, -, -, same⟩
  · rw [pull] at same
    cases phase <;> contradiction
  · refine ⟨rfl, ?_⟩
    rw [pull] at same
    cases consumer : snapshot.consumer <;> rw [consumer] at same <;> first | rfl | contradiction
  · rw [pull] at same
    cases phase <;> contradiction

theorem consumer_outline (agreement : snapshot.Agreement) :
    ∃ outline, snapshot.outlines[snapshot.phases.length]? = some outline ∧
      outline.errand = snapshot.consumer.errand := by
  have errand : (snapshot.outlines.map Outline.errand)[snapshot.phases.length]? =
      some snapshot.consumer.errand := by
    rw [agreement.calls, errands, List.getElem?_append_right (by simp)]
    simp
  rw [List.getElem?_map, Option.map_eq_some_iff] at errand
  exact errand

theorem producer_outline {index : Nat} {phase : ProducerPhase ρ}
    (agreement : snapshot.Agreement) (found : snapshot.phases[index]? = some phase) :
    ∃ outline, snapshot.outlines[index]? = some outline ∧ outline.errand = phase.errand := by
  have inside : index < snapshot.phases.length := (List.getElem?_eq_some_iff.mp found).1
  have errand : (snapshot.outlines.map Outline.errand)[index]? = some phase.errand := by
    rw [agreement.calls, errands, List.getElem?_append_left (by simpa using inside)]
    simp [found]
  rw [List.getElem?_map, Option.map_eq_some_iff] at errand
  exact errand

theorem length_outlines (agreement : snapshot.Agreement) :
    snapshot.outlines.length = snapshot.phases.length + 1 + snapshot.shutdowns.length := by
  have same := congrArg List.length agreement.calls
  simp only [errands, List.length_map, List.length_append, List.length_cons] at same
  omega

/-- The queue takes all producers to be done only once every one of them has ended. -/
theorem all_ended (agreement : snapshot.Agreement)
    (finished : snapshot.registered ≤ snapshot.marks) :
    ∀ phase ∈ snapshot.phases, phase = .ended := by
  rw [agreement.registered, agreement.marks] at finished
  have all := List.countP_eq_length.mp (Nat.le_antisymm List.countP_le_length finished)
  intro phase found
  have ended := all phase found
  cases phase <;> first | rfl | contradiction

theorem marks_of_all_ended (agreement : snapshot.Agreement)
    (ended : ∀ phase ∈ snapshot.phases, phase = .ended) :
    snapshot.marks = snapshot.registered := by
  rw [agreement.marks, agreement.registered, List.countP_eq_length]
  intro phase found
  rw [ended phase found]
  rfl

end Agreement

theorem agreement_start (producers : Nat) : (start producers : Snapshot ρ α β).Agreement := by
  refine ⟨?_, by simp [start], ?_, by simp [start]⟩
  · simp [start, errands, List.replicate_succ', Outline.errand, ProducerPhase.errand,
      ConsumerPhase.errand]
  · simp [start, List.countP_replicate, ProducerPhase.isEnded]

end Snapshot

theorem Reached.agreement {producers : Nat} {snapshot : Snapshot ρ α β}
    {history : History ρ α β} (reached : Reached producers snapshot history) :
    snapshot.Agreement := by
  induction reached with
  | start => exact Snapshot.agreement_start producers
  | move reached move ih => exact ih.move reached.started move

end BoundedIngest

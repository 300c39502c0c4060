/-
Module: BoundedIngest.Proofs.Executor.Promptness
Purpose: Once somebody has closed the queue, nobody begins to wait in it, and no worker goes on
  for long.
Main exports:
  Snapshot.HasClosed, Reached.isOver_of_hasClosed, Executor.clears_of_run, Snapshot.Spent,
  Executor.countP_checksFlag, Chronicle.cancellation_is_prompt
-/
import BoundedIngest.Proofs.Executor.Listening
import BoundedIngest.Proofs.Queue.Release

namespace BoundedIngest

/-!
A shutdown and the listener of the failure slot close the queue.  From then on the queue is
over: it is closed, or it was done before and stays so.  An insert into such a queue is refused
and a pull finds its end, so a source that is not told of the close learns of it with the next
record it offers.
-/

variable {ρ α β : Type}

/-! ### The queue is over -/

namespace Snapshot

variable {snapshot next : Snapshot ρ α β} {history : History ρ α β}
  {event : Executor.Event ρ α β}

/-- A shutdown has closed the queue, or the listener of the failure slot has.  This begins with
the close itself, so it is so all the more once that has returned. -/
inductive HasClosed (snapshot : Snapshot ρ α β) : Prop
  | shutdown (phase : ShutdownPhase) (found : phase ∈ snapshot.shutdowns)
      (begun : phase ≠ .entering)
  | listener (failure : CapturedFailure) (captured : snapshot.failure = some failure)
      (past : ¬ snapshot.Summons failure.role)

theorem isOver_iff : snapshot.isOver = true ↔ snapshot.closed = true ∨ snapshot.Done := by
  constructor
  · intro atEnd
    cases closed : snapshot.closed with
    | true => exact .inl rfl
    | false =>
      have facts : snapshot.registered ≤ snapshot.marks ∧ snapshot.buffer = [] := by
        simpa [isOver, closed] using atEnd
      exact .inr ⟨closed, facts⟩
  · rintro (closed | done)
    · simp [isOver, closed]
    · exact done.isOver

/-- What is over remains so. -/
theorem isOver_of_move (agreement : snapshot.Agreement) (atEnd : snapshot.isOver = true)
    (move : Move snapshot event next) : next.isOver = true := by
  rw [isOver_iff] at atEnd ⊢
  rcases atEnd with closed | done
  · exact .inl (move.closed closed)
  · exact .inr (done.move agreement move)

/-- Nobody is about to insert into a queue that is done. -/
theorem closed_of_inserting {caller : Nat} {outline : Outline α} (agreement : snapshot.Agreement)
    (atEnd : snapshot.isOver = true) (found : snapshot.outlines[caller]? = some outline)
    (insert : outline.errand = .insert) : snapshot.closed = true := by
  rcases isOver_iff.mp atEnd with closed | done
  · exact closed
  · have here := agreement.inserting found insert
    have ended := agreement.all_ended done.2.1 _ (List.mem_of_getElem? here)
    contradiction

/-- A queue that is over stays open only if it is done. -/
theorem closed_of_isOver (agreement : snapshot.Agreement) (atEnd : snapshot.isOver = true)
    (move : Move snapshot event next) : next.closed = snapshot.closed := by
  rcases isOver_iff.mp atEnd with closed | done
  · rw [closed, move.closed closed]
  · rw [done.1, (done.move agreement move).1]

end Snapshot

theorem Reached.isOver_of_hasClosed {producers : Nat} {snapshot : Snapshot ρ α β}
    {history : History ρ α β} (reached : Reached producers snapshot history)
    (hasClosed : snapshot.HasClosed) : snapshot.isOver = true := by
  rw [Snapshot.isOver_iff]
  cases hasClosed with
  | shutdown phase found begun => exact reached.shut phase found begun
  | listener failure captured past =>
    have summoned : ∀ role, snapshot.Summons role → snapshot.Summons failure.role := by
      intro role summons
      obtain ⟨holder, held, rfl⟩ := reached.liable role summons.owes
      cases captured.symm.trans held
      exact summons
    rcases reached.sealed (by simp [captured]) with closed | done | alarmed | alarmed
    · exact .inl closed
    · exact .inr done
    · obtain ⟨index, found⟩ := List.mem_iff_getElem?.mp alarmed
      exact absurd (summoned (.producer index) found) past
    · exact absurd (summoned .consumer alarmed) past

/-! ### Nobody begins to wait -/

namespace Executor

variable {executor next final : Executor ρ α β} {event : Event ρ α β} {index producers : Nat}
  {history : History ρ α β}

/-- No step makes anybody wait in a queue that is over. -/
theorem clears_of_step (atEnd : executor.snapshot.isOver = true)
    (attended : executor.shared.Attended) (stepped : executor.step event = some next) :
    executor.shared.Clears next.shared := by
  have shut : executor.shared.queue.isClosable = false := by
    simpa [isOver_snapshot] using atEnd
  cases used_of_step stepped with
  | untouched queue calls => exact (SharedQueue.Clears.refl _).onto calls
  | stepped event middle moved queue calls =>
    exact (SharedQueue.clears_of_step shut attended.positive moved).onto calls
  | joined queue calls => exact SharedQueue.clears_append calls

/-- By induction on the steps. -/
theorem clears_of_run {events : List (Event ρ α β)}
    (reached : Reached producers executor.snapshot history)
    (atEnd : executor.snapshot.isOver = true) (attended : executor.shared.Attended)
    (ran : executor.run events = some final) : executor.shared.Clears final.shared := by
  induction events generalizing executor history with
  | nil =>
    cases ran
    exact .refl _
  | cons event rest ih =>
    obtain ⟨middle, stepped, ran⟩ := Option.bind_eq_some_iff.mp ran
    have move := move_of_step stepped
    exact (clears_of_step atEnd attended stepped).trans
      (ih (.move reached move) (Snapshot.isOver_of_move reached.agreement atEnd move)
        (attended.used (used_of_step stepped)) ran)

/-- Whoever waits in a queue that is over waits only for the close to go on. -/
theorem soonReleased_of_isWaiting {call : Call α}
    (reached : Reached producers executor.snapshot history)
    (atEnd : executor.snapshot.isOver = true) (attended : executor.shared.Attended)
    (found : call ∈ executor.shared.calls) (waits : call.isWaiting = true) :
    executor.shared.SoonReleased := by
  refine SharedQueue.soonReleased attended ?_ found waits
  cases room : call.isAwaitingRoom with
  | true =>
    obtain ⟨caller, here⟩ := List.mem_iff_getElem?.mp found
    have outline : executor.snapshot.outlines[caller]? = some call.outline :=
      SharedQueue.outlines_getElem? here
    refine Snapshot.closed_of_inserting reached.agreement atEnd outline ?_
    cases call <;> first | rfl | contradiction
  | false =>
    have entry : call.isAwaitingEntry = true := by simpa [Call.isWaiting, room] using waits
    rcases Snapshot.isOver_iff.mp atEnd with closed | done
    · exact closed
    · have unfinished := attended.unfinished done.1 (List.countP_pos_iff.mpr ⟨call, found, entry⟩)
      have finished : executor.shared.queue.producersFinished = true := by
        simpa [Queue.producersFinished, snapshot] using done.2.1
      rw [unfinished] at finished
      contradiction

end Executor

/-! ### Producers give up -/

/-- The producer has looked at its flag for the last time, unless its source is a procedure: what
it has in hand is the last it has. -/
def ProducerPhase.isPast : ProducerPhase ρ → Bool
  | .transforming _ | .reporting _ | .failing _ | .alarmed | .closing | .signalling | .marking
  | .ended => true
  | _ => false

namespace Snapshot

/-- The producer will not look at its flag again: its last entry is about to be refused, or was. -/
def Spent (snapshot : Snapshot ρ α β) (index : Nat) : Prop :=
  ∃ phase, snapshot.phases[index]? = some phase ∧
    (phase.isPast = true ∨
      phase = .inserting ∧ snapshot.outlines[index]? ≠ some .inserted)

variable {snapshot next : Snapshot ρ α β} {event : Executor.Event ρ α β} {index : Nat}

theorem Spent.alive {phase : ProducerPhase ρ} (spent : snapshot.Spent index)
    (found : snapshot.phases[index]? = some phase) : phase ≠ .unborn := by
  obtain ⟨here, there, past | ⟨rfl, -⟩⟩ := spent
  · cases found.symm.trans there
    rintro rfl
    contradiction
  · cases found.symm.trans there
    simp

/-- Only a call that inserts into an open queue comes to have inserted. -/
theorem inserted_before {place : Nat} (move : Move snapshot event next)
    (found : next.outlines[place]? = some .inserted) :
    snapshot.outlines[place]? = some .inserted ∨
      (snapshot.closed = false ∧ ∃ entry, snapshot.outlines[place]? = some (.inserting entry)) := by
  have set : ∀ {caller : Nat} {outline : Outline α}, outline ≠ .inserted →
      next.outlines = snapshot.outlines.set caller outline →
      snapshot.outlines[place]? = some .inserted := by
    intro caller outline other outlines
    rw [outlines] at found
    exact before_of_set other found
  cases move with
  | queue move =>
    rename_i caller
    cases move with
    | pushed entry was stillOpen =>
      by_cases mine : caller = place
      · subst mine
        exact .inr ⟨stillOpen, entry, was⟩
      · exact .inl ((List.getElem?_set_ne mine).symm.trans found)
    | refused | taken | endedClosed | endedDone => exact .inl (set (by simp) rfl)
  | producer move =>
    cases move with
    | turned | reported | recorded | discarded | signalled | marked => exact .inl found
    | inserts | measuringFailed | accepted | declined | closes | closed =>
      exact .inl (set (by simp) rfl)
  | consumer move =>
    cases move with
    | turned | reports | delivers | recorded | discarded | signalled => exact .inl found
    | starts | goesOn | receives | drains | closes | closed => exact .inl (set (by simp) rfl)
  | caller move =>
    cases move with
    | spawnsPull => exact .inl (set (by simp) rfl)
    | withdraws =>
      rcases last_or_before found with ⟨-, new⟩ | before
      · contradiction
      · exact .inl before
    | takesParts | spawnsProducer | spawnsHook | receives | proceeds => exact .inl found
  | user mine move =>
    cases move with
    | executes | advances => exact .inl found
    | begins =>
      rcases last_or_before found with ⟨-, new⟩ | before
      · contradiction
      · exact .inl before
    | closes | closed => exact .inl (set (by simp) rfl)
  | still others => exact .inl found

/-- Nobody comes to have inserted into a queue that is over. -/
theorem not_inserted_of_move (agreement : snapshot.Agreement) (atEnd : snapshot.isOver = true)
    (move : Move snapshot event next) (other : snapshot.outlines[index]? ≠ some .inserted) :
    next.outlines[index]? ≠ some .inserted := by
  intro found
  rcases inserted_before move found with before | ⟨stillOpen, entry, inserting⟩
  · exact other before
  · have closed := closed_of_inserting agreement atEnd inserting rfl
    rw [stillOpen] at closed
    contradiction

/-- Whatever others do, a producer whose last entry is about to be refused has no other. -/
theorem Spent.others (spent : snapshot.Spent index) (agreement : snapshot.Agreement)
    (started : snapshot.Started) (atEnd : snapshot.isOver = true) (move : Move snapshot event next)
    (others : ∀ act, event ≠ .producer index act) : next.Spent index := by
  obtain ⟨phase, found, how⟩ := id spent
  refine ⟨phase, move.phase started others (spent.alive found) found, ?_⟩
  apply how.imp_right
  rintro ⟨inserting, other⟩
  exact ⟨inserting, not_inserted_of_move agreement atEnd move other⟩

end Snapshot

namespace Executor

variable {executor next final : Executor ρ α β} {event : Event ρ α β} {index producers : Nat}
  {history : History ρ α β} {worker : ProducerWorker ρ} {act : ProducerAct ρ α}
  {phase : ProducerPhase ρ} {kind : SourceKind}

/-- The sink looks at the flag of the producer.  If that is lowered, a transform begins. -/
def Event.checksFlag (index : Nat) : Event ρ α β → Bool
  | .producer place .checkFlag => place == index
  | _ => false

/-- An iterator that is told to halt is not pulled again. -/
theorem isPast_answered (iterates : kind ≠ .pushing) (halt : Halt) :
    (answered kind (some halt) : ProducerPhase ρ).isPast = true := by
  cases kind <;> first | rfl | contradiction

theorem isPast_afterReport (outcome : Option Halt) :
    (afterReport outcome : ProducerPhase ρ).isPast = true := by
  rcases outcome with - | - | error <;> rfl

/-- After the look at the flag the transform begins, or the source is told to halt. -/
theorem spent_of_check (iterates : ∀ worker, executor.producers[index]? = some worker →
      worker.kind ≠ .pushing)
    (stepped : executor.stepProducer index .checkFlag = some next) :
    next.snapshot.Spent index := by
  obtain ⟨worker, phase, found, there, turn | engages⟩ := onward_of_stepProducer stepped
  · refine ⟨phase, there, .inl ?_⟩
    unfold turnProducer at turn
    split at turn <;> first | contradiction | cases turn
    split
    · exact isPast_answered (iterates worker found) _
    · rfl
  · generalize worker.phase = old at engages
    cases engages

/-- The sink looks at the flag only after a record was offered. -/
theorem not_spent_of_check (stepped : executor.stepProducer index .checkFlag = some next) :
    ¬ executor.snapshot.Spent index := by
  obtain ⟨worker, phase, found, -, turn | engages⟩ := onward_of_stepProducer stepped
  · rintro ⟨here, there, how⟩
    cases (phases_getElem? found).symm.trans there
    unfold turnProducer at turn
    split at turn <;> first | contradiction | cases turn
    rename_i offering _
    rw [offering] at how
    rcases how with past | ⟨inserting, -⟩ <;> contradiction
  · generalize worker.phase = old at engages
    cases engages

/-- The reply that a producer takes is what its call has come to. -/
theorem reply_of_inserted (stepped : executor.stepProducer index .inserted = some next) :
    executor.snapshot.outlines[index]? = some .inserted ∨
      ∃ worker, executor.producers[index]? = some worker ∧
        next.snapshot.phases[index]? = some (answered worker.kind (some .cancelled)) := by
  unfold stepProducer at stepped
  split at stepped
  · contradiction
  rename_i worker found
  have turn : turnProducer worker (.inserted : ProducerAct ρ α) = none := by
    unfold turnProducer
    cases worker.phase <;> rfl
  rw [turn] at stepped
  unfold engageProducer at stepped
  dsimp only at stepped
  split at stepped <;> first | contradiction | skip
  split at stepped
  · rename_i taken
    exact .inl (snapshot_takeReply taken).1
  · rename_i middle taken
    cases stepped
    refine .inr ⟨worker, found, phases_setProducerPhase ?_⟩
    have there : middle.producers[index]? = some worker := by
      rw [(office_takeReply taken).2]
      exact found
    exact (List.getElem?_eq_some_iff.mp (phases_getElem? there)).1
  · contradiction

/-- A producer that is past its last look at the flag goes on to its end. -/
theorem past_of_goes (iterates : worker.kind ≠ .pushing) (past : worker.phase.isPast = true)
    (goes : turnProducer worker act = some phase ∨ Engages worker.kind worker.phase act phase) :
    phase.isPast = true ∨ phase = .inserting ∧ ∃ record, worker.phase = .transforming record := by
  rcases goes with turn | engages
  · left
    unfold turnProducer at turn
    split at turn
    case h_9 | h_10 =>
      cases turn
      exact isPast_answered iterates _
    case h_11 => contradiction
    all_goals
      rename_i before
      rw [before] at past
      contradiction
  · generalize before : worker.phase = old at engages past
    cases engages with
    | inserts record entry => exact .inr ⟨rfl, record, rfl⟩
    | measures | panics | accepted | refused => contradiction
    | reports outcome => exact .inl (isPast_afterReport outcome)
    | records error first => cases first <;> exact .inl rfl
    | closes | closed | signals | marks => exact .inl rfl

/-- Its own steps lead it on to its end as well. -/
theorem spent_of_stepProducer (spent : executor.snapshot.Spent index)
    (agreement : executor.snapshot.Agreement) (atEnd : executor.snapshot.isOver = true)
    (iterates : ∀ worker, executor.producers[index]? = some worker → worker.kind ≠ .pushing)
    (stepped : executor.stepProducer index act = some next) : next.snapshot.Spent index := by
  have move := move_of_stepProducer stepped
  have refused : executor.snapshot.outlines[index]? ≠ some .inserted →
      next.snapshot.phases[index]? = some .inserting → next.snapshot.Spent index :=
    fun other there =>
      ⟨.inserting, there, .inr ⟨rfl, Snapshot.not_inserted_of_move agreement atEnd move other⟩⟩
  obtain ⟨worker, new, found, there, goes⟩ := onward_of_stepProducer stepped
  have here := phases_getElem? found
  obtain ⟨phase, was, past | ⟨rfl, other⟩⟩ := spent
  · cases here.symm.trans was
    rcases past_of_goes (iterates worker found) past goes with past | ⟨rfl, record, old⟩
    · exact ⟨new, there, .inl past⟩
    · refine refused (fun inserted => ?_) there
      obtain ⟨outline, call, errand⟩ := agreement.producer_outline here
      cases call.symm.trans inserted
      rw [old] at errand
      contradiction
  · have inserting : worker.phase = .inserting := Option.some.inj (here.symm.trans was)
    rw [inserting] at goes
    rcases goes with turn | engages
    · unfold turnProducer at turn
      rw [inserting] at turn
      cases act <;> contradiction
    · have ends : act = .inserted → next.snapshot.Spent index := by
        rintro rfl
        rcases reply_of_inserted stepped with inserted | ⟨same, again, there⟩
        · exact absurd inserted other
        · exact ⟨_, there, .inl (isPast_answered (iterates same again) _)⟩
      cases engages with
      | measures => exact refused other there
      | panics => exact ⟨_, there, .inl rfl⟩
      | accepted | refused => exact ends rfl

/-- A producer of an iterator looks at its flag only once after the queue is over. -/
theorem spent_of_step (agreement : executor.snapshot.Agreement)
    (started : executor.snapshot.Started) (atEnd : executor.snapshot.isOver = true)
    (iterates : ∀ worker, executor.producers[index]? = some worker → worker.kind ≠ .pushing)
    (stepped : executor.step event = some next) :
    (event.checksFlag index = true → ¬ executor.snapshot.Spent index ∧ next.snapshot.Spent index) ∧
      (executor.snapshot.Spent index → next.snapshot.Spent index) := by
  constructor
  · intro checks
    unfold Event.checksFlag at checks
    split at checks
    · obtain rfl := beq_iff_eq.mp checks
      exact ⟨not_spent_of_check stepped, spent_of_check iterates stepped⟩
    · contradiction
  · intro spent
    by_cases own : ∃ act, event = .producer index act
    · obtain ⟨act, rfl⟩ := own
      exact spent_of_stepProducer spent agreement atEnd iterates stepped
    · exact spent.others agreement started atEnd (move_of_step stepped)
        fun act same => own ⟨act, same⟩

/-- By induction on the steps: a producer that is spent does not look at its flag again, and any
other does so at most once. -/
theorem countP_checksFlag {events : List (Event ρ α β)} {kinds : List SourceKind}
    (reached : Reached producers executor.snapshot history)
    (atEnd : executor.snapshot.isOver = true) (same : executor.office.kinds = kinds)
    (given : kinds[index]? = some kind) (iterates : kind ≠ .pushing)
    (ran : executor.run events = some final) :
    events.countP (Event.checksFlag index) ≤ 1 ∧
      (executor.snapshot.Spent index → events.countP (Event.checksFlag index) = 0) := by
  induction events generalizing executor history with
  | nil => exact ⟨Nat.zero_le 1, fun _ => rfl⟩
  | cons event rest ih =>
    obtain ⟨middle, stepped, ran⟩ := Option.bind_eq_some_iff.mp ran
    have move := move_of_step stepped
    have kept : middle.office.kinds = kinds := (officeMove_of_step stepped).kinds.trans same
    have isIterator : ∀ worker, executor.producers[index]? = some worker →
        worker.kind ≠ .pushing := by
      intro worker found
      have known : kinds[index]? = some worker.kind := by
        rw [← same]
        simp [office, found]
      cases given.symm.trans known
      exact iterates
    obtain ⟨checked, stays⟩ :=
      spent_of_step reached.agreement reached.started atEnd isIterator stepped
    obtain ⟨once, never⟩ := ih (.move reached move)
      (Snapshot.isOver_of_move reached.agreement atEnd move) kept ran
    cases checks : event.checksFlag index with
    | true =>
      obtain ⟨before, after⟩ := checked checks
      have none := never after
      rw [List.countP_cons_of_pos checks, none]
      exact ⟨Nat.le_refl 1, fun spent => absurd spent before⟩
    | false =>
      rw [List.countP_cons_of_neg (by simp [checks])]
      exact ⟨once, fun spent => never (stays spent)⟩

end Executor

/-! ### The consumer gives up -/

namespace Snapshot

variable {snapshot next : Snapshot ρ α β} {history : History ρ α β}
  {event : Executor.Event ρ α β}

/-- Nothing enters or leaves a queue that is over. -/
theorem buffer_of_isOver (agreement : snapshot.Agreement) (atEnd : snapshot.isOver = true)
    (move : Move snapshot event next) : next.buffer = snapshot.buffer := by
  have contents : snapshot.SameOrClosed next → next.buffer = snapshot.buffer := by
    rintro (⟨same, -⟩ | ⟨same, -⟩)
    · exact same
    · rw [same, Snapshot.close, atEnd]
      rfl
  cases move with
  | queue move =>
    cases move with
    | pushed entry was stillOpen =>
      have closed := closed_of_inserting agreement atEnd was rfl
      rw [stillOpen] at closed
      contradiction
    | taken entry rest was stillOpen front =>
      rcases isOver_iff.mp atEnd with closed | done
      · rw [stillOpen] at closed
        contradiction
      · rw [done.2.2] at front
        contradiction
    | refused | endedClosed | endedDone => rfl
  | producer move => exact contents move.frame.contents
  | consumer move => exact contents move.frame.contents
  | caller move => exact move.frame.buffer
  | user mine move => exact contents move.frame.contents
  | still others => rfl

/-- The queue is over, nothing was inserted or dropped in between, and nothing that was passed to
the consumer was taken back. -/
structure Steady (snapshot next : Snapshot ρ α β) (history later : History ρ α β) : Prop where
  atEnd : next.isOver = true
  buffer : next.buffer = snapshot.buffer
  pushed : later.pushed = history.pushed
  dropped : later.dropped = history.dropped
  passed : history.passed <+: later.passed

theorem steady_of_move (history : History ρ α β) (agreement : snapshot.Agreement)
    (atEnd : snapshot.isOver = true) (move : Move snapshot event next) :
    snapshot.Steady next history (history.extend snapshot event next) := by
  have buffer := buffer_of_isOver agreement atEnd move
  constructor
  · exact isOver_of_move agreement atEnd move
  · exact buffer
  · unfold History.extend
    dsimp only
    split
    · rw [buffer, List.drop_length, List.map_nil, List.append_nil]
    · rfl
  · exact History.dropped_extend_same (closed_of_isOver agreement atEnd move)
  · by_cases mine : ∃ act, event = .consumer act
    · obtain ⟨act, rfl⟩ := mine
      rw [History.passed_extend_consumer]
      exact List.prefix_append _ _
    · have same : (history.extend snapshot event next).passed = history.passed :=
        History.passed_extend_others fun act same => mine ⟨act, same⟩
      exact same ▸ List.prefix_rfl

theorem Steady.trans {middle : Snapshot ρ α β} {between later : History ρ α β}
    (first : snapshot.Steady middle history between)
    (second : middle.Steady next between later) : snapshot.Steady next history later :=
  { atEnd := second.atEnd
    buffer := second.buffer.trans first.buffer
    pushed := second.pushed.trans first.pushed
    dropped := second.dropped.trans first.dropped
    passed := first.passed.trans second.passed }

theorem length_inHand (snapshot : Snapshot ρ α β) : snapshot.inHand.length ≤ 1 := by
  unfold inHand
  cases snapshot.outlines[snapshot.phases.length]? with
  | none => exact Nat.zero_le 1
  | some outline => cases outline <;> simp [Outline.held]

end Snapshot

namespace Chronicle

variable {config : ExecutorConfig} {hooked : Bool} {kinds : List SourceKind}
  {events later : List (Executor.Event ρ α β)} {chronicle final : Chronicle ρ α β}
  {producers : Nat}

/-- By induction on the steps. -/
theorem steady_of_run
    (reached : Reached producers chronicle.executor.snapshot chronicle.history)
    (atEnd : chronicle.executor.snapshot.isOver = true) (ran : chronicle.run events = some final) :
    chronicle.executor.snapshot.Steady final.executor.snapshot chronicle.history
      final.history := by
  induction events generalizing chronicle with
  | nil =>
    cases ran
    exact ⟨atEnd, rfl, rfl, rfl, List.prefix_rfl⟩
  | cons event rest ih =>
    obtain ⟨middle, stepped, ran⟩ := Option.bind_eq_some_iff.mp ran
    have later := reached_of_step reached stepped
    obtain ⟨executor, moved, rfl⟩ := Option.map_eq_some_iff.mp stepped
    have first := Snapshot.steady_of_move chronicle.history reached.agreement atEnd
      (Executor.move_of_step moved)
    exact first.trans (ih later first.atEnd ran)

/-- All that is still passed to the consumer is what its pull has taken before. -/
theorem passed_of_run
    (reached : Reached producers chronicle.executor.snapshot chronicle.history)
    (atEnd : chronicle.executor.snapshot.isOver = true) (ran : chronicle.run events = some final) :
    ∃ extra, final.history.passed = chronicle.history.passed ++ extra ∧
      extra <+: chronicle.executor.snapshot.inHand := by
  have steady := steady_of_run reached atEnd ran
  have before := reached.order.order
  have after := (reached_of_run reached ran).order.order
  obtain ⟨extra, grown⟩ := steady.passed
  rw [steady.pushed, before, steady.buffer, steady.dropped, ← grown] at after
  refine ⟨extra, grown.symm, final.executor.snapshot.inHand, ?_⟩
  have taken := List.append_cancel_right (List.append_cancel_right after)
  rw [List.append_assoc] at taken
  exact (List.append_cancel_left taken).symm

/-- Take any run in which a shutdown or the listener of the failure slot has closed the queue,
and whatever comes after.  Nobody begins to wait inside the queue any more, and once no close has
notifications left to send, nobody waits there for good.  As long as one has, whoever still waits
is released by at most two steps of that close.  A producer with an iterator, however long that
is, comes to at most one more transform.  And the consumer is passed at most one more entry, one
that its pull had taken before. -/
theorem cancellation_is_prompt (ran : (start config hooked kinds).run events = some chronicle)
    (hasClosed : chronicle.executor.snapshot.HasClosed)
    (goesOn : chronicle.run later = some final) :
    (∀ (caller : Nat) (call : Call α), final.executor.shared.calls[caller]? = some call →
      call.isWaiting = true → chronicle.executor.shared.calls[caller]? = some call) ∧
    (final.executor.shared.Released ∨ final.executor.shared.SoonReleased) ∧
    ((∀ call ∈ chronicle.executor.shared.calls, call.wakesPulls = false) →
      final.executor.shared.Released) ∧
    (∀ (index : Nat) (kind : SourceKind), kinds[index]? = some kind → kind ≠ .pushing →
      later.countP (Executor.Event.checksFlag index) ≤ 1) ∧
    ∃ extra, final.history.passed = chronicle.history.passed ++ extra ∧
      extra <+: chronicle.executor.snapshot.inHand ∧ extra.length ≤ 1 := by
  have reached := reached_of_start ran
  have atEnd := reached.isOver_of_hasClosed hasClosed
  have attended : chronicle.executor.shared.Attended :=
    Executor.attended_of_run (Executor.attended_create config hooked kinds) (executor_of_run ran)
  have clears := Executor.clears_of_run reached atEnd attended (executor_of_run goesOn)
  have waiters : final.executor.shared.Released ∨ final.executor.shared.SoonReleased := by
    by_cases nobody : final.executor.shared.Released
    · exact .inl nobody
    · obtain ⟨call, found, waits⟩ :
          ∃ call ∈ final.executor.shared.calls, call.isWaiting = true := by
        simpa [SharedQueue.Released] using nobody
      have reachedFinal := reached_of_run reached goesOn
      have overFinal := (steady_of_run reached atEnd goesOn).atEnd
      have attendedFinal := Executor.attended_of_run attended (executor_of_run goesOn)
      exact .inr
        (Executor.soonReleased_of_isWaiting reachedFinal overFinal attendedFinal found waits)
  refine ⟨clears.waits, waiters, fun noClose => ?_, fun index kind given iterates => ?_, ?_⟩
  · apply waiters.resolve_right
    rintro ⟨caller, call, -, -, found, wakes, -⟩
    obtain ⟨old, before, woke⟩ := clears.wakes caller call found wakes
    rw [noClose old (List.mem_of_getElem? before)] at woke
    contradiction
  · have same : chronicle.executor.office.kinds = kinds := (kinds_of_run ran).trans kinds_start
    exact (Executor.countP_checksFlag reached atEnd same given iterates
      (executor_of_run goesOn)).1
  · obtain ⟨extra, passed, taken⟩ := passed_of_run reached atEnd goesOn
    exact ⟨extra, passed, taken,
      taken.length_le.trans (Snapshot.length_inHand chronicle.executor.snapshot)⟩

/-- The consumer has pulled the first entry, the second one fills the queue, and the producer
waits with the third. -/
def busyStart : List (Executor.Event Nat Nat Nat) :=
  [.execute, .executing 0 (.readFlag false), .executing 0 .proceed, .executing 0 .proceed,
    .executing 0 .proceed, .executing 0 .proceed, .executing 0 .proceed, .executing 0 .proceed,
    .producer 0 (.offered 1), .producer 0 .checkFlag, .producer 0 (.transformed 7),
    .producer 0 (.measured 4194304), .enterQueue 0, .notifyQueue 0 none, .reportQueue 0,
    .producer 0 .inserted, .enterQueue 1, .notifyQueue 1 none, .reportQueue 1,
    .producer 0 (.offered 2), .producer 0 .checkFlag, .producer 0 (.transformed 8),
    .producer 0 (.measured 4194304), .enterQueue 0, .notifyQueue 0 none, .reportQueue 0,
    .producer 0 .inserted, .producer 0 (.offered 3), .producer 0 .checkFlag,
    .producer 0 (.transformed 9), .producer 0 (.measured 4194304), .enterQueue 0]

/-- A shutdown closes the queue and raises the flags. -/
def busyRun : List (Executor.Event Nat Nat Nat) := busyStart ++ shutdownRest

/-- The producer is refused, and the consumer consumes what it has pulled. -/
def desertedRest : List (Executor.Event Nat Nat Nat) :=
  [.enterQueue 0, .producer 0 .inserted, .producer 0 .report, .producer 0 .markDone,
    .consumer .pulled, .consumer .consumed, .enterQueue 1, .consumer .pulled, .consumer .report]

/-- A shutdown ends a run in which everybody is busy. -/
theorem cancellation_is_prompt_inhabited :
    ∃ chronicle final : Chronicle Nat Nat Nat,
      (start {} false [.records]).run busyRun = some chronicle ∧
        chronicle.run desertedRest = some final ∧ final.executor.shared.Released ∧
          desertedRest.countP (Executor.Event.checksFlag 0) ≤ 1 ∧
            final.history.passed = [7] := by
  have shuts : ((start {} false [.records]).run busyRun).map
      (fun chronicle : Chronicle Nat Nat Nat =>
        (chronicle.executor.shutdowns,
          chronicle.executor.shared.calls.all fun call => !call.wakesPulls)) =
        some ([.cancelling], true) := by
    decide +kernel
  have goesOn : ((start {} false [.records]).run (busyRun ++ desertedRest)).map
      (fun final : Chronicle Nat Nat Nat => final.history.passed) = some [7] := by
    decide +kernel
  obtain ⟨chronicle, ran, facts⟩ := Option.map_eq_some_iff.mp shuts
  obtain ⟨shutdowns, silent⟩ := Prod.mk.inj facts
  obtain ⟨final, ranOn, passed⟩ := Option.map_eq_some_iff.mp goesOn
  rw [run_append, ran] at ranOn
  have hasClosed : chronicle.executor.snapshot.HasClosed := by
    refine .shutdown .cancelling ?_ (by decide)
    show .cancelling ∈ chronicle.executor.shutdowns
    rw [shutdowns]
    exact List.mem_singleton_self _
  obtain ⟨-, -, released, once, -⟩ := cancellation_is_prompt ran hasClosed ranOn
  refine ⟨chronicle, final, ran, ranOn, released fun call found => ?_,
    once 0 .records rfl (by decide), passed⟩
  simpa using List.all_eq_true.mp silent call found

/-- A shutdown closes the queue, and before it sends its notifications a second one finds the
queue closed and returns. -/
def overlappingShutdowns : List (Executor.Event Nat Nat Nat) :=
  [.shutdown, .shuttingDown 0, .shutdown, .shuttingDown 1, .shuttingDown 1, .shuttingDown 1,
    .shuttingDown 1]

/-- That some shutdown has returned does not mean that nobody waits: the second of two that
overlap returns while the first still has to wake the producer. -/
theorem cancellation_is_prompt_overlapping :
    ¬ ∀ (events : List (Executor.Event Nat Nat Nat)) (chronicle : Chronicle Nat Nat Nat),
      (start {} false [.records]).run events = some chronicle →
        .returned ∈ chronicle.executor.shutdowns → chronicle.executor.shared.Released := by
  intro claim
  have overlaps : ((start {} false [.records]).run (busyStart ++ overlappingShutdowns)).map
      (fun chronicle : Chronicle Nat Nat Nat =>
        (chronicle.executor.shutdowns,
          chronicle.executor.shared.calls.any Call.isWaiting)) =
        some ([.closing, .returned], true) := by
    decide +kernel
  obtain ⟨chronicle, ran, facts⟩ := Option.map_eq_some_iff.mp overlaps
  obtain ⟨shutdowns, somebody⟩ := Prod.mk.inj facts
  obtain ⟨call, found, waits⟩ := List.any_eq_true.mp somebody
  have returned : .returned ∈ chronicle.executor.shutdowns := by
    rw [shutdowns]
    decide
  have proceeds := claim _ _ ran returned call found
  rw [waits] at proceeds
  contradiction

end Chronicle

end BoundedIngest

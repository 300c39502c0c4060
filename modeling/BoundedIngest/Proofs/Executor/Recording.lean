/-
Module: BoundedIngest.Proofs.Executor.Recording
Purpose: Whoever fails first sets the slot, runs the listener alone, and is named to the caller.
Main exports:
  Hearing, Hearing.run, Heeded, Heeded.step, Executor.grounded_or_aborted,
  Hearing.first_failure_wins
-/
import BoundedIngest.Proofs.Executor.Listening

namespace BoundedIngest

/-!
Workers record their failures in one slot.  Only the first is answered with yes, and only the
worker that got this answer runs the listener.  As the slot is set before the listener runs,
whoever hears of a failure finds it there.
-/

variable {ρ α β : Type}

/-! ### What the slot answers, and what the listener hears -/

/-- An executor, what its slot has answered, and what its listener has heard. -/
structure Hearing (ρ α β : Type) where
  executor : Executor ρ α β
  /-- Each failure that was recorded, in order, and whether it was the first. -/
  answers : List (CapturedFailure × Bool) := []
  /-- Who has run the listener, in order, and the failure that lay in the slot. -/
  heard : List (Role × Option CapturedFailure) := []

namespace Hearing

def start (config : ExecutorConfig) (hooked : Bool) (kinds : List SourceKind) : Hearing ρ α β :=
  { executor := Executor.create config hooked kinds }

def step (hearing : Hearing ρ α β) (event : Executor.Event ρ α β) : Option (Hearing ρ α β) :=
  (hearing.executor.step event).map fun executor =>
    { executor
      answers := hearing.answers ++ (hearing.executor.recorded? event).toList.map fun failure =>
        (failure, (hearing.executor.failure.record failure).1)
      heard := hearing.heard ++ event.alarm?.toList.map fun role =>
        (role, hearing.executor.failure.captured) }

def run (hearing : Hearing ρ α β) : List (Executor.Event ρ α β) → Option (Hearing ρ α β)
  | [] => some hearing
  | event :: rest => (hearing.step event).bind (·.run rest)

/-- Every run of an executor can be listened to so, and that does not change it. -/
theorem map_executor_run (hearing : Hearing ρ α β) (events : List (Executor.Event ρ α β)) :
    (hearing.run events).map executor = hearing.executor.run events := by
  induction events generalizing hearing with
  | nil => rfl
  | cons event rest ih =>
    rw [run, Executor.run, step]
    cases hearing.executor.step event with
    | none => rfl
    | some next => exact ih _

theorem executor_of_run {hearing final : Hearing ρ α β} {events : List (Executor.Event ρ α β)}
    (ran : hearing.run events = some final) :
    hearing.executor.run events = some final.executor := by
  rw [← map_executor_run, ran]
  rfl

end Hearing

/-- The first answer is yes and all others are no, the slot holds what was answered first, and
the listener has heard of it or is about to. -/
structure Heeded (hearing : Hearing ρ α β) : Prop where
  first : ∀ (place : Nat) (answer : CapturedFailure × Bool),
    hearing.answers[place]? = some answer → (answer.2 = true ↔ place = 0)
  captured : hearing.executor.failure.captured = hearing.answers.head?.map (·.1)
  unheard : hearing.executor.failure.captured = none → hearing.heard = []
  heard : ∀ failure, hearing.executor.failure.captured = some failure →
    (hearing.heard = [] ∧ hearing.executor.snapshot.Summons failure.role) ∨
      (hearing.heard = [(failure.role, some failure)] ∧
        ¬ hearing.executor.snapshot.Summons failure.role)

namespace Heeded

variable {hearing next : Hearing ρ α β} {event : Executor.Event ρ α β}

theorem answers_of_empty (heeded : Heeded hearing)
    (empty : hearing.executor.failure.captured = none) : hearing.answers = [] := by
  have nothing := heeded.captured.symm.trans empty
  rwa [Option.map_eq_none_iff, List.head?_eq_none_iff] at nothing

/-- The slot goes on answering so. -/
theorem answered (heeded : Heeded hearing) (stepped : hearing.step event = some next) :
    (∀ (place : Nat) (answer : CapturedFailure × Bool),
      next.answers[place]? = some answer → (answer.2 = true ↔ place = 0)) ∧
    next.executor.failure.captured = next.answers.head?.map (·.1) := by
  obtain ⟨executor, moved, rfl⟩ := Option.map_eq_some_iff.mp stepped
  have slot := Executor.slot_of_step moved
  cases records : hearing.executor.recorded? event with
  | none =>
    rw [records] at slot
    simp only [Option.elim_none, Option.toList_none, List.map_nil, List.append_nil] at slot ⊢
    rw [slot]
    exact ⟨heeded.first, heeded.captured⟩
  | some failure =>
    rw [records] at slot
    simp only [Option.elim_some, Option.toList_some, List.map_cons, List.map_nil] at slot ⊢
    cases known : hearing.executor.failure.captured with
    | none =>
      rw [Executor.record_of_empty known] at slot ⊢
      rw [heeded.answers_of_empty known, slot]
      refine ⟨fun place answer found => ?_, rfl⟩
      cases place with
      | zero =>
        cases found
        simp
      | succ place => simp at found
    | some first =>
      have failed : hearing.executor.failure.captured ≠ none := by simp [known]
      rw [Executor.record_of_set failed] at slot ⊢
      obtain ⟨answer, rest, answers⟩ : ∃ answer rest, hearing.answers = answer :: rest := by
        refine List.exists_cons_of_ne_nil fun nothing => failed ?_
        rw [heeded.captured, nothing]
        rfl
      constructor
      · intro place answer found
        rcases last_or_before found with ⟨now, rfl⟩ | before
        · rw [answers, List.length_cons] at now
          simp
          omega
        · exact heeded.first place answer before
      · rw [slot, heeded.captured, answers]
        rfl

/-- As long as the slot is empty, nobody runs the listener. -/
theorem stillUnheard (heeded : Heeded hearing) (liable : hearing.executor.snapshot.Liable)
    (stepped : hearing.step event = some next) (empty : next.executor.failure.captured = none) :
    next.heard = [] := by
  obtain ⟨executor, moved, rfl⟩ := Option.map_eq_some_iff.mp stepped
  have before : hearing.executor.failure.captured = none := by
    by_contra failed
    exact (Executor.move_of_step moved).failed failed empty
  have nobody : event.alarm? = none := by
    cases runs : event.alarm? with
    | none => rfl
    | some role =>
      obtain ⟨failure, known, -⟩ := liable role (Executor.summons_of_alarm moved runs).1.owes
      cases before.symm.trans known
  rw [heeded.unheard before, nobody]
  rfl

/-- Whoever sets the slot has the listener before itself. -/
theorem hearsFirst (heeded : Heeded hearing) (stepped : hearing.step event = some next)
    {failure : CapturedFailure} (before : hearing.executor.failure.captured = none)
    (captured : next.executor.failure.captured = some failure) :
    next.heard = [] ∧ next.executor.snapshot.Summons failure.role := by
  obtain ⟨executor, moved, rfl⟩ := Option.map_eq_some_iff.mp stepped
  have slot := Executor.slot_of_step moved
  cases records : hearing.executor.recorded? event with
  | none =>
    rw [records, Option.elim_none] at slot
    rw [slot, before] at captured
    contradiction
  | some recorded =>
    rw [records, Option.elim_some, Executor.record_of_empty before] at slot
    rw [slot] at captured
    cases captured
    have aside : event.alarm? = none := by
      unfold Executor.recorded? at records
      split at records <;> first | rfl | contradiction
    rw [heeded.unheard before, aside]
    exact ⟨rfl, Executor.summons_of_record moved before records⟩

/-- Whoever has the listener before itself runs it, and nobody does after that. -/
theorem hearsOnce (heeded : Heeded hearing) (started : hearing.executor.snapshot.Started)
    (liable : hearing.executor.snapshot.Liable) (stepped : hearing.step event = some next)
    {failure : CapturedFailure} (before : hearing.executor.failure.captured = some failure) :
    (next.heard = [] ∧ next.executor.snapshot.Summons failure.role) ∨
      (next.heard = [(failure.role, some failure)] ∧
        ¬ next.executor.snapshot.Summons failure.role) := by
  obtain ⟨executor, moved, rfl⟩ := Option.map_eq_some_iff.mp stepped
  cases runs : event.alarm? with
  | none =>
    rw [Option.toList_none, List.map_nil, List.append_nil,
      Executor.summons_iff started moved (by simp [before]) runs]
    exact heeded.heard failure before
  | some role =>
    obtain ⟨summons, past⟩ := Executor.summons_of_alarm moved runs
    obtain ⟨other, held, rfl⟩ := liable role summons.owes
    obtain rfl : other = failure := Option.some.inj (held.symm.trans before)
    rcases heeded.heard other before with ⟨unheard, -⟩ | ⟨-, already⟩
    · right
      rw [unheard, before]
      exact ⟨rfl, past⟩
    · exact absurd summons already

/-- Every step keeps it. -/
theorem step (heeded : Heeded hearing) (started : hearing.executor.snapshot.Started)
    (liable : hearing.executor.snapshot.Liable) (stepped : hearing.step event = some next) :
    Heeded next := by
  obtain ⟨first, captured⟩ := heeded.answered stepped
  refine ⟨first, captured, heeded.stillUnheard liable stepped, fun failure known => ?_⟩
  cases before : hearing.executor.failure.captured with
  | none => exact .inl (heeded.hearsFirst stepped before known)
  | some holder =>
    obtain ⟨executor, moved, rfl⟩ := Option.map_eq_some_iff.mp stepped
    have kept := (Executor.move_of_step moved).failure before
    obtain rfl : holder = failure := Option.some.inj (kept.symm.trans known)
    exact heeded.hearsOnce started liable stepped before

/-- By induction on the steps. -/
theorem run {producers : Nat} {history : History ρ α β} {events : List (Executor.Event ρ α β)}
    {final : Hearing ρ α β} (heeded : Heeded hearing)
    (reached : Reached producers hearing.executor.snapshot history)
    (ran : hearing.run events = some final) : Heeded final := by
  induction events generalizing hearing history with
  | nil =>
    cases ran
    exact heeded
  | cons event rest ih =>
    obtain ⟨middle, stepped, ran⟩ := Option.bind_eq_some_iff.mp ran
    have later := heeded.step reached.started reached.liable stepped
    obtain ⟨executor, moved, rfl⟩ := Option.map_eq_some_iff.mp stepped
    exact ih later (.move reached (Executor.move_of_step moved)) ran

end Heeded

theorem heeded_start (config : ExecutorConfig) (hooked : Bool) (kinds : List SourceKind) :
    Heeded (Hearing.start config hooked kinds : Hearing ρ α β) := by
  refine ⟨?_, rfl, fun _ => rfl, ?_⟩
  · intro place answer found
    simp [Hearing.start] at found
  · intro failure known
    contradiction

/-! ### What a call that executes makes of it -/

/-- The call was aborted. -/
def ExecutePhase.isAborted : ExecutePhase β → Bool
  | .settling (.error .aborted) | .recording (.error .aborted)
  | .returned (.error .aborted) => true
  | _ => false

namespace Executor

variable {executor next final : Executor ρ α β} {event : Event ρ α β} {call : Nat}
  {old new phase : ExecutePhase β} {act : ExecuteAct}

/-- A call that sees its flag raised is aborted, and stays so. -/
theorem aborted_of_turn (turn : executor.Turn old act new)
    (reason : old.isAborted = true ∨ act = .readFlag true) : new.isAborted = true := by
  rcases reason with aborted | rfl
  · cases turn with
    | settles outcome =>
      unfold ExecutePhase.isAborted at aborted
      split at aborted <;> first | contradiction | (rename_i same; cases same; rfl)
    | serves turn =>
      cases turn with
      | records outcome =>
        unfold ExecutePhase.isAborted at aborted
        split at aborted <;> first | contradiction | (rename_i same; cases same; rfl)
      | receives | givesUp | timesOut | interrupted | checksFlag | fails | checksSlot | judges =>
        contradiction
    | retreats turn => cases turn <;> contradiction
    | aborts | enters | takesParts | takesSender | takesReceiver | starts | strands | spawns =>
      contradiction
  · cases turn with
    | aborts => rfl
    | serves turn =>
      cases turn
      rfl

/-- Whatever a call has to say is grounded, unless it was aborted. -/
theorem grounded_of_steps_or_aborted {producers : Nat} {history : History ρ α β}
    {events : List (Event ρ α β)} (willing : executor.Willing)
    (reached : Reached producers executor.snapshot history) (connected : executor.Connected)
    (grounded : ∀ phase, executor.executes[call]? = some phase →
      phase.isAborted = true ∨ executor.Grounded phase)
    (ran : executor.run events = some final) :
    ∀ phase, final.executes[call]? = some phase →
      phase.isAborted = true ∨ final.Grounded phase := by
  induction events generalizing executor history with
  | nil =>
    cases ran
    exact grounded
  | cons event rest ih =>
    obtain ⟨middle, stepped, ran⟩ := Option.bind_eq_some_iff.mp ran
    refine ih (willing.step stepped) (.move reached (move_of_step stepped))
      (connected_of_step connected stepped) ?_ ran
    intro new found
    rcases turn_before stepped found with rfl | ⟨old, was, rfl | ⟨act, rfl, turn⟩⟩
    · exact .inr trivial
    · exact (grounded new was).imp_right (·.keeps stepped)
    · by_cases raised : act = .readFlag true
      · exact .inl (aborted_of_turn turn (.inr raised))
      · rcases grounded old was with aborted | before
        · exact .inl (aborted_of_turn turn (.inl aborted))
        · have steady : ∀ lifecycle, ¬executor.Retreats old new lifecycle :=
            fun _ => willing.not_retreats was
          exact .inr (Grounded.keeps (before.turn turn steady reached connected raised) stepped)

theorem grounded_or_aborted {config : ExecutorConfig} {hooked : Bool} {kinds : List SourceKind}
    {events : List (Event ρ α β)} (ran : (create config hooked kinds).run events = some final)
    (found : final.executes[call]? = some phase) :
    phase.isAborted = true ∨ final.Grounded phase := by
  have reached : Reached kinds.length (create config hooked kinds : Executor ρ α β).snapshot {} :=
    Chronicle.reached_start config hooked kinds
  exact grounded_of_steps_or_aborted (willing_create config hooked kinds) reached
    (connected_create config hooked kinds) (fun phase nobody => by contradiction) ran phase found

end Executor

namespace Hearing

variable {config : ExecutorConfig} {hooked : Bool} {kinds : List SourceKind}
  {events : List (Executor.Event ρ α β)} {hearing : Hearing ρ α β}

/-- Whoever records failures, and whenever: the first one recorded is answered with yes and all
others with no, and it is what the slot holds from then on.  The listener is run once, by the
worker whose failure that is and with that failure in the slot: it has been run so, or this
worker is just about to run it and can.  A call that executes gives no failure but this one, in
runs in which it is interrupted as well.  And a call that has a signal of failure to judge finds
the slot set, so it never has to make up a failure, nor does it ever hear that nobody is left to
send a signal. -/
theorem first_failure_wins (ran : (start config hooked kinds).run events = some hearing) :
    (∀ (place : Nat) (answer : CapturedFailure × Bool),
      hearing.answers[place]? = some answer → (answer.2 = true ↔ place = 0)) ∧
    hearing.executor.failure.captured = hearing.answers.head?.map (·.1) ∧
    (hearing.executor.failure.captured = none → hearing.heard = []) ∧
    (∀ failure, hearing.executor.failure.captured = some failure →
      (hearing.heard = [(failure.role, some failure)] ∨
        hearing.heard = [] ∧ ∃ event next, event.alarm? = some failure.role ∧
          hearing.executor.step event = some next) ∧
      ∀ later final, hearing.run later = some final →
        final.executor.failure.captured = some failure) ∧
    (∀ (call : Nat) role error,
      hearing.executor.executes[call]? = some (.returned (.error (.failed role error))) →
      hearing.executor.failure.captured = some { role, error }) ∧
    ∀ (call : Nat) (signal : Option (Signal β)),
      hearing.executor.executes[call]? = some (.judging signal) →
      (∃ result, signal = some (.finished result)) ∨
        (signal = some .failed ∧ ∃ failure, hearing.executor.failure.captured = some failure ∧
          hearing.executor.failureOrInterrupted = failure.toExecError) := by
  have reachedStart : Reached kinds.length
      (start config hooked kinds : Hearing ρ α β).executor.snapshot {} :=
    Chronicle.reached_start config hooked kinds
  have heeded := (heeded_start config hooked kinds).run reachedStart ran
  have executed := executor_of_run ran
  obtain ⟨history, reached⟩ := Executor.reached_of_run executed
  refine ⟨heeded.first, heeded.captured, heeded.unheard, ?_, ?_, ?_⟩
  · intro failure captured
    refine ⟨?_, fun later final goesOn =>
      Executor.captured_of_run (executor_of_run goesOn) captured⟩
    rcases heeded.heard failure captured with ⟨unheard, summons⟩ | ⟨heard, -⟩
    · exact .inr ⟨unheard, Executor.listens_of_summons reached.agreement summons⟩
    · exact .inl heard
  · intro call role error returned
    rcases Executor.grounded_or_aborted executed returned with aborted | refused | known
    · contradiction
    · contradiction
    · obtain ⟨failure, captured, same⟩ := Option.map_eq_some_iff.mp known
      cases same
      exact captured
  · intro call signal judging
    rcases Executor.grounded_or_aborted executed judging with aborted | grounded
    · contradiction
    · cases signal with
      | none => exact grounded.elim
      | some signal =>
        cases signal with
        | finished result => exact .inl ⟨result, rfl⟩
        | failed =>
          obtain ⟨failure, captured⟩ := Option.ne_none_iff_exists'.mp grounded
          refine .inr ⟨rfl, failure, captured, ?_⟩
          simp [Executor.failureOrInterrupted, FailureSlot.toExecError, captured]

/-- The producer tells the caller of its failure after the consumer has recorded another one,
and the caller returns. -/
def toldRun : List (Executor.Event Nat Nat Nat) :=
  Executor.brokenRun ++
    [.producer 0 .closed, .producer 0 .signal, .executing 0 .proceed, .executing 0 .proceed,
      .executing 0 .proceed, .executing 0 .proceed]

/-- The caller has got the failure of the source. -/
def namesSource : Option (ExecutePhase Nat) → Bool
  | some (.returned (.error (.failed (.producer 0) (.source "disk")))) => true
  | _ => false

/-- Two workers fail, and the first of them is named. -/
theorem first_failure_wins_inhabited :
    ∃ hearing : Hearing Nat Nat Nat,
      (start {} false [.results]).run toldRun = some hearing ∧
        hearing.answers.map (·.2) = [true, false] ∧
        hearing.executor.executes[0]? =
          some (.returned (.error (.failed (.producer 0) (.source "disk")))) ∧
        hearing.executor.failure.captured =
          some { role := .producer 0, error := .source "disk" } := by
  have runs : ((start {} false [.results]).run toldRun).map
      (fun hearing : Hearing Nat Nat Nat => hearing.answers.map (·.2) == [true, false] &&
        namesSource hearing.executor.executes[0]?) = some true := by
    decide +kernel
  obtain ⟨hearing, ran, facts⟩ := Option.map_eq_some_iff.mp runs
  rw [Bool.and_eq_true, beq_iff_eq] at facts
  obtain ⟨answers, names⟩ := facts
  have returned : hearing.executor.executes[0]? =
      some (.returned (.error (.failed (.producer 0) (.source "disk")))) := by
    unfold namesSource at names
    split at names
    · assumption
    · contradiction
  obtain ⟨-, -, -, -, named, -⟩ := first_failure_wins ran
  exact ⟨hearing, ran, answers, returned, named 0 _ _ returned⟩

end Hearing

end BoundedIngest

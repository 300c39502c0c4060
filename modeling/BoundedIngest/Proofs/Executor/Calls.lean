/-
Module: BoundedIngest.Proofs.Executor.Calls
Purpose: How a call that executes goes on, and how many steps it still has to take once
  something has failed.
Main exports:
  Executor.Turn, Executor.turn_of_step, Executor.turn_before, ExecutePhase.left,
  Executor.Event.isBy, Executor.left_of_run, Executor.never_held_up
-/
import BoundedIngest.Proofs.Executor.Opening
import BoundedIngest.Proofs.Executor.Senders
import BoundedIngest.Proofs.Executor.Standstill
import BoundedIngest.Proofs.Executor.Swallowing

namespace BoundedIngest

/-!
A call that executes may wait for as long as nobody tells it anything and the failure slot is
empty.  Once the slot is set the wait is over: whether a signal arrives or the time runs out,
the call comes to an outcome, and every step of its own brings it nearer.
-/

variable {ρ α β : Type}

namespace Executor

/-- How a call goes on, and what it has to find for that. -/
inductive Turn (executor : Executor ρ α β) :
    ExecutePhase β → ExecuteAct → ExecutePhase β → Prop
  | aborts : Turn executor .entering (.readFlag true) (.returned (.error .aborted))
  | enters : Turn executor .entering (.readFlag false) .takingParts
  | takesParts : Turn executor .takingParts .proceed (.takingSender executor.hasParts)
  | takesSender (hasParts : Bool) :
      Turn executor (.takingSender hasParts) .proceed
        (.takingReceiver hasParts executor.hasSender)
  | takesReceiver (hasParts hasSender : Bool) :
      Turn executor (.takingReceiver hasParts hasSender) .proceed
        (if hasParts && hasSender && executor.hasReceiver then .starting
          else .returned (.error .alreadyStarted))
  | starts : Turn executor .starting .proceed (.spawning 0)
  | strands (worker : Nat) (panic : Panic)
      (unnamed : threadNamePanic? (executor.workerName worker) = some panic) :
      Turn executor (.spawning worker) .proceed (.panicked panic)
  | spawns (worker : Nat) (named : threadNamePanic? (executor.workerName worker) = none)
      (willing : executor.refuses worker = none) :
      Turn executor (.spawning worker) .proceed
        (if worker < executor.consumerIndex then .spawning (worker + 1) else .waiting)
  | serves {old new : ExecutePhase β} {act : ExecuteAct} (turn : executor.Serves old act new) :
      Turn executor old act new
  | settles (outcome : Except ExecError β) :
      Turn executor (.settling outcome) .proceed (.recording outcome)
  | retreats {old new : ExecutePhase β} {lifecycle : Lifecycle}
      (turn : executor.Retreats old new lifecycle) : Turn executor old .proceed new

/-- What a step means for the calls that execute. -/
inductive CallMove (executor : Executor ρ α β) : Event ρ α β → List (ExecutePhase β) → Prop
  | apart {event : Event ρ α β} (others : ∀ call act, event ≠ .executing call act) :
      CallMove executor event executor.executes
  | begins : CallMove executor .execute (executor.executes ++ [.entering])
  | turns {call : Nat} {act : ExecuteAct} (old new : ExecutePhase β)
      (was : executor.executes[call]? = some old) (turn : executor.Turn old act new) :
      CallMove executor (.executing call act) (executor.executes.set call new)

variable {executor next final : Executor ρ α β} {event : Event ρ α β} {call : Nat}
  {old new phase : ExecutePhase β} {act : ExecuteAct}

theorem callMove_of_step (stepped : executor.step event = some next) :
    CallMove executor event next.executes := by
  have move := officeMove_of_step stepped
  generalize seen : next.office = office at move
  have executes : next.executes = office.executes := congrArg Office.executes seen
  rw [executes]
  cases move with
  | still others => exact .apart others
  | executes => exact .begins
  | aborts was => exact .turns _ _ was .aborts
  | enters was => exact .turns _ _ was .enters
  | takesParts was => exact .turns _ _ was .takesParts
  | takesSender hasParts was => exact .turns _ _ was (.takesSender hasParts)
  | takesReceiver hasParts hasSender was =>
    exact .turns _ _ was (.takesReceiver hasParts hasSender)
  | starts was => exact .turns _ _ was .starts
  | strands worker panic was unnamed => exact .turns _ _ was (.strands worker panic unnamed)
  | spawns worker was named willing => exact .turns _ _ was (.spawns worker named willing)
  | serves old new was turn => exact .turns _ _ was (.serves turn)
  | settles outcome was => exact .turns _ _ was (.settles outcome)
  | retreats old new lifecycle was turn => exact .turns _ _ was (.retreats turn)
  | cancels was | awaits | collects was free | joins worker rest total was ended
  | leaves total was => exact .apart (by simp)

/-- A call stays where it is, or takes a step of its own. -/
theorem turn_of_step (stepped : executor.step event = some next)
    (was : executor.executes[call]? = some old) :
    ∃ new, next.executes[call]? = some new ∧
      (((∀ act, event ≠ .executing call act) ∧ new = old) ∨
        ∃ act, event = .executing call act ∧ executor.Turn old act new) := by
  have inside := (List.getElem?_eq_some_iff.mp was).1
  have move := callMove_of_step stepped
  generalize next.executes = executes at move
  cases move with
  | apart others => exact ⟨old, was, .inl ⟨others call, rfl⟩⟩
  | begins => exact ⟨old, (List.getElem?_append_left inside).trans was, .inl ⟨by simp, rfl⟩⟩
  | turns other new found turn =>
    rename_i mover act
    by_cases mine : mover = call
    · subst mine
      cases found.symm.trans was
      exact ⟨new, List.getElem?_set_self inside, .inr ⟨act, rfl, turn⟩⟩
    · exact ⟨old, (List.getElem?_set_ne mine).trans was, .inl ⟨by simp [mine], rfl⟩⟩

/-- A call has just begun, or it was there before. -/
theorem turn_before (stepped : executor.step event = some next)
    (found : next.executes[call]? = some new) :
    new = .entering ∨ ∃ old, executor.executes[call]? = some old ∧
      (new = old ∨ ∃ act, event = .executing call act ∧ executor.Turn old act new) := by
  cases was : executor.executes[call]? with
  | some old =>
    obtain ⟨other, same, goes⟩ := turn_of_step stepped was
    cases same.symm.trans found
    exact .inr ⟨old, rfl, goes.imp_left And.right⟩
  | none =>
    left
    have outside := List.getElem?_eq_none_iff.mp was
    have move := callMove_of_step stepped
    generalize next.executes = executes at move found
    cases move with
    | apart others =>
      rw [was] at found
      contradiction
    | begins =>
      rw [List.getElem?_append_right outside] at found
      exact List.mem_singleton.mp (List.mem_of_getElem? found)
    | turns other new there turn =>
      have inside := (List.getElem?_eq_some_iff.mp found).1
      rw [List.length_set] at inside
      exact absurd inside (Nat.not_lt.mpr outside)

/-- A call that has got everything does not lose it again. -/
theorem hasStarted_of_turn (turn : executor.Turn old act new) (started : old.hasStarted = true) :
    new.hasStarted = true := by
  cases turn with
  | aborts | enters | takesParts | takesSender | takesReceiver => contradiction
  | starts | strands => rfl
  | spawns worker named willing => split <;> rfl
  | serves turn => exact ExecutePhase.hasStarted_of_serves turn started
  | settles outcome => exact ExecutePhase.hasStarted_of_settling started
  | retreats turn => cases turn <;> rfl

theorem hasStarted_of_run {events : List (Event ρ α β)} (ran : executor.run events = some final)
    (was : executor.executes[call]? = some old) (started : old.hasStarted = true) :
    ∃ new, final.executes[call]? = some new ∧ new.hasStarted = true := by
  induction events generalizing executor old with
  | nil =>
    cases ran
    exact ⟨old, was, started⟩
  | cons event rest ih =>
    obtain ⟨middle, stepped, ran⟩ := Option.bind_eq_some_iff.mp ran
    obtain ⟨new, found, ⟨-, rfl⟩ | ⟨act, -, turn⟩⟩ := turn_of_step stepped was
    · exact ih ran found started
    · exact ih ran found (hasStarted_of_turn turn started)

end Executor

/-! ### How far a call is from its end -/

/-- How many steps a call can still take if it does not have to wait; the consumer stands behind
the producers, at the position `last`. -/
def ExecutePhase.left (last : Nat) : ExecutePhase β → Nat
  | .starting => last + 7
  | .spawning worker => last - worker + 6
  | .waiting => 5
  | .checkingFlag => 4
  | .checkingSlot | .judging _ => 3
  | .settling _ => 2
  | .retreating _ => 2
  | .recording _ | .withdrawing .. => 1
  | .returned _ | .panicked _ => 0
  | phase => phase.ahead + last + 7

theorem ExecutePhase.left_of_started {phase : ExecutePhase β} (started : phase.hasStarted = true)
    (last : Nat) : phase.left last ≤ last + 7 := by
  cases phase <;> first | contradiction | (simp only [left]; omega)

theorem ExecutePhase.left_pos {phase : ExecutePhase β}
    (running : ∀ outcome, phase ≠ .returned outcome) (alive : ∀ panic, phase ≠ .panicked panic)
    (last : Nat) : 0 < phase.left last := by
  cases phase with
  | returned outcome => exact absurd rfl (running outcome)
  | panicked panic => exact absurd rfl (alive panic)
  | _ =>
    simp only [left]
    omega

namespace Executor

variable {executor next final : Executor ρ α β} {event : Event ρ α β} {call : Nat}
  {old new phase : ExecutePhase β} {act : ExecuteAct}

/-- The step is one of that call. -/
def Event.isBy (call : Nat) : Event ρ α β → Bool
  | .executing other _ => other = call
  | _ => false

/-- Once something has failed, no call goes back to waiting. -/
theorem left_of_turn (turn : executor.Turn old act new)
    (failed : executor.failure.captured ≠ none) :
    new.left executor.consumerIndex + 1 ≤ old.left executor.consumerIndex := by
  cases turn with
  | takesReceiver hasParts hasSender =>
    split <;> simp only [ExecutePhase.left, ExecutePhase.ahead] <;> omega
  | spawns worker named willing => split <;> simp only [ExecutePhase.left] <;> omega
  | serves turn =>
    cases turn with
    | checksSlot empty => exact absurd (Option.map_eq_none_iff.mp empty) failed
    | receives | givesUp | timesOut | interrupted | checksFlag | fails | judges | records =>
      simp only [ExecutePhase.left]
      omega
  | retreats turn =>
    cases turn with
    | isRefused | withdraws | gives =>
      simp only [ExecutePhase.left]
      omega
  | aborts | enters | takesParts | takesSender | starts | strands | settles =>
    simp only [ExecutePhase.left, ExecutePhase.ahead]
    omega

/-- So every step of its own brings a call nearer to its end, by induction on the steps. -/
theorem left_of_run {rest : List (Event ρ α β)} (ran : executor.run rest = some final)
    (failed : executor.failure.captured ≠ none) (was : executor.executes[call]? = some old) :
    ∃ new, final.executes[call]? = some new ∧
      new.left executor.consumerIndex + rest.countP (Event.isBy call) ≤
        old.left executor.consumerIndex := by
  induction rest generalizing executor old with
  | nil =>
    cases ran
    exact ⟨old, was, Nat.le_refl _⟩
  | cons event rest ih =>
    obtain ⟨middle, stepped, ran⟩ := Option.bind_eq_some_iff.mp ran
    obtain ⟨next, found, goes⟩ := turn_of_step stepped was
    obtain ⟨new, here, steps⟩ := ih ran ((move_of_step stepped).failed failed) found
    rw [consumerIndex_of_step stepped] at steps
    refine ⟨new, here, ?_⟩
    rw [List.countP_cons]
    rcases goes with ⟨apart, rfl⟩ | ⟨act, rfl, turn⟩
    · have other : Event.isBy call event = false := by
        cases event <;> simp_all [Event.isBy]
      simpa [other] using steps
    · have nearer := left_of_turn turn failed
      simp only [Event.isBy, decide_true, if_true]
      omega

/-- A call that was not refused a worker and has not ended can go on without being interrupted,
whatever the workers do. -/
theorem never_held_up {producers : Nat} {history : History ρ α β}
    (reached : Reached producers executor.snapshot history) (connected : executor.Connected)
    (was : executor.executes[call]? = some phase) (steady : phase.isRetreating = false)
    (running : ∀ outcome, phase ≠ .returned outcome) (alive : ∀ panic, phase ≠ .panicked panic) :
    ∃ act next, act ≠ .readFlag true ∧ executor.step (.executing call act) = some next := by
  by_cases busy : phase = .waiting
  · subst busy
    cases messages : executor.channel.messages with
    | nil =>
      -- Nothing to hear yet, but somebody can still send.
      have senders : 0 < executor.channel.senders := by
        unfold Connected at connected
        omega
      refine ⟨.timeout, executor.setExecute call .checkingFlag, by simp, ?_⟩
      simp [step, stepExecute, was, messages, senders]
    | cons signal rest =>
      have possible : (executor.stepExecute call .proceed).isSome = true := by
        simp [stepExecute, was, messages]
      obtain ⟨next, stepped⟩ := Option.isSome_iff_exists.mp possible
      exact ⟨.proceed, next, by simp, stepped⟩
  · obtain ⟨act, next, lowered, stepped⟩ := proceeds reached was steady busy running alive
    refine ⟨act, next, ?_, stepped⟩
    rcases lowered with rfl | rfl <;> simp

end Executor

end BoundedIngest

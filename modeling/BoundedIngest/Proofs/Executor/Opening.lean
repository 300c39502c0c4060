/-
Module: BoundedIngest.Proofs.Executor.Opening
Purpose: Which of the calls that execute gets what it needs to start.
Main exports:
  ExecutePhase.hasStarted, Takers, Opening, Opening.run, Takers.Fits, Opened, Opened.move,
  Opened.alone, Opened.scattered, Executor.Learns, Executor.learns
-/
import BoundedIngest.Proofs.Executor.Office

namespace BoundedIngest

/-!
A call needs three things to start: the parts, the sender and the receiver.  Each lies in a
cell with a lock of its own, and the call empties the cells one after the other, whatever it
has found in those before.  Calls that do this at the same time may each get a share.  Then
nobody can start, and what was taken is gone.
-/

variable {ρ α β : Type}

namespace ExecutePhase

/-- The call has yet to find out whether it gets everything. -/
def isTaking : ExecutePhase β → Bool
  | .entering | .takingParts | .takingSender _ | .takingReceiver .. => true
  | _ => false

/-- How many steps the call is away from that. -/
def ahead : ExecutePhase β → Nat
  | .entering => 4
  | .takingParts => 3
  | .takingSender _ => 2
  | .takingReceiver .. => 1
  | _ => 0

theorem isTaking_of_ahead {phase : ExecutePhase β} (arrived : phase.ahead = 0) :
    phase.isTaking = false := by
  cases phase <;> first | rfl | contradiction

/-- The call has got everything. -/
def hasStarted : ExecutePhase β → Bool
  | .entering | .takingParts | .takingSender _ | .takingReceiver ..
  | .settling (.error .alreadyStarted) | .recording (.error .alreadyStarted)
  | .returned (.error .alreadyStarted) => false
  | _ => true

/-- A failure is not mistaken for a second start. -/
theorem judge_ne_alreadyStarted (executor : Executor ρ α β) (signal : Option (Signal β)) :
    executor.judge signal ≠ .error .alreadyStarted := by
  have known : ∀ error, executor.failure.toExecError = some error → error ≠ .alreadyStarted := by
    rintro _ failed rfl
    obtain ⟨captured, -, same⟩ := Option.map_eq_some_iff.mp failed
    contradiction
  have orInterrupted : executor.failureOrInterrupted ≠ .alreadyStarted := by
    unfold Executor.failureOrInterrupted
    cases failed : executor.failure.toExecError with
    | none => simp
    | some error => exact known error failed
  unfold Executor.judge
  split
  · split
    · rename_i error failed
      exact fun same => known error failed (Except.error.inj same)
    · simp
  · exact fun same => orInterrupted (Except.error.inj same)
  · exact fun same => orInterrupted (Except.error.inj same)

theorem hasStarted_of_outcome {outcome : Except ExecError β}
    (other : outcome ≠ .error .alreadyStarted) :
    (settling outcome).hasStarted = true ∧ (recording outcome).hasStarted = true ∧
      (returned outcome).hasStarted = true := by
  cases outcome with
  | ok result => exact ⟨rfl, rfl, rfl⟩
  | error error => cases error <;> first | exact ⟨rfl, rfl, rfl⟩ | contradiction

theorem hasStarted_of_settling {outcome : Except ExecError β}
    (started : (settling outcome).hasStarted = true) : (recording outcome).hasStarted = true := by
  refine (hasStarted_of_outcome ?_).2.1
  rintro rfl
  contradiction

/-- A call that has got everything does not lose it again. -/
theorem hasStarted_of_serves {executor : Executor ρ α β} {old new : ExecutePhase β}
    {act : Executor.ExecuteAct} (turn : executor.Serves old act new)
    (started : old.hasStarted = true) : new.hasStarted = true := by
  cases turn with
  | fails error failed =>
    obtain ⟨captured, -, rfl⟩ := Option.map_eq_some_iff.mp failed
    rfl
  | judges signal => exact (hasStarted_of_outcome (judge_ne_alreadyStarted executor signal)).1
  | records outcome =>
    refine (hasStarted_of_outcome ?_).2.2
    rintro rfl
    contradiction
  | receives | givesUp | timesOut | interrupted | checksFlag | checksSlot => rfl

end ExecutePhase

/-- Which call has emptied each cell. -/
structure Takers where
  parts : Option Nat := none
  sender : Option Nat := none
  receiver : Option Nat := none
deriving DecidableEq

namespace Takers

/-- One call has emptied all of them. -/
def one (call : Nat) : Takers :=
  { parts := some call, sender := some call, receiver := some call }

/-- Note which cell a step empties. -/
def extend (takers : Takers) (before : Executor ρ α β) : Executor.Event ρ α β → Takers
  | .executing call .proceed =>
      match before.executes[call]? with
      | some .takingParts =>
          if before.hasParts then { takers with parts := some call } else takers
      | some (.takingSender _) =>
          if before.hasSender then { takers with sender := some call } else takers
      | some (.takingReceiver ..) =>
          if before.hasReceiver then { takers with receiver := some call } else takers
      | _ => takers
  | _ => takers

/-- How far a call can have come, given who emptied the cells. -/
def Fits (takers : Takers) (call : Nat) : ExecutePhase β → Prop
  | .entering | .takingParts =>
      takers.parts ≠ some call ∧ takers.sender ≠ some call ∧ takers.receiver ≠ some call
  | .takingSender hasParts =>
      takers.parts ≠ none ∧ (hasParts = true ↔ takers.parts = some call) ∧
        takers.sender ≠ some call ∧ takers.receiver ≠ some call
  | .takingReceiver hasParts hasSender =>
      takers.parts ≠ none ∧ takers.sender ≠ none ∧ (hasParts = true ↔ takers.parts = some call) ∧
        (hasSender = true ↔ takers.sender = some call) ∧ takers.receiver ≠ some call
  | .returned (.error .alreadyStarted) =>
      takers.parts ≠ none ∧ takers.sender ≠ none ∧ takers.receiver ≠ none ∧ takers ≠ .one call
  | phase => phase.hasStarted = true ∧ takers = .one call

variable {takers : Takers} {call other : Nat} {phase : ExecutePhase β}

theorem fits_of_started (started : phase.hasStarted = true) :
    takers.Fits call phase ↔ takers = .one call := by
  unfold Fits
  split
  case h_6 => simp [started]
  all_goals contradiction

/-- A call that knows its lot has found every cell empty. -/
theorem Fits.empty (fits : takers.Fits call phase) (taken : phase.isTaking = false) :
    (phase.hasStarted = true ∧ takers = .one call) ∨
      (phase = .returned (.error .alreadyStarted) ∧ takers.parts ≠ none ∧
        takers.sender ≠ none ∧ takers.receiver ≠ none ∧ takers ≠ .one call) := by
  unfold Fits at fits
  split at fits
  case h_5 => exact .inr ⟨rfl, fits⟩
  case h_6 => exact .inl fits
  all_goals contradiction

/-! ### What a step of one call means for the others -/

theorem Fits.withParts (fits : takers.Fits other phase) (full : takers.parts = none)
    (apart : call ≠ other) : { takers with parts := some call }.Fits other phase := by
  unfold Fits at fits ⊢
  split at fits <;> simp_all [one]

theorem Fits.withSender (fits : takers.Fits other phase) (full : takers.sender = none)
    (apart : call ≠ other) : { takers with sender := some call }.Fits other phase := by
  unfold Fits at fits ⊢
  split at fits <;> simp_all [one]

theorem Fits.withReceiver (fits : takers.Fits other phase) (full : takers.receiver = none)
    (apart : call ≠ other) : { takers with receiver := some call }.Fits other phase := by
  unfold Fits at fits ⊢
  split at fits <;> simp_all [one]

end Takers

/-- An executor and who emptied its cells. -/
structure Opening (ρ α β : Type) where
  executor : Executor ρ α β
  takers : Takers := {}

namespace Opening

def start (config : ExecutorConfig) (hooked : Bool) (kinds : List SourceKind) : Opening ρ α β :=
  { executor := Executor.create config hooked kinds }

def step (opening : Opening ρ α β) (event : Executor.Event ρ α β) : Option (Opening ρ α β) :=
  (opening.executor.step event).map fun executor =>
    { executor, takers := opening.takers.extend opening.executor event }

def run (opening : Opening ρ α β) : List (Executor.Event ρ α β) → Option (Opening ρ α β)
  | [] => some opening
  | event :: rest => (opening.step event).bind (·.run rest)

variable {config : ExecutorConfig} {hooked : Bool} {kinds : List SourceKind}
  {opening next : Opening ρ α β} {event : Executor.Event ρ α β}

theorem executor_of_step (stepped : opening.step event = some next) :
    opening.executor.step event = some next.executor ∧
      next.takers = opening.takers.extend opening.executor event := by
  obtain ⟨executor, moved, rfl⟩ := Option.map_eq_some_iff.mp stepped
  exact ⟨moved, rfl⟩

/-- Every run of an executor can be noted so, and the notes do not change it. -/
theorem map_executor_run (opening : Opening ρ α β) (events : List (Executor.Event ρ α β)) :
    (opening.run events).map executor = opening.executor.run events := by
  induction events generalizing opening with
  | nil => rfl
  | cons event rest ih =>
    rw [run, Executor.run, step]
    cases opening.executor.step event with
    | none => rfl
    | some next => exact ih _

end Opening

/-! ### Who has emptied the cells -/

namespace Takers

theorem extend_others {takers : Takers} {executor : Executor ρ α β}
    {event : Executor.Event ρ α β} (others : ∀ call act, event ≠ .executing call act) :
    takers.extend executor event = takers := by
  cases event <;> first | rfl | exact absurd rfl (others _ _)

/-- A call that has been at all cells empties none. -/
theorem extend_taken {takers : Takers} {executor : Executor ρ α β} {call : Nat}
    {act : Executor.ExecuteAct} {phase : ExecutePhase β}
    (was : executor.executes[call]? = some phase) (taken : phase.isTaking = false) :
    takers.extend executor (.executing call act) = takers := by
  cases act with
  | proceed =>
    rw [extend, was]
    cases phase <;> first | rfl | contradiction
  | readFlag | timeout => rfl

end Takers

/-- The cells are as the takers left them, and so is every call. -/
structure Opened (office : Office β) (takers : Takers) : Prop where
  parts : office.hasParts = takers.parts.isNone
  sender : office.hasSender = takers.sender.isNone
  receiver : office.hasReceiver = takers.receiver.isNone
  fits : ∀ call phase, office.executes[call]? = some phase → takers.Fits call phase
  known : ∀ call, takers.parts = some call ∨ takers.sender = some call ∨
    takers.receiver = some call → call < office.executes.length

namespace Opened

variable {office next : Office β} {takers later : Takers} {call : Nat} {old new : ExecutePhase β}

/-- A call goes on, and perhaps it has emptied a cell. -/
theorem exchange (opened : Opened office takers) (was : office.executes[call]? = some old)
    (executes : next.executes = office.executes.set call new) (mine : later.Fits call new)
    (others : ∀ other phase, call ≠ other → takers.Fits other phase →
      later.Fits (β := β) other phase)
    (parts : next.hasParts = later.parts.isNone) (sender : next.hasSender = later.sender.isNone)
    (receiver : next.hasReceiver = later.receiver.isNone)
    (known : ∀ who, later.parts = some who ∨ later.sender = some who ∨
      later.receiver = some who → who = call ∨ takers.parts = some who ∨
        takers.sender = some who ∨ takers.receiver = some who) : Opened next later := by
  obtain ⟨inside, -⟩ := List.getElem?_eq_some_iff.mp was
  refine ⟨parts, sender, receiver, ?_, ?_⟩
  · intro other phase found
    rw [executes] at found
    by_cases same : call = other
    · subst same
      rw [List.getElem?_set_self inside] at found
      cases found
      exact mine
    · rw [List.getElem?_set_ne same] at found
      exact others other phase same (opened.fits other phase found)
  · intro who taker
    rw [executes, List.length_set]
    rcases known who taker with rfl | before
    · exact inside
    · exact opened.known who before

/-- A call goes on without emptying a cell. -/
theorem setExecute (opened : Opened office takers) (was : office.executes[call]? = some old)
    (executes : next.executes = office.executes.set call new) (mine : takers.Fits call new)
    (parts : next.hasParts = office.hasParts) (sender : next.hasSender = office.hasSender)
    (receiver : next.hasReceiver = office.hasReceiver) : Opened next takers :=
  opened.exchange was executes mine (fun _ _ _ fits => fits) (parts.trans opened.parts)
    (sender.trans opened.sender) (receiver.trans opened.receiver) fun _ taker => .inr taker

/-- Nobody who executes does anything. -/
theorem same (opened : Opened office takers) (executes : next.executes = office.executes)
    (parts : next.hasParts = office.hasParts) (sender : next.hasSender = office.hasSender)
    (receiver : next.hasReceiver = office.hasReceiver) : Opened next takers := by
  refine ⟨parts.trans opened.parts, sender.trans opened.sender, receiver.trans opened.receiver,
    ?_, ?_⟩
  · rw [executes]
    exact opened.fits
  · rw [executes]
    exact opened.known

/-- A call that was not there before has emptied nothing. -/
theorem begins (opened : Opened office takers) :
    Opened { office with executes := office.executes ++ [.entering] } takers := by
  refine ⟨opened.parts, opened.sender, opened.receiver, ?_, ?_⟩
  · intro call phase found
    rcases Nat.lt_trichotomy call office.executes.length with before | rfl | after
    · rw [List.getElem?_append_left before] at found
      exact opened.fits call phase found
    · rw [List.getElem?_concat_length] at found
      cases found
      refine ⟨?_, ?_, ?_⟩
      · exact fun mine => Nat.lt_irrefl _ (opened.known _ (.inl mine))
      · exact fun mine => Nat.lt_irrefl _ (opened.known _ (.inr (.inl mine)))
      · exact fun mine => Nat.lt_irrefl _ (opened.known _ (.inr (.inr mine)))
    · rw [List.getElem?_eq_none (by simp; omega)] at found
      contradiction
  · intro call taker
    rw [List.length_append]
    exact Nat.lt_add_right _ (opened.known call taker)

variable {executor : Executor ρ α β} {event : Executor.Event ρ α β}

theorem takesParts (opened : Opened executor.office takers)
    (was : executor.executes[call]? = some .takingParts) :
    Opened { executor.office.setExecute call (.takingSender executor.hasParts) with
      hasParts := false } (takers.extend executor (.executing call .proceed)) := by
  obtain ⟨noParts, noSender, noReceiver⟩ := opened.fits call _ was
  have cell : executor.hasParts = takers.parts.isNone := opened.parts
  rw [Takers.extend, was]
  dsimp only
  cases has : executor.hasParts with
  | true =>
    rw [has] at cell
    have full : takers.parts = none := Option.isNone_iff_eq_none.mp cell.symm
    rw [if_pos rfl]
    refine opened.exchange was rfl ⟨by simp, by simp, noSender, noReceiver⟩
      (fun other phase apart fits => fits.withParts full apart) rfl opened.sender opened.receiver ?_
    rintro who (mine | taker)
    · exact .inl (Option.some.inj mine).symm
    · exact .inr (.inr taker)
  | false =>
    rw [has] at cell
    rw [if_neg (by simp)]
    refine opened.exchange was rfl ⟨?_, by simp [noParts], noSender, noReceiver⟩
      (fun _ _ _ fits => fits) cell opened.sender opened.receiver fun _ taker => .inr taker
    intro full
    rw [full] at cell
    contradiction

theorem takesSender {hasParts : Bool} (opened : Opened executor.office takers)
    (was : executor.executes[call]? = some (.takingSender hasParts)) :
    Opened { executor.office.setExecute call (.takingReceiver hasParts executor.hasSender) with
      hasSender := false } (takers.extend executor (.executing call .proceed)) := by
  obtain ⟨empty, parts, noSender, noReceiver⟩ := opened.fits call _ was
  have cell : executor.hasSender = takers.sender.isNone := opened.sender
  rw [Takers.extend, was]
  dsimp only
  cases has : executor.hasSender with
  | true =>
    rw [has] at cell
    have full : takers.sender = none := Option.isNone_iff_eq_none.mp cell.symm
    rw [if_pos rfl]
    refine opened.exchange was rfl ⟨empty, by simp, parts, by simp, noReceiver⟩
      (fun other phase apart fits => fits.withSender full apart) opened.parts rfl opened.receiver ?_
    rintro who (taker | mine | taker)
    · exact .inr (.inl taker)
    · exact .inl (Option.some.inj mine).symm
    · exact .inr (.inr (.inr taker))
  | false =>
    rw [has] at cell
    rw [if_neg (by simp)]
    refine opened.exchange was rfl ⟨empty, ?_, parts, by simp [noSender], noReceiver⟩
      (fun _ _ _ fits => fits) opened.parts cell opened.receiver fun _ taker => .inr taker
    intro full
    rw [full] at cell
    contradiction

/-- A call that has been at all cells has got everything, or gives up. -/
theorem takesReceiver {hasParts hasSender : Bool} (opened : Opened executor.office takers)
    (was : executor.executes[call]? = some (.takingReceiver hasParts hasSender)) :
    Opened { executor.office.setExecute call
        (if hasParts && hasSender && executor.hasReceiver then .starting
          else .returned (.error .alreadyStarted)) with
      hasReceiver := false } (takers.extend executor (.executing call .proceed)) := by
  obtain ⟨noParts, noSender, parts, sender, noReceiver⟩ := opened.fits call _ was
  have cell : executor.hasReceiver = takers.receiver.isNone := opened.receiver
  rw [Takers.extend, was]
  dsimp only
  cases has : executor.hasReceiver with
  | true =>
    rw [has] at cell
    have full : takers.receiver = none := Option.isNone_iff_eq_none.mp cell.symm
    rw [if_pos rfl]
    refine opened.exchange was rfl ?_ (fun other phase apart fits => fits.withReceiver full apart)
      opened.parts opened.sender rfl ?_
    · by_cases complete : (hasParts && hasSender && true) = true
      · rw [if_pos complete]
        rw [Bool.and_true, Bool.and_eq_true] at complete
        refine ⟨rfl, ?_⟩
        rw [Takers.one, parts.mp complete.1, sender.mp complete.2]
      · rw [if_neg complete]
        refine ⟨noParts, noSender, by simp, ?_⟩
        intro all
        have both := Takers.mk.inj all
        rw [Bool.and_true, Bool.and_eq_true] at complete
        exact complete ⟨parts.mpr both.1, sender.mpr both.2.1⟩
    · rintro who (taker | taker | mine)
      · exact .inr (.inl taker)
      · exact .inr (.inr (.inl taker))
      · exact .inl (Option.some.inj mine).symm
  | false =>
    rw [has] at cell
    rw [if_neg (by simp), if_neg (by simp)]
    refine opened.exchange was rfl ⟨noParts, noSender, ?_, ?_⟩ (fun _ _ _ fits => fits)
      opened.parts opened.sender cell fun _ taker => .inr taker
    · intro full
      rw [full] at cell
      contradiction
    · rintro rfl
      exact noReceiver rfl

/-- A call that has got everything keeps it. -/
theorem goesOn {act : Executor.ExecuteAct} (opened : Opened executor.office takers)
    (was : executor.executes[call]? = some old) (taken : old.isTaking = false)
    (before : old.hasStarted = true) (started : new.hasStarted = true)
    (executes : next.executes = executor.executes.set call new)
    (parts : next.hasParts = executor.hasParts) (sender : next.hasSender = executor.hasSender)
    (receiver : next.hasReceiver = executor.hasReceiver) :
    Opened next (takers.extend executor (.executing call act)) := by
  rw [Takers.extend_taken was taken]
  have all := (Takers.fits_of_started before).mp (opened.fits call old was)
  exact opened.setExecute was executes ((Takers.fits_of_started started).mpr all) parts sender
    receiver

/-- A call that is past the cells and was not refused has got everything. -/
theorem started_of_past (opened : Opened office takers)
    (was : office.executes[call]? = some old) (taken : old.isTaking = false)
    (served : old ≠ .returned (.error .alreadyStarted)) : old.hasStarted = true := by
  rcases (opened.fits call old was).empty taken with got | refused
  · exact got.1
  · exact absurd refused.1 served

theorem started_of_serves {act : Executor.ExecuteAct} (opened : Opened executor.office takers)
    (was : executor.executes[call]? = some old) (turn : executor.Serves old act new) :
    old.hasStarted = true := by
  apply opened.started_of_past was
  · cases turn <;> rfl
  · rintro rfl
    cases turn

/-- Every step leaves the cells as the takers say, as long as nobody who executes finds its
flag raised. -/
theorem move (opened : Opened executor.office takers) (move : OfficeMove executor event office)
    (lowered : ∀ call, event ≠ .executing call (.readFlag true)) :
    Opened office (takers.extend executor event) := by
  cases move with
  | still others =>
    rw [Takers.extend_others others]
    exact opened
  | executes => exact opened.begins
  | aborts was => exact absurd rfl (lowered _)
  | enters was =>
    have fits := opened.fits _ _ was
    exact opened.setExecute was rfl fits rfl rfl rfl
  | takesParts was => exact opened.takesParts was
  | takesSender hasParts was => exact opened.takesSender was
  | takesReceiver hasParts hasSender was => exact opened.takesReceiver was
  | starts was => exact opened.goesOn was rfl rfl rfl rfl rfl rfl rfl
  | strands worker panic was unnamed => exact opened.goesOn was rfl rfl rfl rfl rfl rfl rfl
  | retreats old new lifecycle was turn =>
    have taken : old.isTaking = false := by cases turn <;> rfl
    have before : old.hasStarted = true := by cases turn <;> rfl
    have started : new.hasStarted = true := by cases turn <;> rfl
    exact opened.goesOn was taken before started rfl rfl rfl rfl
  | spawns worker was named willing =>
    refine opened.goesOn was rfl rfl ?_ rfl rfl rfl rfl
    split <;> rfl
  | serves old new was turn =>
    have taken : old.isTaking = false := by cases turn <;> rfl
    have started := opened.started_of_serves was turn
    exact opened.goesOn was taken started (ExecutePhase.hasStarted_of_serves turn started) rfl rfl
      rfl rfl
  | settles outcome was =>
    have started := opened.started_of_past was rfl (by simp)
    exact opened.goesOn was rfl started (ExecutePhase.hasStarted_of_settling started) rfl rfl rfl
      rfl
  | cancels was | awaits | collects was free | joins worker rest total was ended
  | leaves total was => exact opened.same rfl rfl rfl rfl

end Opened

namespace Opened

variable {office : Office β} {takers : Takers} {call : Nat} {phase : ExecutePhase β}

/-- If a call has got everything, every other call that knows its lot was refused. -/
theorem alone (opened : Opened office takers)
    (known : ∀ phase ∈ office.executes, phase.isTaking = false)
    (found : office.executes[call]? = some phase) (started : phase.hasStarted = true) :
    takers = .one call ∧ ∀ other phase, other ≠ call → office.executes[other]? = some phase →
      phase = .returned (.error .alreadyStarted) := by
  have all := (Takers.fits_of_started started).mp (opened.fits call phase found)
  refine ⟨all, fun other phase apart there => ?_⟩
  rcases (opened.fits other phase there).empty (known phase (List.mem_of_getElem? there)) with
    ⟨-, also⟩ | ⟨refused, -⟩
  · have same := congrArg Takers.parts (all.symm.trans also)
    exact absurd (Option.some.inj same).symm apart
  · exact refused

/-- If no call has got everything, every call that knows its lot was refused, and the cells were
emptied by different calls. -/
theorem scattered (opened : Opened office takers) (called : office.executes ≠ [])
    (known : ∀ phase ∈ office.executes, phase.isTaking = false)
    (nobody : ∀ phase ∈ office.executes, phase.hasStarted = false) :
    (∀ call, takers ≠ .one call) ∧ office.hasParts = false ∧
      ∀ phase ∈ office.executes, phase = .returned (.error .alreadyStarted) := by
  have lot : ∀ call phase, office.executes[call]? = some phase →
      phase = .returned (.error .alreadyStarted) ∧ takers.parts ≠ none ∧ takers ≠ .one call := by
    intro call phase found
    have member := List.mem_of_getElem? found
    rcases (opened.fits call phase found).empty (known phase member) with
      ⟨started, -⟩ | ⟨refused, parts, -, -, different⟩
    · rw [nobody phase member] at started
      contradiction
    · exact ⟨refused, parts, different⟩
  refine ⟨?_, ?_, ?_⟩
  · intro call all
    have inside := opened.known call (.inl (all ▸ rfl))
    exact (lot call _ (List.getElem?_eq_getElem inside)).2.2 all
  · obtain ⟨phase, member⟩ := List.exists_mem_of_ne_nil _ called
    obtain ⟨call, found⟩ := List.mem_iff_getElem?.mp member
    rw [opened.parts, Option.isNone_eq_false_iff, Option.isSome_iff_ne_none]
    exact (lot call phase found).2.1
  · intro phase member
    obtain ⟨call, found⟩ := List.mem_iff_getElem?.mp member
    exact (lot call phase found).1

end Opened

theorem opened_create (config : ExecutorConfig) (hooked : Bool) (kinds : List SourceKind) :
    Opened (Executor.create config hooked kinds : Executor ρ α β).office {} := by
  refine ⟨rfl, rfl, rfl, ?_, ?_⟩
  · intro call phase found
    contradiction
  · rintro call (taker | taker | taker) <;> contradiction

/-! ### Every call comes to know its lot -/

namespace Executor

/-- With no more than a few steps of its own the call comes to know whether it got everything. -/
def Learns (executor : Executor ρ α β) (call steps : Nat) : Prop :=
  ∃ rest later phase, rest.length ≤ steps ∧
    (∀ event ∈ rest,
      event = .executing call (.readFlag false) ∨ event = .executing call .proceed) ∧
    executor.run rest = some later ∧ later.executes[call]? = some phase ∧ phase.isTaking = false

/-- The call takes a step and is so many steps away from knowing it. -/
def Advances (executor : Executor ρ α β) (call steps : Nat) : Prop :=
  ∃ act next phase, (act = .readFlag false ∨ act = .proceed) ∧
    executor.step (.executing call act) = some next ∧ next.executes[call]? = some phase ∧
    phase.ahead = steps

variable {executor next : Executor ρ α β} {call steps : Nat}

theorem learns_of_known {phase : ExecutePhase β} (found : executor.executes[call]? = some phase)
    (known : phase.isTaking = false) : executor.Learns call steps :=
  ⟨[], executor, phase, Nat.zero_le _, by simp, rfl, found, known⟩

theorem learns_of_step {act : ExecuteAct} (lowered : act = .readFlag false ∨ act = .proceed)
    (stepped : executor.step (.executing call act) = some next) (learns : next.Learns call steps) :
    executor.Learns call (steps + 1) := by
  obtain ⟨rest, later, phase, short, only, ran, found, known⟩ := learns
  refine ⟨.executing call act :: rest, later, phase, Nat.succ_le_succ short, ?_, ?_, found, known⟩
  · intro event among
    rcases List.mem_cons.mp among with rfl | among
    · rcases lowered with rfl | rfl
      · exact .inl rfl
      · exact .inr rfl
    · exact only event among
  · rw [run, stepped]
    exact ran

/-- A call that does not know its lot yet can take its next step, whatever others do. -/
theorem advances {phase : ExecutePhase β} (found : executor.executes[call]? = some phase)
    (ahead : phase.ahead = steps + 1) : executor.Advances call steps := by
  obtain ⟨inside, -⟩ := List.getElem?_eq_some_iff.mp found
  have goes : ∀ (act : ExecuteAct) (next : Executor ρ α β) (new : ExecutePhase β),
      act = .readFlag false ∨ act = .proceed →
      executor.step (.executing call act) = some next →
      next.executes = executor.executes.set call new → new.ahead = steps →
      executor.Advances call steps := by
    intro act next new lowered stepped executes left
    refine ⟨act, next, new, lowered, stepped, ?_, left⟩
    rw [executes]
    exact List.getElem?_set_self inside
  cases phase with
  | entering =>
    have stepped : executor.step (.executing call (.readFlag false)) =
        some (executor.setExecute call .takingParts) := by
      simp only [step, stepExecute, found]
      rfl
    exact goes _ _ .takingParts (.inl rfl) stepped rfl (Nat.succ.inj ahead)
  | takingParts =>
    have stepped : executor.step (.executing call .proceed) =
        some { executor.setExecute call (.takingSender executor.hasParts) with
          hasParts := false } := by
      simp only [step, stepExecute, found]
    exact goes _ _ (.takingSender executor.hasParts) (.inr rfl) stepped rfl (Nat.succ.inj ahead)
  | takingSender hasParts =>
    have stepped : executor.step (.executing call .proceed) =
        some { executor.setExecute call (.takingReceiver hasParts executor.hasSender) with
          hasSender := false } := by
      simp only [step, stepExecute, found]
    exact goes _ _ (.takingReceiver hasParts executor.hasSender) (.inr rfl) stepped rfl
      (Nat.succ.inj ahead)
  | takingReceiver hasParts hasSender =>
    let taken : Executor ρ α β := { executor with hasReceiver := false }
    have stepped : executor.step (.executing call .proceed) =
        some (if hasParts && hasSender && executor.hasReceiver then taken.setExecute call .starting
          else taken.abandon call hasSender) := by
      simp only [step, stepExecute, found, taken]
    by_cases complete : (hasParts && hasSender && executor.hasReceiver) = true
    · rw [if_pos complete] at stepped
      exact goes .proceed _ .starting (.inr rfl) stepped rfl (Nat.succ.inj ahead)
    · rw [if_neg complete] at stepped
      exact goes .proceed _ (.returned (.error .alreadyStarted)) (.inr rfl) stepped
        (congrArg Office.executes (office_abandon call hasSender)) (Nat.succ.inj ahead)
  | starting | spawning | waiting | checkingFlag | checkingSlot | judging | settling | recording
  | retreating | withdrawing | returned | panicked => contradiction

/-- A call is never held up before it knows its lot, by induction on the steps ahead. -/
theorem learns {phase : ExecutePhase β} (found : executor.executes[call]? = some phase) :
    executor.Learns call phase.ahead := by
  generalize left : phase.ahead = steps
  induction steps generalizing executor phase with
  | zero => exact learns_of_known found (ExecutePhase.isTaking_of_ahead left)
  | succ steps ih =>
    obtain ⟨act, next, new, lowered, stepped, foundNext, leftNext⟩ := advances found left
    exact learns_of_step lowered stepped (ih foundNext leftNext)

end Executor

end BoundedIngest

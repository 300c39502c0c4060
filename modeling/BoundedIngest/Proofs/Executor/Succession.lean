/-
Module: BoundedIngest.Proofs.Executor.Succession
Purpose: Which state follows which, and who decides on the last one.
Main exports:
  Lifecycle.successors, Lifecycle.Follows, Lifecycle.Spares, ExecutePhase.isUnderway,
  ExecutePhase.Suits, Executor.Vacant, Executor.Presides, Executor.ruled_of_run, Executor.Leaves,
  Executor.lifecycle_succession
-/
import BoundedIngest.Proofs.Executor.Announcing
import BoundedIngest.Proofs.Executor.Calls

namespace BoundedIngest

/-!
Four parties write the state: a call that executes does so when it starts and when its outcome
is clear, a shutdown does, and so does a call that waits for termination.  None of them holds on
to the state in between.  That no writer undoes what another one wrote rests on one fact: there
is at most one call that ever gets everything it needs to start, and how far it has come tells
what the others can have made of the state.
-/

variable {ρ α β : Type}

namespace Lifecycle

/-- The values that may come next. -/
def successors : Lifecycle → List Lifecycle
  | .created => [.running]
  | .running => [.cancelled, .completed, .failed, .terminated]
  | .cancelled => [.completed, .failed, .terminated]
  | .completed | .failed => [.terminated]
  | .terminated => []

/-- Nothing changes, or one of the successors is taken. -/
def Follows (next current : Lifecycle) : Prop :=
  next = current ∨ next ∈ current.successors

/-- An execution was announced, and it has not told its outcome. -/
def isOpen : Lifecycle → Bool
  | .running | .cancelled | .terminated => true
  | .created | .completed | .failed => false

/-- An outcome was told. -/
def isVerdict : Lifecycle → Bool
  | .completed | .failed | .cancelled => true
  | .created | .running | .terminated => false

variable {current next : Lifecycle}

theorem follows_shutDown (current : Lifecycle) : current.shutDown.Follows current := by
  cases current <;> simp [Follows, shutDown, successors]

theorem follows_afterJoining (current : Lifecycle) (joined : Nat) :
    (current.afterJoining joined).Follows current := by
  unfold afterJoining
  split
  · rename_i reaches
    cases current with
    | created => contradiction
    | running | completed | failed | cancelled => exact .inr (by simp [successors])
    | terminated => exact .inl rfl
  · exact .inl rfl

/-- An execution that was announced may end in any way. -/
theorem follows_settle (announced : current.isOpen = true) (verdict : next.isVerdict = true) :
    (current.settle next).Follows current := by
  cases current <;> cases next <;> first | contradiction | simp [Follows, settle, successors]

/-- What somebody who does not execute may make of the state. -/
structure Spares (next current : Lifecycle) : Prop where
  created : current = .created → next = .created
  announced : current.isOpen = true → next.isOpen = true
  told : current.isVerdict = true → next = .terminated ∨ next = current
  finished : current = .terminated → next = .terminated

theorem spares_self (current : Lifecycle) : current.Spares current :=
  ⟨id, id, fun _ => .inr rfl, id⟩

theorem spares_shutDown (current : Lifecycle) : current.shutDown.Spares current := by
  constructor <;> cases current <;> simp [shutDown, isOpen, isVerdict]

theorem spares_afterJoining (current : Lifecycle) (joined : Nat) :
    (current.afterJoining joined).Spares current := by
  unfold afterJoining
  split
  · rename_i reaches
    refine ⟨?_, fun _ => rfl, fun _ => .inl rfl, fun _ => rfl⟩
    rintro rfl
    contradiction
  · exact spares_self current

/-- What an execution tells stands, unless everything is over already. -/
theorem settle_cases (current next : Lifecycle) :
    current.settle next = .terminated ∨ current.settle next = next := by
  unfold settle
  split
  · exact .inl rfl
  · exact .inr rfl

/-! ### Several changes -/

/-- How late a value comes. -/
def rank : Lifecycle → Nat
  | .created => 0
  | .running => 1
  | .cancelled => 2
  | .completed | .failed => 3
  | .terminated => 4

theorem Follows.rank (follows : next.Follows current) : current.rank ≤ next.rank := by
  rcases follows with rfl | successor
  · exact Nat.le_refl _
  · cases current <;> cases next <;> first | contradiction | decide

theorem created_of_rank (early : current.rank ≤ 0) : current = .created := by
  cases current <;> first | rfl | (simp [Lifecycle.rank] at early)

theorem created_or_running_of_rank (early : current.rank ≤ 1) :
    current = .created ∨ current = .running := by
  cases current <;> first | exact .inl rfl | exact .inr rfl | (simp [Lifecycle.rank] at early)

theorem terminated_of_rank (late : 4 ≤ current.rank) : current = .terminated := by
  cases current <;> first | rfl | (simp [Lifecycle.rank] at late)

end Lifecycle

theorem Executor.isVerdict_classify (outcome : Except ExecError β) :
    (classify outcome).1.isVerdict = true := by
  cases outcome with
  | ok result => rfl
  | error error =>
    simp only [classify]
    split <;> rfl

namespace ExecutePhase

/-- The call runs: it has got everything and has not returned. -/
def isUnderway : ExecutePhase β → Bool
  | .starting | .spawning _ | .retreating _ | .withdrawing .. => true
  | phase => phase.isServed

/-- The call has the parts, or had them when it started. -/
def hasParts (phase : ExecutePhase β) : Bool := phase.isReadying || phase.isUnderway

/-- The state, seen from the call that has got everything. -/
def Suits : ExecutePhase β → Lifecycle → Prop
  | .starting, current => current = .created
  | .spawning _, current | .waiting, current | .checkingFlag, current | .checkingSlot, current
  | .judging _, current | .panicked _, current | .retreating _, current
  | .withdrawing .., current => current.isOpen = true
  | .settling outcome, current => outcome ≠ .error .alreadyStarted ∧ current.isOpen = true
  | .recording outcome, current | .returned outcome, current =>
      outcome ≠ .error .alreadyStarted ∧
        (current = .terminated ∨ current = (Executor.classify outcome).1)
  | _, _ => False

variable {old new phase : ExecutePhase β} {current : Lifecycle} {executor : Executor ρ α β}
  {act : Executor.ExecuteAct}

/-- Nobody else spoils the state for the call. -/
theorem suits_of_spares {next : Lifecycle} (suits : phase.Suits current)
    (spares : next.Spares current) : phase.Suits next := by
  cases phase with
  | starting => exact spares.created suits
  | spawning | waiting | checkingFlag | checkingSlot | judging | retreating | withdrawing
  | panicked => exact spares.announced suits
  | settling outcome => exact suits.imp_right spares.announced
  | recording outcome | returned outcome =>
    refine suits.imp_right fun told => ?_
    rcases told with finished | told
    · exact .inl (spares.finished finished)
    · have verdict : current.isVerdict = true := told ▸ Executor.isVerdict_classify outcome
      exact (spares.told verdict).imp_right (·.trans told)
  | entering | takingParts | takingSender | takingReceiver => contradiction

/-- The state is told by nobody before the call settles. -/
theorem suits_of_serves (turn : executor.Serves old act new) (suits : old.Suits current) :
    new.Suits current := by
  cases turn with
  | fails error failed =>
    refine ⟨?_, suits⟩
    obtain ⟨captured, -, rfl⟩ := Option.map_eq_some_iff.mp failed
    simp [CapturedFailure.toExecError]
  | judges signal => exact ⟨judge_ne_alreadyStarted executor signal, suits⟩
  | interrupted => exact ⟨by simp, suits⟩
  | records outcome => exact suits
  | receives | givesUp | timesOut | checksFlag | checksSlot => exact suits

/-- A call that was refused a worker tells that it failed. -/
theorem suits_of_retreats (turn : executor.Retreats old new current)
    (suits : old.Suits executor.lifecycle) : new.Suits current := by
  cases turn with
  | isRefused | withdraws => exact suits
  | gives shutdown reason done => exact ⟨by simp, Lifecycle.settle_cases _ _⟩

theorem isUnderway_of_retreats (turn : executor.Retreats old new current) :
    old.isUnderway = true := by
  cases turn <;> rfl

theorem hasParts_of_serves (turn : executor.Serves old act new) : old.hasParts = true := by
  cases turn <;> rfl

end ExecutePhase

namespace Executor

/-! ### The call that presides -/

/-- No call runs, and at most one can come to run. -/
structure Vacant (executor : Executor ρ α β) : Prop where
  created : executor.lifecycle = .created
  single : executor.executes.countP ExecutePhase.hasParts + executor.hasParts.toNat ≤ 1
  idle : ∀ phase ∈ executor.executes, phase.isUnderway = false

/-- The call has got everything, nobody else can get it, and the state suits the call. -/
structure Presides (executor : Executor ρ α β) (call : Nat) : Prop where
  gone : executor.hasParts = false
  alone : ∀ other phase, executor.executes[other]? = some phase → phase.hasParts = true →
    other = call
  suits : ∃ phase, executor.executes[call]? = some phase ∧ phase.Suits executor.lifecycle

variable {executor next final : Executor ρ α β} {event : Event ρ α β} {call mover : Nat}
  {old new phase : ExecutePhase β} {act : ExecuteAct}

namespace Presides

/-- A call that executes goes on; only the one that presides may change the state. -/
theorem exchange (presides : executor.Presides call)
    (was : executor.executes[mover]? = some old)
    (executes : next.executes = executor.executes.set mover new)
    (gone : next.hasParts = false) (keeps : new.hasParts = true → old.hasParts = true)
    (others : mover ≠ call → next.lifecycle = executor.lifecycle)
    (own : old.Suits executor.lifecycle → new.Suits next.lifecycle) : next.Presides call := by
  have inside := (List.getElem?_eq_some_iff.mp was).1
  refine ⟨gone, ?_, ?_⟩
  · intro other phase found has
    rw [executes] at found
    by_cases here : mover = other
    · subst here
      rw [List.getElem?_set_self inside] at found
      cases found
      exact presides.alone mover old was (keeps has)
    · rw [List.getElem?_set_ne here] at found
      exact presides.alone other phase found has
  · obtain ⟨phase, found, suits⟩ := presides.suits
    rw [executes]
    by_cases mine : mover = call
    · subst mine
      cases was.symm.trans found
      exact ⟨new, List.getElem?_set_self inside, own suits⟩
    · refine ⟨phase, (List.getElem?_set_ne mine).trans found, ?_⟩
      rw [others mine]
      exact suits

/-- A call that executes goes on, and the state stays. -/
theorem goesOn (presides : executor.Presides call)
    (was : executor.executes[mover]? = some old)
    (executes : next.executes = executor.executes.set mover new)
    (gone : next.hasParts = false) (keeps : new.hasParts = true → old.hasParts = true)
    (lifecycle : next.lifecycle = executor.lifecycle)
    (own : ∀ {current}, old.Suits current → new.Suits current) : next.Presides call :=
  presides.exchange was executes gone keeps (fun _ => lifecycle) fun suits => lifecycle ▸ own suits

/-- No call that executes goes on. -/
theorem same (presides : executor.Presides call) (executes : next.executes = executor.executes)
    (gone : next.hasParts = executor.hasParts)
    (spares : next.lifecycle.Spares executor.lifecycle) : next.Presides call := by
  refine ⟨gone.trans presides.gone, ?_, ?_⟩
  · rw [executes]
    exact presides.alone
  · rw [executes]
    obtain ⟨phase, found, suits⟩ := presides.suits
    exact ⟨phase, found, ExecutePhase.suits_of_spares suits spares⟩

/-- A call that begins has nothing yet. -/
theorem begins (presides : executor.Presides call)
    (executes : next.executes = executor.executes ++ [.entering])
    (gone : next.hasParts = executor.hasParts) (lifecycle : next.lifecycle = executor.lifecycle) :
    next.Presides call := by
  obtain ⟨phase, found, suits⟩ := presides.suits
  refine ⟨gone.trans presides.gone, ?_, phase, ?_, lifecycle ▸ suits⟩
  · intro other phase found has
    rw [executes] at found
    rcases last_or_before found with ⟨-, rfl⟩ | before
    · contradiction
    · exact presides.alone other phase before has
  · rw [executes]
    exact (List.getElem?_append_left (List.getElem?_eq_some_iff.mp found).1).trans found

/-- Once a call presides, it does so for good. -/
theorem step (presides : executor.Presides call) (stepped : executor.step event = some next) :
    next.Presides call := by
  have move := officeMove_of_step stepped
  generalize seen : next.office = office at move
  have executes : next.executes = office.executes := congrArg Office.executes seen
  have parts : next.hasParts = office.hasParts := congrArg Office.hasParts seen
  have lifecycle : next.lifecycle = office.lifecycle := congrArg Office.lifecycle seen
  have gone : office.hasParts = executor.hasParts → next.hasParts = false :=
    fun same => (parts.trans same).trans presides.gone
  cases move with
  | still | awaits | collects | joins =>
    exact presides.same executes parts (lifecycle ▸ Lifecycle.spares_self _)
  | executes => exact presides.begins executes parts lifecycle
  | cancels was => exact presides.same executes parts (lifecycle ▸ Lifecycle.spares_shutDown _)
  | leaves total was =>
    exact presides.same executes parts (lifecycle ▸ Lifecycle.spares_afterJoining _ total)
  | starts was =>
    refine presides.exchange was executes (gone rfl) (fun _ => rfl) ?_ ?_
    · exact fun other => absurd (presides.alone _ _ was rfl) other
    · intro created
      rw [lifecycle, show executor.lifecycle = .created from created]
      rfl
  | settles outcome was =>
    refine presides.exchange was executes (gone rfl) (fun _ => rfl) ?_ ?_
    · exact fun other => absurd (presides.alone _ _ was rfl) other
    · intro suits
      rw [lifecycle]
      exact ⟨suits.1, Lifecycle.settle_cases _ _⟩
  | takesParts was =>
    refine presides.goesOn was executes parts (fun has => ?_) lifecycle fun nothing => nothing.elim
    rw [presides.gone] at has
    contradiction
  | takesReceiver hasParts hasSender was =>
    refine presides.goesOn was executes (gone rfl) (fun has => ?_) lifecycle fun nothing =>
      nothing.elim
    split at has
    · rename_i complete
      rw [Bool.and_eq_true, Bool.and_eq_true] at complete
      simp [ExecutePhase.hasParts, ExecutePhase.isReadying, complete.1.1]
    · contradiction
  | aborts was | enters was =>
    exact presides.goesOn was executes (gone rfl) (fun has => by contradiction) lifecycle
      fun nothing => nothing.elim
  | takesSender hasParts was =>
    exact presides.goesOn was executes (gone rfl) id lifecycle fun nothing => nothing.elim
  | strands worker panic was unnamed =>
    exact presides.goesOn was executes (gone rfl) (fun _ => rfl) lifecycle id
  | spawns worker was named willing =>
    refine presides.goesOn was executes (gone rfl) (fun _ => rfl) lifecycle fun suits => ?_
    split <;> exact suits
  | serves old new was turn =>
    exact presides.goesOn was executes (gone rfl)
      (fun _ => ExecutePhase.hasParts_of_serves turn) lifecycle (ExecutePhase.suits_of_serves turn)
  | retreats old new current was turn =>
    have has : old.hasParts = true := by cases turn <;> rfl
    refine presides.exchange was executes (gone rfl) (fun _ => has) ?_ ?_
    · exact fun other => absurd (presides.alone _ _ was has) other
    · intro suits
      rw [lifecycle]
      exact ExecutePhase.suits_of_retreats turn suits

theorem run {events : List (Event ρ α β)} (presides : executor.Presides call)
    (ran : executor.run events = some final) : final.Presides call := by
  induction events generalizing executor with
  | nil =>
    cases ran
    exact presides
  | cons event rest ih =>
    obtain ⟨middle, stepped, ran⟩ := Option.bind_eq_some_iff.mp ran
    exact ih (presides.step stepped) ran

end Presides

namespace Vacant

/-- A call goes on and does not come to run. -/
theorem goesOn (vacant : executor.Vacant) (was : executor.executes[mover]? = some old)
    (executes : next.executes = executor.executes.set mover new)
    (fewer : new.hasParts.toNat + next.hasParts.toNat ≤
      old.hasParts.toNat + executor.hasParts.toNat)
    (idle : new.isUnderway = false) (lifecycle : next.lifecycle = executor.lifecycle) :
    next.Vacant := by
  refine ⟨lifecycle.trans vacant.created, ?_, ?_⟩
  · have counted := countP_set_add ExecutePhase.hasParts new was
    have single := vacant.single
    rw [executes]
    omega
  · intro phase found
    rw [executes] at found
    rcases List.mem_or_eq_of_mem_set found with before | rfl
    · exact vacant.idle phase before
    · exact idle

/-- No call that executes goes on. -/
theorem same (vacant : executor.Vacant) (executes : next.executes = executor.executes)
    (parts : next.hasParts = executor.hasParts)
    (spares : next.lifecycle.Spares executor.lifecycle) : next.Vacant := by
  refine ⟨spares.created vacant.created, ?_, ?_⟩
  · rw [executes, parts]
    exact vacant.single
  · rw [executes]
    exact vacant.idle

/-- A call that has got everything presides from then on. -/
theorem presides_of_starting (vacant : executor.Vacant)
    (was : executor.executes[mover]? = some old) (has : old.hasParts = true)
    (executes : next.executes = executor.executes.set mover .starting)
    (parts : next.hasParts = executor.hasParts) (lifecycle : next.lifecycle = executor.lifecycle) :
    next.Presides mover := by
  have inside := (List.getElem?_eq_some_iff.mp was).1
  have single := vacant.single
  have counted : 0 < executor.executes.countP ExecutePhase.hasParts :=
    List.countP_pos_iff.mpr ⟨old, List.mem_of_getElem? was, has⟩
  refine ⟨?_, ?_, .starting, ?_, lifecycle.trans vacant.created⟩
  · rw [parts]
    cases here : executor.hasParts with
    | false => rfl
    | true =>
      rw [here, Bool.toNat_true] at single
      omega
  · intro other phase found otherHas
    by_cases here : mover = other
    · exact here.symm
    · rw [executes, List.getElem?_set_ne here] at found
      have twice := two_le_countP here was has found otherHas
      omega
  · rw [executes]
    exact List.getElem?_set_self inside

theorem step (vacant : executor.Vacant) (stepped : executor.step event = some next) :
    next.Vacant ∨ ∃ call, next.Presides call := by
  have move := officeMove_of_step stepped
  generalize seen : next.office = office at move
  have executes : next.executes = office.executes := congrArg Office.executes seen
  have parts : next.hasParts = office.hasParts := congrArg Office.hasParts seen
  have lifecycle : next.lifecycle = office.lifecycle := congrArg Office.lifecycle seen
  have idle : ∀ {call : Nat} {phase : ExecutePhase β}, executor.executes[call]? = some phase →
      phase.isUnderway = true → False := by
    intro call phase found runs
    have still := vacant.idle phase (List.mem_of_getElem? found)
    rw [runs] at still
    contradiction
  cases move with
  | still | awaits | collects | joins =>
    exact .inl (vacant.same executes parts (lifecycle ▸ Lifecycle.spares_self _))
  | cancels was => exact .inl (vacant.same executes parts (lifecycle ▸ Lifecycle.spares_shutDown _))
  | leaves total was =>
    exact .inl (vacant.same executes parts (lifecycle ▸ Lifecycle.spares_afterJoining _ total))
  | executes =>
    refine .inl ⟨lifecycle.trans vacant.created, ?_, ?_⟩
    · rw [executes, parts, List.countP_append]
      exact vacant.single
    · intro phase found
      rw [executes] at found
      rcases List.mem_append.mp found with before | begun
      · exact vacant.idle phase before
      · rw [List.mem_singleton.mp begun]
        rfl
  | aborts was | enters was =>
    refine .inl (vacant.goesOn was executes ?_ rfl lifecycle)
    rw [parts]
    exact Nat.le_refl _
  | takesParts was =>
    refine .inl (vacant.goesOn was executes ?_ rfl lifecycle)
    rw [parts]
    exact Nat.le_of_eq (by cases executor.hasParts <;> rfl)
  | takesSender hasParts was =>
    refine .inl (vacant.goesOn was executes ?_ rfl lifecycle)
    rw [parts]
    exact Nat.le_refl _
  | takesReceiver hasParts hasSender was =>
    by_cases complete : (hasParts && hasSender && executor.hasReceiver) = true
    · rw [if_pos complete] at executes
      rw [Bool.and_eq_true, Bool.and_eq_true] at complete
      have has : (ExecutePhase.takingReceiver hasParts hasSender : ExecutePhase β).hasParts =
          true := by
        simp [ExecutePhase.hasParts, ExecutePhase.isReadying, complete.1.1]
      exact .inr ⟨_, vacant.presides_of_starting was has executes parts lifecycle⟩
    · rw [if_neg complete] at executes
      refine .inl (vacant.goesOn was executes ?_ rfl lifecycle)
      rw [parts]
      exact Nat.add_le_add_right (Nat.zero_le _) _
  | starts was | strands worker panic was unnamed | spawns worker was named willing
  | settles outcome was => exact (idle was rfl).elim
  | retreats old new current was turn =>
    exact (idle was (ExecutePhase.isUnderway_of_retreats turn)).elim
  | serves old new was turn => exact (idle was (by cases turn <;> rfl)).elim

end Vacant

theorem vacant_create (config : ExecutorConfig) (hooked : Bool) (kinds : List SourceKind)
    {refuses : Nat → Option String} :
    (create config hooked kinds refuses : Executor ρ α β).Vacant :=
  ⟨rfl, by simp [create], by simp [create]⟩

/-- Either no call has come to run, or one presides, by induction on the steps. -/
theorem ruled_of_run {events : List (Event ρ α β)} (vacant : executor.Vacant)
    (ran : executor.run events = some final) : final.Vacant ∨ ∃ call, final.Presides call := by
  induction events generalizing executor with
  | nil =>
    cases ran
    exact .inl vacant
  | cons event rest ih =>
    obtain ⟨middle, stepped, ran⟩ := Option.bind_eq_some_iff.mp ran
    rcases vacant.step stepped with still | ⟨call, presides⟩
    · exact ih still ran
    · exact .inr ⟨call, presides.run ran⟩

/-! ### One change of the state -/

/-- A call that runs presides. -/
theorem suits_of_underway (ruled : executor.Vacant ∨ ∃ call, executor.Presides call)
    (found : executor.executes[call]? = some phase) (runs : phase.isUnderway = true) :
    executor.Presides call ∧ phase.Suits executor.lifecycle := by
  rcases ruled with vacant | ⟨other, presides⟩
  · have idle := vacant.idle phase (List.mem_of_getElem? found)
    rw [runs] at idle
    contradiction
  · have has : phase.hasParts = true := by simp [ExecutePhase.hasParts, runs]
    obtain rfl := presides.alone call phase found has
    obtain ⟨same, there, suits⟩ := presides.suits
    cases there.symm.trans found
    exact ⟨presides, suits⟩

theorem follows_of_step (ruled : executor.Vacant ∨ ∃ call, executor.Presides call)
    (stepped : executor.step event = some next) :
    next.lifecycle.Follows executor.lifecycle := by
  have move := officeMove_of_step stepped
  generalize seen : next.office = office at move
  have lifecycle : next.lifecycle = office.lifecycle := congrArg Office.lifecycle seen
  rw [lifecycle]
  cases move with
  | cancels was => exact Lifecycle.follows_shutDown _
  | leaves total was => exact Lifecycle.follows_afterJoining _ total
  | starts was =>
    have created := (suits_of_underway ruled was rfl).2
    rw [show executor.lifecycle = .created from created]
    exact .inr (List.mem_singleton.mpr rfl)
  | settles outcome was =>
    exact Lifecycle.follows_settle (suits_of_underway ruled was rfl).2.2
      (isVerdict_classify outcome)
  | retreats old new current was turn =>
    have suits := (suits_of_underway ruled was (ExecutePhase.isUnderway_of_retreats turn)).2
    cases turn with
    | isRefused | withdraws => exact .inl rfl
    | gives => exact Lifecycle.follows_settle suits rfl
  | _ => exact .inl rfl

theorem rank_of_run {events : List (Event ρ α β)}
    (ruled : executor.Vacant ∨ ∃ call, executor.Presides call)
    (ran : executor.run events = some final) :
    executor.lifecycle.rank ≤ final.lifecycle.rank := by
  induction events generalizing executor with
  | nil =>
    cases ran
    exact Nat.le_refl _
  | cons event rest ih =>
    obtain ⟨middle, stepped, ran⟩ := Option.bind_eq_some_iff.mp ran
    have later : middle.Vacant ∨ ∃ call, middle.Presides call := by
      rcases ruled with vacant | ⟨call, presides⟩
      · exact vacant.step stepped
      · exact .inr ⟨call, presides.step stepped⟩
    exact Nat.le_trans (follows_of_step ruled stepped).rank (ih later ran)

/-! ### Calls that do not run -/

/-- A call that changes the state has started. -/
theorem hasStarted_of_change (ruled : executor.Vacant ∨ ∃ call, executor.Presides call)
    (stepped : executor.step (.executing call act) = some next)
    (changed : next.lifecycle ≠ executor.lifecycle) :
    ∃ phase, next.executes[call]? = some phase ∧ phase.hasStarted = true := by
  have move := officeMove_of_step stepped
  generalize seen : next.office = office at move
  have executes : next.executes = office.executes := congrArg Office.executes seen
  have lifecycle : next.lifecycle = office.lifecycle := congrArg Office.lifecycle seen
  rw [executes]
  cases move with
  | starts was =>
    exact ⟨_, List.getElem?_set_self (List.getElem?_eq_some_iff.mp was).1, rfl⟩
  | settles outcome was =>
    have suits := (suits_of_underway ruled was rfl).2
    exact ⟨_, List.getElem?_set_self (List.getElem?_eq_some_iff.mp was).1,
      (ExecutePhase.hasStarted_of_outcome suits.1).2.1⟩
  | retreats old new current was turn =>
    have started : new.hasStarted = true := by cases turn <;> rfl
    exact ⟨_, List.getElem?_set_self (List.getElem?_eq_some_iff.mp was).1, started⟩
  | _ => exact absurd lifecycle changed

/-- What a call needs to run lies where it lay, and nobody was told anything. -/
structure Leaves (executor next : Executor ρ α β) : Prop where
  lifecycle : next.lifecycle = executor.lifecycle
  parts : next.hasParts = executor.hasParts
  sender : next.hasSender = executor.hasSender
  receiver : next.hasReceiver = executor.hasReceiver
  producers : next.producers = executor.producers
  consumer : next.consumer = executor.consumer
  channel : next.channel = executor.channel
  failure : next.failure = executor.failure

theorem leaves_of_abort (was : executor.executes[call]? = some .entering)
    (stepped : executor.step (.executing call (.readFlag true)) = some next) :
    next.executes[call]? = some (.returned (.error .aborted)) ∧ executor.Leaves next := by
  simp only [step, stepExecute, was] at stepped
  cases stepped
  exact ⟨List.getElem?_set_self (List.getElem?_eq_some_iff.mp was).1,
    ⟨rfl, rfl, rfl, rfl, rfl, rfl, rfl, rfl⟩⟩

theorem leaves_of_execute (stepped : executor.step .execute = some next) :
    executor.Leaves next := by
  cases stepped
  exact ⟨rfl, rfl, rfl, rfl, rfl, rfl, rfl, rfl⟩

/-- Everything that a call needs is there. -/
def isComplete (executor : Executor ρ α β) : Bool :=
  executor.hasParts && executor.hasSender && executor.hasReceiver

/-- A new call begins, finds its flag lowered, empties the cells and announces its start. -/
def entrance (call : Nat) : List (Event ρ α β) :=
  .execute :: .executing call (.readFlag false) :: List.replicate 4 (.executing call .proceed)

/-- A new call can take everything and announce its start. -/
def Admits (executor : Executor ρ α β) : Prop :=
  ∃ final, executor.run (entrance executor.executes.length) = some final ∧
    final.executes[executor.executes.length]? = some (.spawning 0) ∧
    final.lifecycle = .running

theorem admits_of_isComplete (ruled : executor.Vacant ∨ ∃ call, executor.Presides call)
    (complete : executor.isComplete = true) : executor.Admits := by
  unfold isComplete at complete
  rw [Bool.and_eq_true, Bool.and_eq_true] at complete
  obtain ⟨⟨parts, sender⟩, receiver⟩ := complete
  have created : executor.lifecycle = .created := by
    rcases ruled with vacant | ⟨call, presides⟩
    · exact vacant.created
    · rw [presides.gone] at parts
      contradiction
  simp [Admits, entrance, run, step, stepExecute, setExecute, parts, sender, receiver, created,
    Lifecycle.settle, List.replicate]

/-! ### The whole life -/

/-- Whatever calls execute, shut down and wait for termination at the same time: from one step
to the next the state stays or moves to a successor, it never comes back to Created or Running,
and Terminated is final.  A call that is refused has not changed the state.  A call that finds
its flag raised when it begins changes neither the state nor what a call needs to run, and as
long as all of that is there, another call can run it.  At most one call ever runs, and after it
has returned, the state tells its outcome or is Terminated. -/
theorem lifecycle_succession {config : ExecutorConfig} {hooked : Bool} {kinds : List SourceKind}
    {events : List (Event ρ α β)} (ran : (create config hooked kinds).run events = some executor) :
    (∀ event next, executor.step event = some next →
      next.lifecycle.Follows executor.lifecycle) ∧
    (∀ later final, executor.run later = some final →
      (final.lifecycle = .created → executor.lifecycle = .created) ∧
      (final.lifecycle = .running →
        executor.lifecycle = .created ∨ executor.lifecycle = .running) ∧
      (executor.lifecycle = .terminated → final.lifecycle = .terminated)) ∧
    (∀ call act next later final, executor.step (.executing call act) = some next →
      next.run later = some final →
      final.executes[call]? = some (.returned (.error .alreadyStarted)) →
      next.lifecycle = executor.lifecycle) ∧
    (∀ next, executor.step .execute = some next → executor.Leaves next) ∧
    (∀ call next, executor.executes[call]? = some .entering →
      executor.step (.executing call (.readFlag true)) = some next →
      next.executes[call]? = some (.returned (.error .aborted)) ∧ executor.Leaves next ∧
        (executor.isComplete = true → next.Admits)) ∧
    (executor.isComplete = true → executor.Admits) ∧
    ∀ (call : Nat) (phase : ExecutePhase β), executor.executes[call]? = some phase →
      phase.isUnderway = true → ∀ later final, executor.run later = some final →
        (∀ (other : Nat) (phase : ExecutePhase β), final.executes[other]? = some phase →
          phase.isUnderway = true → other = call) ∧
        ∀ outcome, final.executes[call]? = some (.returned outcome) →
          final.lifecycle = .terminated ∨ final.lifecycle = (classify outcome).1 := by
  have ruled := ruled_of_run (vacant_create config hooked kinds) ran
  refine ⟨fun event next stepped => follows_of_step ruled stepped, ?_, ?_,
    fun next stepped => leaves_of_execute stepped, ?_, admits_of_isComplete ruled, ?_⟩
  · intro later final goesOn
    have later := rank_of_run ruled goesOn
    refine ⟨fun created => ?_, fun running => ?_, fun finished => ?_⟩
    · rw [created] at later
      exact Lifecycle.created_of_rank later
    · rw [running] at later
      exact Lifecycle.created_or_running_of_rank later
    · rw [finished] at later
      exact Lifecycle.terminated_of_rank later
  · intro call act next later final stepped goesOn refused
    by_contra changed
    obtain ⟨phase, found, started⟩ := hasStarted_of_change ruled stepped changed
    obtain ⟨last, there, still⟩ := hasStarted_of_run goesOn found started
    cases there.symm.trans refused
    contradiction
  · intro call next was stepped
    obtain ⟨returned, leaves⟩ := leaves_of_abort was stepped
    refine ⟨returned, leaves, fun complete => ?_⟩
    have later : next.Vacant ∨ ∃ call, next.Presides call := by
      rcases ruled with vacant | ⟨other, presides⟩
      · exact vacant.step stepped
      · exact .inr ⟨other, presides.step stepped⟩
    refine admits_of_isComplete later ?_
    rw [isComplete, leaves.parts, leaves.sender, leaves.receiver]
    exact complete
  · intro call phase found runs later final goesOn
    have presides := (suits_of_underway ruled found runs).1.run goesOn
    refine ⟨fun other phase there underway => ?_, fun outcome returned => ?_⟩
    · exact presides.alone other phase there (by simp [ExecutePhase.hasParts, underway])
    · obtain ⟨last, there, suits⟩ := presides.suits
      cases there.symm.trans returned
      exact suits.2

/-- A call is turned away by its flag, and another one announces the start. -/
def recalledRun : List (Event Nat Nat Nat) :=
  [.execute, .executing 0 (.readFlag true)] ++ entrance 1

/-- A shutdown cuts in before the first worker, and the flag of the caller is raised later. -/
def curtailedRest : List (Event Nat Nat Nat) :=
  [.shutdown, .shuttingDown 0, .notifyQueue 2 none, .notifyQueue 2 none, .shuttingDown 0,
    .shuttingDown 0, .shuttingDown 0, .executing 1 .proceed, .executing 1 .proceed,
    .executing 1 .timeout, .executing 1 (.readFlag true), .executing 1 .proceed,
    .executing 1 .proceed]

/-- The call has returned and was aborted. -/
def endedAborted : Option (ExecutePhase Nat) → Bool
  | some (.returned (.error .aborted)) => true
  | _ => false

/-- A start after an abort, which is then cancelled: the state at the end tells the outcome. -/
theorem lifecycle_succession_inhabited :
    ∃ executor final : Executor Nat Nat Nat,
      (create {} false [.records]).run recalledRun = some executor ∧
        executor.lifecycle = .running ∧ executor.run curtailedRest = some final ∧
        final.executes[1]? = some (.returned (.error .aborted)) ∧
        (final.lifecycle = .terminated ∨
          final.lifecycle = (classify (.error .aborted : Except ExecError Nat)).1) := by
  have runs : ((create {} false [.records]).run recalledRun).map
      (fun executor : Executor Nat Nat Nat => executor.lifecycle == .running &&
        executor.executes[1]?.any (·.isUnderway) && (executor.run curtailedRest).any fun final =>
          endedAborted final.executes[1]?) = some true := by
    decide +kernel
  obtain ⟨executor, ran, facts⟩ := Option.map_eq_some_iff.mp runs
  simp only [Bool.and_eq_true, beq_iff_eq, Option.any_eq_true] at facts
  obtain ⟨⟨running, phase, found, underway⟩, final, goesOn, ended⟩ := facts
  have returned : final.executes[1]? = some (.returned (.error .aborted)) := by
    unfold endedAborted at ended
    split at ended
    · assumption
    · contradiction
  obtain ⟨-, -, -, -, -, -, decides⟩ := lifecycle_succession ran
  exact ⟨executor, final, ran, running, goesOn, returned,
    (decides 1 phase found underway _ final goesOn).2 _ returned⟩

end Executor

end BoundedIngest

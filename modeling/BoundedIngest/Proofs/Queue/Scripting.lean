/-
Module: BoundedIngest.Proofs.Queue.Scripting
Purpose: Scripts are orderly: when an action begins, every insert before it has returned or
  waits, so the sizes in a script decide the capacity.
Main exports:
  Script.Action.offers, Script.State.advance_keeps, Script.State.drain_keeps, Script.Ready,
  Script.Rested, Script.Rested.steps, Script.scales_of_script
-/
import BoundedIngest.Proofs.Queue.Closing
import BoundedIngest.Proofs.Queue.Weighing

namespace BoundedIngest.Script

open SharedQueue (Event)

/-!
The script lets a call go on until it waits or returns, and then lets those go on that it has
notified.  An insert takes two steps at most until it has the lock, and nothing else that goes
on brings a measurement along; so nothing is on its way when the next action begins.
-/

variable {β : Type}

/-- The size of an item, which can always be measured. -/
def Item.estimate (item : Item β) : Option UInt64 := some item.size

/-- The size that an action offers. -/
def Action.offers : Action β → List (Option UInt64)
  | .insert _ size => [some size]
  | _ => []

variable {shared next : SharedQueue (Item β)} {lines : WaitLines} {state : State β}
variable {event : Event (Item β)} {caller position total fuel : Nat}

/-! ### Steps of calls in progress -/

/-- A call that goes on is in progress, takes the step itself, and offers nothing. -/
theorem own_of_nextEvent (goesOn : shared.nextEvent? lines Item.size caller = some event) :
    event.caller? = some caller ∧ shared.calls[caller]? ≠ some .idle ∧
      event.offers Item.estimate = [] ∧ shared.allows Item.estimate event = true := by
  unfold SharedQueue.nextEvent? at goesOn
  split at goesOn
  · rename_i entry found
    cases goesOn
    refine ⟨rfl, by simp [found], rfl, ?_⟩
    rw [SharedQueue.allows, found]
    exact beq_self_eq_true _
  all_goals first
    | contradiction
    | rename_i found
      cases goesOn
      exact ⟨rfl, by simp [found], rfl, rfl⟩

/-- What the steps of calls in progress keep. -/
def Keeps (kept : SharedQueue (Item β) → Prop) : Prop :=
  ∀ shared lines caller event next, kept shared →
    shared.nextEvent? lines Item.size caller = some event → shared.step event = some next →
    kept next

namespace State

variable {kept : SharedQueue (Item β) → Prop}

theorem shared_apply (stepped : state.shared.step event = some next) :
    (state.apply caller event).shared = next := by
  rw [apply, stepped]

theorem advance_keeps (keeps : Keeps kept) (before : kept state.shared) :
    kept (state.advance caller fuel).shared := by
  induction fuel generalizing state with
  | zero => exact before
  | succ fuel ih =>
    unfold advance
    split
    · exact before
    · rename_i event goesOn
      apply ih
      cases stepped : state.shared.step event with
      | none =>
        rw [apply, stepped]
        exact before
      | some next =>
        rw [shared_apply stepped]
        exact keeps _ _ _ _ _ before goesOn stepped

theorem drain_keeps (keeps : Keeps kept) (before : kept state.shared) :
    kept (state.drain fuel).shared := by
  induction fuel generalizing state with
  | zero => exact before
  | succ fuel ih =>
    unfold drain
    split
    · exact before
    · rename_i first others _
      apply ih
      exact @advance_keeps _ { state with notified := others } _ _ _ keeps before

theorem settle_keeps (keeps : Keeps kept) (before : kept state.shared) :
    kept (state.settle caller).shared :=
  drain_keeps keeps (advance_keeps keeps before)

end State

/-! ### Between two actions -/

/-- What the actions before `position` leave behind: what they offered is accounted for, and the
calls of the actions to come have not begun. -/
structure Ready (config : ExecutorConfig) (sizes : List (Option UInt64)) (position total : Nat)
    (shared : SharedQueue (Item β)) : Prop where
  accounted : shared.Accounted config Item.estimate sizes
  idle : ∀ caller, position ≤ caller → caller < total → shared.calls[caller]? = some .idle

variable {config : ExecutorConfig} {sizes : List (Option UInt64)}

theorem Ready.later (ready : Ready config sizes position total shared) :
    Ready config sizes (position + 1) total shared :=
  ⟨ready.accounted, fun caller after inside => ready.idle caller (by omega) inside⟩

/-- A step of a call that has begun, or begins here. -/
theorem Ready.step (ready : Ready config sizes position total shared)
    (allowed : shared.allows Item.estimate event = true)
    (begun : ∀ caller, position ≤ caller → caller < total → event.caller? ≠ some caller)
    (stepped : shared.step event = some next) :
    Ready config (sizes ++ event.offers Item.estimate) position total next := by
  refine ⟨ready.accounted.step allowed stepped, fun caller after inside => ?_⟩
  exact SharedQueue.kept_of_others (ready.idle caller after inside) rfl (begun caller after inside)
    stepped

theorem keeps_ready : Keeps (Ready config sizes position total : SharedQueue (Item β) → Prop) := by
  intro shared lines caller event next ready goesOn stepped
  obtain ⟨own, begun, silent, allowed⟩ := own_of_nextEvent goesOn
  have moved := ready.step allowed (fun other after inside whose => begun ?_) stepped
  · rwa [silent, List.append_nil] at moved
  · rw [own] at whose
    rw [Option.some.inj whose]
    exact ready.idle other after inside

/-- Nothing that goes on begins an insert. -/
theorem settled_of_step (silent : event.offers Item.estimate = [])
    (allowed : shared.allows Item.estimate event = true)
    (settled : shared.inFlight Item.estimate = []) (stepped : shared.step event = some next) :
    next.inFlight Item.estimate = [] := by
  cases SharedQueue.sampled_of_step allowed stepped with
  | offered caller entry begins was scales arrivals =>
    subst begins
    contradiction
  | landed caller size silent was scales arrivals =>
    have few : (shared.inFlight Item.estimate).length ≤ 1 := by
      rw [settled]
      exact Nat.zero_le 1
    obtain ⟨-, none⟩ := reduceOption_set_none was few
    rw [SharedQueue.inFlight, arrivals, none]
  | passed silent scales arrivals =>
    rw [SharedQueue.inFlight, arrivals]
    exact settled

theorem keeps_settled :
    Keeps fun shared : SharedQueue (Item β) => shared.inFlight Item.estimate = [] := by
  intro shared lines caller event next settled goesOn stepped
  obtain ⟨-, -, silent, allowed⟩ := own_of_nextEvent goesOn
  exact settled_of_step silent allowed settled stepped

/-! ### An insert -/

theorem inside_of_getElem? {calls : List (Call (Item β))} {call : Call (Item β)}
    (found : calls[caller]? = some call) : caller < calls.length :=
  (List.getElem?_eq_some_iff.mp found).1

/-- An insert that has been measured gets the lock with its next step. -/
theorem settled_of_inserting {entry : Item β} {size : Option UInt64}
    (few : (state.shared.inFlight Item.estimate).length ≤ 1)
    (found : state.shared.calls[caller]? = some (.inserting entry size)) :
    (state.advance caller (fuel + 1)).shared.inFlight Item.estimate = [] := by
  have goesOn : state.shared.nextEvent? state.lines Item.size caller = some (.enter caller) := by
    rw [SharedQueue.nextEvent?, found]
  have stepped : state.shared.step (.enter caller) =
      some (state.shared.firstInsert caller entry size) := by
    rw [SharedQueue.step, SharedQueue.enter, found]
  have was : (state.shared.arrivals Item.estimate)[caller]? = some (some size) :=
    SharedQueue.arrivals_getElem? found
  obtain ⟨-, arrivals⟩ :=
    @SharedQueue.scales_firstInsert _ state.shared Item.estimate caller entry size
  obtain ⟨-, none⟩ := reduceOption_set_none was few
  rw [State.advance, goesOn]
  apply State.advance_keeps keeps_settled
  rw [State.shared_apply stepped, SharedQueue.inFlight, arrivals, none]

/-- An insert that is being measured gets the lock with the step after the next. -/
theorem settled_of_measuring {entry : Item β}
    (few : (state.shared.inFlight Item.estimate).length ≤ 1)
    (found : state.shared.calls[caller]? = some (.measuring entry)) :
    (state.advance caller (fuel + 2)).shared.inFlight Item.estimate = [] := by
  have goesOn : state.shared.nextEvent? state.lines Item.size caller =
      some (.measured caller entry.size) := by
    rw [SharedQueue.nextEvent?, found]
  have stepped : state.shared.step (.measured caller entry.size) =
      some (state.shared.setCall caller (.inserting entry (some (measuredSize entry.size)))) := by
    rw [SharedQueue.step, found]
  have same : (state.apply caller (.measured caller entry.size)).shared.inFlight Item.estimate =
      state.shared.inFlight Item.estimate := by
    have stays : Call.arrival Item.estimate (.inserting entry (some (measuredSize entry.size))) =
        Call.arrival Item.estimate (.measuring entry) := rfl
    rw [State.shared_apply stepped, SharedQueue.inFlight,
      SharedQueue.arrivals_setCall_same found stays]
    rfl
  rw [State.advance, goesOn]
  apply settled_of_inserting
  · rw [same]
    exact few
  · rw [State.shared_apply stepped]
    exact List.getElem?_set_self (inside_of_getElem? found)

theorem step_insert {entry : Item β} (found : shared.calls[caller]? = some .idle) :
    ∃ next, shared.step (.insert caller entry) = some next ∧
      (next.calls[caller]? = some (.measuring entry) ∨
        next.calls[caller]? = some (.inserting entry none)) := by
  have now : ∀ call : Call (Item β), (shared.calls.set caller call)[caller]? = some call :=
    fun call => List.getElem?_set_self (inside_of_getElem? found)
  rw [SharedQueue.step, found]
  refine ⟨_, rfl, ?_⟩
  by_cases due : shared.sampler.isDue shared.sampler.seen = true
  · left
    rw [if_pos due]
    exact now _
  · right
    rw [if_neg due]
    exact now _

/-- What an action that begins at `position` leaves behind. -/
structure Rested (config : ExecutorConfig) (sizes : List (Option UInt64)) (position total : Nat)
    (shared : SharedQueue (Item β)) : Prop where
  ready : Ready config sizes position total shared
  settled : shared.inFlight Item.estimate = []

/-- An insert begins, and everything settles. -/
theorem Rested.insert {item : Item β} (rested : Rested config sizes position total state.shared)
    (inside : position < total) :
    Rested config (sizes ++ [some item.size]) (position + 1) total
      (state.call position (.insert position item)).1.shared := by
  have allowed : state.shared.allows Item.estimate (.insert position item) = true := by
    simpa [SharedQueue.allows] using SharedQueue.inFlight_eq_nil_iff.mp rested.settled
  have found := rested.ready.idle position (Nat.le_refl _) inside
  obtain ⟨next, stepped, arrives⟩ := @step_insert _ state.shared _ item found
  have begun : Ready config (sizes ++ [some item.size]) (position + 1) total
      (state.apply position (.insert position item)).shared := by
    rw [State.shared_apply stepped]
    apply rested.ready.later.step allowed _ stepped
    intro caller after _ whose
    cases whose
    omega
  constructor
  · exact State.settle_keeps keeps_ready begun
  · apply State.drain_keeps keeps_settled
    have few := begun.accounted.few
    rcases arrives with measuring | inserting
    · exact settled_of_measuring few (by rw [State.shared_apply stepped]; exact measuring)
    · exact settled_of_inserting few (by rw [State.shared_apply stepped]; exact inserting)

/-! ### Other actions -/

/-- A step that offers nothing, and is no step of an action to come. -/
theorem Rested.apply (rested : Rested config sizes position total state.shared)
    (silent : event.offers Item.estimate = [])
    (allowed : ∀ shared : SharedQueue (Item β), shared.allows Item.estimate event = true)
    (begun : ∀ caller, position ≤ caller → caller < total → event.caller? ≠ some caller) :
    Rested config sizes position total (state.apply caller event).shared := by
  cases stepped : state.shared.step event with
  | none =>
    rw [State.apply, stepped]
    exact rested
  | some next =>
    have moved := rested.ready.step (allowed _) begun stepped
    rw [silent, List.append_nil] at moved
    rw [State.shared_apply stepped]
    exact ⟨moved, settled_of_step silent (allowed _) rested.settled stepped⟩

theorem Rested.settle (rested : Rested config sizes position total state.shared) :
    Rested config sizes position total (state.settle caller).shared :=
  ⟨State.settle_keeps keeps_ready rested.ready, State.settle_keeps keeps_settled rested.settled⟩

theorem Rested.later (rested : Rested config sizes position total state.shared) :
    Rested config sizes (position + 1) total state.shared :=
  ⟨rested.ready.later, rested.settled⟩

/-- A pull or a close begins, and everything settles. -/
theorem Rested.call (rested : Rested config sizes position total state.shared)
    (whose : event.caller? = some position) (silent : event.offers Item.estimate = [])
    (allowed : ∀ shared : SharedQueue (Item β), shared.allows Item.estimate event = true) :
    Rested config sizes (position + 1) total (state.call position event).1.shared := by
  apply Rested.settle
  apply rested.later.apply silent allowed
  intro caller after _ same
  rw [whose] at same
  cases same
  omega

theorem Rested.perform {action : Action β}
    (rested : Rested config sizes position total state.shared) (inside : position < total) :
    Rested config (sizes ++ action.offers) (position + 1) total
      (state.perform position action).1.shared := by
  cases action with
  | insert value size => exact @Rested.insert _ _ _ _ _ _ { value, size } rested inside
  | next =>
    simp only [Action.offers, List.append_nil]
    exact rested.call rfl rfl (fun _ => rfl)
  | close =>
    simp only [Action.offers, List.append_nil]
    exact rested.call rfl rfl (fun _ => rfl)
  | iterate =>
    simp only [Action.offers, List.append_nil]
    exact rested.later
  | look =>
    simp only [Action.offers, List.append_nil]
    exact rested.later
  | iteratorNext iterator =>
    simp only [Action.offers, List.append_nil]
    unfold State.perform
    dsimp only
    split
    · exact rested.later
    · split
      · exact rested.later
      · split
        · exact rested.later
        · apply Rested.call _ rfl rfl (fun _ => rfl)
          exact rested
  | endStatus iterator =>
    simp only [Action.offers, List.append_nil]
    unfold State.perform
    dsimp only
    split
    · exact rested.later
    · exact rested.later
  | markDone =>
    simp only [Action.offers, List.append_nil]
    unfold State.perform
    dsimp only
    split
    · exact rested.later
    · apply Rested.settle
      exact rested.later.apply rfl (fun _ => rfl) (by simp [Event.caller?])

/-! ### Scripts -/

/-- Finished calls take their replies, which takes nothing from the scales. -/
theorem Rested.collect (rested : Rested config sizes position total state.shared) :
    Rested config sizes position total state.collect.1.shared := by
  unfold State.collect
  refine List.foldlRecOn _ _ (motive := fun (seen : State β × List (Nat × Result β)) =>
    Rested config sizes position total seen.1.shared) rested ?_
  rintro ⟨state, results⟩ rested caller -
  dsimp only at rested ⊢
  split
  · exact rested
  · rename_i reply replied
    apply rested.apply rfl (fun _ => rfl)
    intro other after inside whose
    cases whose
    rw [SharedQueue.reply?, rested.ready.idle caller after inside] at replied
    contradiction

theorem Rested.step {action : Action β} (rested : Rested config sizes position total state.shared)
    (inside : position < total) :
    Rested config (sizes ++ action.offers) (position + 1) total
      (state.step position action).1.shared :=
  (rested.perform inside).collect

theorem Rested.steps {actions : List (Action β)}
    (rested : Rested config sizes position total state.shared)
    (inside : position + actions.length ≤ total) :
    Rested config (sizes ++ actions.flatMap Action.offers) (position + actions.length) total
      (state.steps position actions).1.shared := by
  induction actions generalizing state position sizes with
  | nil =>
    rw [List.flatMap_nil, List.append_nil]
    exact rested
  | cons action actions ih =>
    rw [List.length_cons] at inside
    have others := ih (@Rested.step _ _ _ _ _ _ action rested (by omega)) (by omega)
    rw [List.flatMap_cons, ← List.append_assoc, List.length_cons, Nat.add_comm actions.length,
      ← Nat.add_assoc]
    exact others

theorem rested_start (config : ExecutorConfig) (producers : Nat) (actions : List (Action β)) :
    Rested config [] 0 (actions.length + 1) (State.start config producers actions).shared := by
  have idle : ∀ caller, caller < actions.length + 1 →
      (List.replicate (actions.length + 1) (Call.idle : Call (Item β)))[caller]? = some .idle :=
    fun caller inside => List.getElem?_replicate_of_lt inside
  refine ⟨⟨SharedQueue.accounted_start _ _ _, fun caller _ inside => idle caller inside⟩, ?_⟩
  apply SharedQueue.inFlight_eq_nil_iff.mpr
  intro call found
  rw [List.eq_of_mem_replicate found]
  rfl

/-- After any actions of a script, what they offered decides the scales. -/
theorem scales_of_script (config : ExecutorConfig) (producers : Nat)
    (actions rest : List (Action β)) :
    ((State.start config producers (actions ++ rest)).steps 0 actions).1.shared.scales =
      Scales.weigh config (actions.flatMap Action.offers) := by
  have enough : 0 + actions.length ≤ (actions ++ rest).length + 1 := by
    rw [List.length_append]
    omega
  have rested := (rested_start config producers (actions ++ rest)).steps enough
  rw [List.nil_append] at rested
  exact rested.ready.accounted.scales rested.settled

end BoundedIngest.Script

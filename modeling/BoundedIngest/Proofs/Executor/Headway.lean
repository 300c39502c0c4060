/-
Module: BoundedIngest.Proofs.Executor.Headway
Purpose: In an undisturbed run somebody can go on until everything is over.
Main exports:
  Chronicle.CanWork, Assignment.responsive, Undisturbed.headway
-/
import BoundedIngest.Proofs.Executor.Account
import BoundedIngest.Proofs.Executor.Crew
import BoundedIngest.Proofs.Executor.Standstill

namespace BoundedIngest

/-!
Workers never stand still before all of them have ended, and the consumer ends with a message
for the call that executes.  So while that call waits and has no message, some worker can go
on; and a call that does not wait can go on itself.
-/

variable {ρ α β : Type}

/-- Somebody other than the call that executes can take a step. -/
def Chronicle.CanWork (chronicle : Chronicle ρ α β) (assignment : Assignment ρ α) : Prop :=
  ∃ event next, (∀ call act, event ≠ .executing call act) ∧
    assignment.Permits chronicle event ∧ chronicle.step event = some next

/-- In an undisturbed run every callback can end well, and a source with what it was
assigned. -/
theorem Assignment.responsive [Nonempty β] (assignment : Assignment ρ α)
    (chronicle : Chronicle ρ α β) :
    chronicle.executor.Responsive (assignment.Permits chronicle) := by
  constructor
  · intro event work decided
    cases event with
    | enterQueue | notifyQueue | reportQueue => trivial
    | producer index act => cases act <;> first | exact ⟨rfl, trivial⟩ | contradiction
    | consumer act => cases act <;> first | rfl | contradiction
    | setFlag | execute | executing | shutdown | shuttingDown | await | awaiting => contradiction
  · intro index worker found runs
    cases phase : worker.phase with
    | hooking => exact ⟨.hookReturned, .hookReturned, rfl, trivial⟩
    | sourcing answer =>
      by_cases more :
          (chronicle.history.offeredTo index).length < (assignment.records index).length
      · exact ⟨_, .offered answer _, rfl, List.getElem?_eq_getElem more⟩
      · exact ⟨_, .sourceEnded answer, rfl, Nat.le_of_not_lt more⟩
    | transforming record => exact ⟨_, .transformed record _, rfl, due?_eq found phase⟩
    | _ =>
      rw [phase] at runs
      contradiction
  · exact fun index entry found => ⟨_, .measured 0, rfl, trivial⟩
  · intro runs
    cases phase : chronicle.executor.consumer.phase with
    | hooking => exact ⟨_, .hookReturned, rfl⟩
    | consuming entry => exact ⟨_, .consumed entry, rfl⟩
    | finishing => exact ⟨_, .finished, rfl⟩
    | concluding =>
      obtain ⟨result⟩ := ‹Nonempty β›
      exact ⟨_, .concluded result, rfl⟩
    | _ =>
      rw [phase] at runs
      contradiction

namespace Undisturbed

variable {assignment : Assignment ρ α} {config : ExecutorConfig} {hooked : Bool}
  {chronicle : Chronicle ρ α β}

theorem attended (undisturbed : Undisturbed assignment config hooked chronicle) :
    chronicle.executor.shared.Attended := by
  induction undisturbed with
  | start => exact Executor.attended_create config hooked _
  | step _ _ stepped ih =>
    exact ih.used (Executor.used_of_step (Chronicle.executor_of_step stepped))

/-- The consumer has ended only if the call that executes has a message, or had it. -/
theorem running_of_silent (undisturbed : Undisturbed assignment config hooked chronicle)
    (listening : ∀ phase ∈ chronicle.executor.executes, phase.isListening = true)
    (silent : chronicle.executor.channel.messages = []) :
    chronicle.executor.consumer.phase ≠ .ended := by
  intro ended
  have empty : chronicle.executor.snapshot.failure = none := undisturbed.calm.failure
  obtain ⟨result, sent⟩ := (undisturbed.reached.alarm.ended ended).resolve_left
    (fun failed => failed empty)
  rw [← undisturbed.crew.listening listening, silent] at sent
  contradiction

/-- While the call that executes listens and has nothing to hear, some worker can go on. -/
theorem works [Nonempty β] (undisturbed : Undisturbed assignment config hooked chronicle)
    {phase : ExecutePhase β} (only : chronicle.executor.executes = [phase])
    (manned : phase.isManned = true) (listening : phase.isListening = true)
    (silent : chronicle.executor.channel.messages = []) : chronicle.CanWork assignment := by
  have all : ∀ other ∈ chronicle.executor.executes, other.isListening = true := by
    rw [only]
    intro other found
    rwa [List.mem_singleton.mp found]
  obtain ⟨everybody, born⟩ := undisturbed.crew.manned phase (by simp [only]) manned
  have running := undisturbed.running_of_silent all silent
  obtain ⟨event, executor, work, permitted, stepped⟩ := Executor.works undisturbed.reached
    undisturbed.attended (assignment.responsive chronicle) everybody born (.inr running)
  refine ⟨event, _, ?_, permitted, Option.map_eq_some_iff.mpr ⟨executor, stepped, rfl⟩⟩
  rintro call act rfl
  contradiction

/-- The call that executes can go on unless it waits, or has ended: nobody refuses it anything. -/
theorem canProceed {phase : ExecutePhase β}
    (undisturbed : Undisturbed assignment config hooked chronicle)
    (only : chronicle.executor.executes = [phase])
    (busy : phase ≠ .waiting) (running : ∀ outcome, phase ≠ .returned outcome)
    (alive : ∀ panic, phase ≠ .panicked panic) :
    ∃ act next, act ≠ .timeout ∧ assignment.Permits chronicle (.executing 0 act) ∧
      chronicle.step (.executing 0 act) = some next := by
  have first : chronicle.executor.executes[0]? = some phase := by
    rw [only]
    rfl
  have steady : phase.isRetreating = false := by
    have supplies := undisturbed.calm.supplied only
    cases phase <;> first | rfl | exact supplies.elim
  obtain ⟨act, executor, lowered, stepped⟩ :=
    Executor.proceeds undisturbed.reached first steady busy running alive
  refine ⟨act, _, ?_, ?_, Option.map_eq_some_iff.mpr ⟨executor, stepped, rfl⟩⟩
  · rcases lowered with rfl | rfl <;> simp
  · rcases lowered with rfl | rfl
    · rfl
    · trivial

/-- Unless the call that executes has ended, somebody can do something better than let the
call wait longer. -/
theorem headway [Nonempty β] (undisturbed : Undisturbed assignment config hooked chronicle)
    (running : ∀ outcome, chronicle.executor.executes ≠ [.returned outcome])
    (alive : ∀ panic, chronicle.executor.executes ≠ [.panicked panic]) :
    ∃ event next, (∀ call, event ≠ .executing call .timeout) ∧
      assignment.Permits chronicle event ∧ chronicle.step event = some next := by
  rcases undisturbed.calm.caller with ⟨none, -⟩ | ⟨phase, only, -⟩
  · exact ⟨.execute, _, by simp, none, rfl⟩
  by_cases waiting : phase = .waiting
  · subst waiting
    cases messages : chronicle.executor.channel.messages with
    | nil =>
      obtain ⟨event, next, apart, permitted, stepped⟩ := undisturbed.works only rfl rfl messages
      exact ⟨event, next, fun call => apart call .timeout, permitted, stepped⟩
    | cons signal rest =>
      have first : chronicle.executor.executes[0]? = some .waiting := by
        rw [only]
        rfl
      have possible : (chronicle.executor.stepExecute 0 .proceed).isSome = true := by
        simp [Executor.stepExecute, first, messages]
      obtain ⟨executor, stepped⟩ := Option.isSome_iff_exists.mp possible
      exact ⟨.executing 0 .proceed, _, by simp, trivial,
        Option.map_eq_some_iff.mpr ⟨executor, stepped, rfl⟩⟩
  · obtain ⟨act, next, patient, permitted, stepped⟩ := undisturbed.canProceed only
      waiting (fun outcome same => running outcome (same ▸ only))
      (fun panic same => alive panic (same ▸ only))
    exact ⟨.executing 0 act, next, by simp [patient], permitted, stepped⟩

end Undisturbed

end BoundedIngest

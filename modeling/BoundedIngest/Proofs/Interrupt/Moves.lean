/-
Module: BoundedIngest.Proofs.Interrupt.Moves
Purpose: What each step does to a flag and to those who use it, and who has its lock.
Main exports:
  InterruptFlag.start, WaitPhase.Next, InterruptFlag.Moved, InterruptFlag.moved_of_step,
  InterruptFlag.run_concat, InterruptFlag.Exclusive, InterruptFlag.exclusive_of_run
-/
import BoundedIngest.Interrupt.Flag
import BoundedIngest.Proofs.Lists

namespace BoundedIngest

/-!
A step is one sleeper's, one raiser's, the clock's, or lowers the flag.  Sleepers differ in
where they stand only, so all their steps are one kind of step, by which a sleeper goes from
one phase to the next.  Nobody takes the lock while somebody has it.
-/

namespace InterruptFlag

/-- A flag that some threads may sleep on and others may raise. -/
def start (raised : Bool) (clock sleepers raisers : Nat) : InterruptFlag :=
  { raised, clock
    sleepers := List.replicate sleepers .idle
    raisers := List.replicate raisers .idle }

end InterruptFlag

open InterruptFlag

variable {flag next origin final : InterruptFlag} {event : Event} {events : List Event}

/-! ### Steps -/

/-- How a step of its own takes a sleeper from one phase to another. -/
inductive WaitPhase.Next (flag : InterruptFlag) (sleeper : Nat) :
    Event → WaitPhase → WaitPhase → Prop where
  | sleeps (duration : Nat) :
      Next flag sleeper (.sleep sleeper duration) .idle (.arriving (flag.clock + duration))
  | locks (deadline : Nat) (free : flag.isLocked = false) :
      Next flag sleeper (.lock sleeper) (.arriving deadline) (.examining deadline)
  | seesRaised (deadline : Nat) (raised : flag.raised = true) :
      Next flag sleeper (.examine sleeper) (.examining deadline) (.leaving deadline)
  | seesLowered (deadline : Nat) (lowered : flag.raised = false) :
      Next flag sleeper (.examine sleeper) (.examining deadline) (.timing deadline)
  | isLate (deadline : Nat) (late : deadline ≤ flag.clock) :
      Next flag sleeper (.lookAtClock sleeper) (.timing deadline) (.leaving deadline)
  | waits (deadline : Nat) (early : flag.clock < deadline) :
      Next flag sleeper (.lookAtClock sleeper) (.timing deadline) (.waiting deadline)
  | expires (deadline : Nat) (late : deadline ≤ flag.clock) :
      Next flag sleeper (.expire sleeper) (.waiting deadline) (.arriving deadline)
  | answers (deadline : Nat) :
      Next flag sleeper (.answer sleeper) (.leaving deadline) (.returned flag.raised)

namespace InterruptFlag

/-- What a step does. -/
inductive Moved (flag : InterruptFlag) : Event → InterruptFlag → Prop where
  | sleeper {event : Event} (sleeper : Nat) (old new : WaitPhase)
      (was : flag.sleepers[sleeper]? = some old)
      (moves : WaitPhase.Next flag sleeper event old new) :
      Moved flag event (flag.setSleeper sleeper new)
  | locked (raiser : Nat) (was : flag.raisers[raiser]? = some .idle)
      (free : flag.isLocked = false) :
      Moved flag (.lockToRaise raiser) (flag.setRaiser raiser .raising)
  | raised (raiser : Nat) (was : flag.raisers[raiser]? = some .raising) :
      Moved flag (.raise raiser) ({ flag with raised := true }.setRaiser raiser .notifying)
  | notified (raiser : Nat) (was : flag.raisers[raiser]? = some .notifying) :
      Moved flag (.notifyAll raiser)
        ({ flag with sleepers := flag.sleepers.map WaitPhase.notify }.setRaiser raiser .idle)
  | lowered : Moved flag .lower { flag with raised := false }
  | elapsed (duration : Nat) :
      Moved flag (.elapse duration) { flag with clock := flag.clock + duration }

/-- A sleeper that does not have the lock begins to sleep, takes the lock, or has waited long
enough. -/
theorem moved_of_outside {sleeper : Nat}
    (outside : (∃ duration, event = .sleep sleeper duration) ∨ event = .lock sleeper ∨
      event = .expire sleeper) (stepped : flag.step event = some next) :
    Moved flag event next := by
  rcases outside with ⟨duration, rfl⟩ | rfl | rfl
  · dsimp only [step] at stepped
    split at stepped
    · rename_i was
      cases stepped
      exact .sleeper sleeper _ _ was (.sleeps duration)
    · contradiction
  · dsimp only [step] at stepped
    split at stepped
    · rename_i deadline was
      split at stepped
      · contradiction
      · rename_i free
        cases stepped
        exact .sleeper sleeper _ _ was (.locks deadline (Bool.eq_false_iff.mpr free))
    · contradiction
  · dsimp only [step] at stepped
    split at stepped
    · rename_i deadline was
      split at stepped
      · rename_i late
        cases stepped
        exact .sleeper sleeper _ _ was (.expires deadline late)
      · contradiction
    · contradiction

/-- A sleeper that has the lock looks at the flag or at the clock, or answers. -/
theorem moved_of_inside {sleeper : Nat}
    (inside : event = .examine sleeper ∨ event = .lookAtClock sleeper ∨ event = .answer sleeper)
    (stepped : flag.step event = some next) : Moved flag event next := by
  rcases inside with rfl | rfl | rfl
  · dsimp only [step] at stepped
    split at stepped
    · rename_i deadline was
      cases stepped
      split
      · rename_i raised
        exact .sleeper sleeper _ _ was (.seesRaised deadline raised)
      · rename_i lowered
        exact .sleeper sleeper _ _ was (.seesLowered deadline (Bool.eq_false_iff.mpr lowered))
    · contradiction
  · dsimp only [step] at stepped
    split at stepped
    · rename_i deadline was
      cases stepped
      split
      · rename_i late
        exact .sleeper sleeper _ _ was (.isLate deadline late)
      · rename_i early
        exact .sleeper sleeper _ _ was (.waits deadline (Nat.not_le.mp early))
    · contradiction
  · dsimp only [step] at stepped
    split at stepped
    · rename_i deadline was
      cases stepped
      exact .sleeper sleeper _ _ was (.answers deadline)
    · contradiction

theorem moved_of_raiser {raiser : Nat}
    (raises : event = .lockToRaise raiser ∨ event = .raise raiser ∨ event = .notifyAll raiser)
    (stepped : flag.step event = some next) : Moved flag event next := by
  rcases raises with rfl | rfl | rfl
  · dsimp only [step] at stepped
    split at stepped
    · rename_i was
      split at stepped
      · contradiction
      · rename_i free
        cases stepped
        exact .locked raiser was (Bool.eq_false_iff.mpr free)
    · contradiction
  · dsimp only [step] at stepped
    split at stepped
    · rename_i was
      cases stepped
      exact .raised raiser was
    · contradiction
  · dsimp only [step] at stepped
    split at stepped
    · rename_i was
      cases stepped
      exact .notified raiser was
    · contradiction

theorem moved_of_step (stepped : flag.step event = some next) : Moved flag event next := by
  cases event with
  | sleep sleeper duration => exact moved_of_outside (.inl ⟨duration, rfl⟩) stepped
  | lock sleeper => exact moved_of_outside (.inr (.inl rfl)) stepped
  | expire sleeper => exact moved_of_outside (.inr (.inr rfl)) stepped
  | examine sleeper => exact moved_of_inside (.inl rfl) stepped
  | lookAtClock sleeper => exact moved_of_inside (.inr (.inl rfl)) stepped
  | answer sleeper => exact moved_of_inside (.inr (.inr rfl)) stepped
  | lockToRaise raiser => exact moved_of_raiser (.inl rfl) stepped
  | raise raiser => exact moved_of_raiser (.inr (.inl rfl)) stepped
  | notifyAll raiser => exact moved_of_raiser (.inr (.inr rfl)) stepped
  | lower =>
    cases stepped
    exact .lowered
  | elapse duration =>
    cases stepped
    exact .elapsed duration

theorem run_append (flag : InterruptFlag) (first second : List Event) :
    flag.run (first ++ second) = (flag.run first).bind (·.run second) := by
  induction first generalizing flag with
  | nil => rfl
  | cons event first ih =>
    rw [List.cons_append, run, run, Option.bind_assoc]
    exact congrArg _ (funext ih)

theorem run_concat (ran : flag.run (events ++ [event]) = some final) :
    ∃ middle, flag.run events = some middle ∧ middle.step event = some final := by
  rw [run_append] at ran
  obtain ⟨middle, ranFirst, rest⟩ := Option.bind_eq_some_iff.mp ran
  obtain ⟨last, stepped, done⟩ := Option.bind_eq_some_iff.mp rest
  cases done
  exact ⟨middle, ranFirst, stepped⟩

/-! ### The lock -/

/-- At most one thread has the lock. -/
def Exclusive (flag : InterruptFlag) : Prop :=
  flag.sleepers.countP WaitPhase.holdsLock + flag.raisers.countP RaisePhase.holdsLock ≤ 1

theorem countP_of_free (free : flag.isLocked = false) :
    flag.sleepers.countP WaitPhase.holdsLock = 0 ∧
      flag.raisers.countP RaisePhase.holdsLock = 0 := by
  rw [isLocked, Bool.or_eq_false_iff] at free
  constructor
  · exact List.countP_eq_zero.mpr (by simpa using free.1)
  · exact List.countP_eq_zero.mpr (by simpa using free.2)

/-- A sleeper only gets a lock that is free. -/
theorem holdsLock_of_next {sleeper : Nat} {old new : WaitPhase}
    (moves : WaitPhase.Next flag sleeper event old new) :
    flag.isLocked = false ∨ new.holdsLock.toNat ≤ old.holdsLock.toNat := by
  cases moves with
  | locks deadline free => exact .inl free
  | _ => exact .inr (Nat.le_of_ble_eq_true rfl)

theorem countP_notify (sleepers : List WaitPhase) :
    (sleepers.map WaitPhase.notify).countP WaitPhase.holdsLock =
      sleepers.countP WaitPhase.holdsLock := by
  have same : WaitPhase.holdsLock ∘ WaitPhase.notify = WaitPhase.holdsLock := by
    funext phase
    cases phase <;> rfl
  rw [List.countP_map, same]

theorem exclusive_of_step (exclusive : Exclusive flag) (stepped : flag.step event = some next) :
    Exclusive next := by
  unfold Exclusive at exclusive ⊢
  cases moved_of_step stepped with
  | sleeper sleeper old new was moves =>
    have counted := countP_set_add WaitPhase.holdsLock new was
    have least := Bool.toNat_le new.holdsLock
    dsimp only [setSleeper]
    rcases holdsLock_of_next moves with free | less
    · obtain ⟨noSleeper, noRaiser⟩ := countP_of_free free
      omega
    · omega
  | locked raiser was free =>
    obtain ⟨noSleeper, noRaiser⟩ := countP_of_free free
    have counted := countP_set_gain RaisePhase.holdsLock .raising was rfl rfl
    dsimp only [setRaiser]
    omega
  | raised raiser was =>
    have counted := countP_set_same RaisePhase.holdsLock .notifying was rfl
    dsimp only [setRaiser]
    omega
  | notified raiser was =>
    have counted := countP_set_add RaisePhase.holdsLock .idle was
    have same := countP_notify flag.sleepers
    have none : RaisePhase.holdsLock .idle = false := rfl
    rw [none, Bool.toNat_false] at counted
    dsimp only [setRaiser]
    omega
  | lowered => exact exclusive
  | elapsed duration => exact exclusive

theorem exclusive_start (raised : Bool) (clock sleepers raisers : Nat) :
    Exclusive (start raised clock sleepers raisers) := by
  have nobody : (List.replicate sleepers WaitPhase.idle).countP WaitPhase.holdsLock = 0 := by
    simp [List.countP_replicate, WaitPhase.holdsLock]
  have noRaiser : (List.replicate raisers RaisePhase.idle).countP RaisePhase.holdsLock = 0 := by
    simp [List.countP_replicate, RaisePhase.holdsLock]
  unfold Exclusive
  dsimp only [start]
  omega

theorem exclusive_of_run (exclusive : Exclusive origin) (ran : origin.run events = some final) :
    Exclusive final := by
  induction events generalizing origin with
  | nil =>
    cases ran
    exact exclusive
  | cons event events ih =>
    obtain ⟨middle, stepped, ran⟩ := Option.bind_eq_some_iff.mp ran
    exact ih (exclusive_of_step exclusive stepped) ran

/-- A thread that raises the flag shuts out every sleeper. -/
theorem not_holdsLock_of_raiser {raiser : Nat} {phase : RaisePhase} (exclusive : Exclusive flag)
    (was : flag.raisers[raiser]? = some phase) (holds : phase.holdsLock = true) :
    ∀ sleeper ∈ flag.sleepers, sleeper.holdsLock = false := by
  intro sleeper found
  rw [Bool.eq_false_iff]
  intro also
  have one := List.countP_pos_iff.mpr ⟨phase, List.mem_of_getElem? was, holds⟩
  have other := List.countP_pos_iff.mpr ⟨sleeper, found, also⟩
  unfold Exclusive at exclusive
  omega

end InterruptFlag

end BoundedIngest

/-
Module: BoundedIngest.Proofs.Interrupt.Waking
Purpose: No thread goes on waiting while the flag it waits on is raised.
Main exports:
  WaitPhase.isUnaware, InterruptFlag.Heeded, InterruptFlag.heeded_of_step,
  InterruptFlag.no_lost_interrupt
-/
import BoundedIngest.Proofs.Interrupt.Moves

namespace BoundedIngest

/-!
A sleeper that has seen a lowered flag keeps the lock until it waits, and a raise sets the
flag only with the lock.  So when the flag goes up every sleeper that has seen it lowered
waits already, and stays within reach of the notification that the same raise still owes.
Lowering the flag takes no lock, but can only make there be less to miss.
-/

open InterruptFlag

variable {flag next origin final : InterruptFlag} {event : Event} {events : List Event}

/-- Has seen a lowered flag, and will not look again before it is notified or late. -/
def WaitPhase.isUnaware : WaitPhase → Bool
  | .timing _ | .waiting _ => true
  | _ => false

namespace InterruptFlag

/-- Whoever has not noticed that the flag is raised is still to be notified. -/
def Heeded (flag : InterruptFlag) : Prop :=
  flag.raised = true →
    .notifying ∈ flag.raisers ∨ ∀ sleeper ∈ flag.sleepers, sleeper.isUnaware = false

theorem isUnaware_of_next {sleeper : Nat} {old new : WaitPhase}
    (moves : WaitPhase.Next flag sleeper event old new) (raised : flag.raised = true) :
    new.isUnaware = false ∨ old.isUnaware = true := by
  cases moves with
  | seesLowered deadline lowered =>
    rw [raised] at lowered
    contradiction
  | waits deadline early => exact .inr rfl
  | _ => exact .inl rfl

theorem heeded_of_step (exclusive : Exclusive flag) (heeded : Heeded flag)
    (stepped : flag.step event = some next) : Heeded next := by
  intro up
  cases moved_of_step stepped with
  | sleeper sleeper old new was moves =>
    rcases heeded up with owed | aware
    · exact .inl owed
    · right
      intro phase found
      rcases List.mem_or_eq_of_mem_set found with before | rfl
      · exact aware phase before
      · rcases isUnaware_of_next moves up with stays | saw
        · exact stays
        · rw [aware old (List.mem_of_getElem? was)] at saw
          contradiction
  | locked raiser was free =>
    rcases heeded up with owed | aware
    · exact .inl (mem_set_of_ne owed was (by decide))
    · exact .inr aware
  | raised raiser was =>
    have inside : raiser < flag.raisers.length := (List.getElem?_eq_some_iff.mp was).1
    exact .inl (List.mem_set inside _)
  | notified raiser was =>
    -- Nobody stands between its look at the flag and its wait, since the raise has the lock.
    have shut := not_holdsLock_of_raiser exclusive was rfl
    right
    intro phase found
    obtain ⟨sleeper, present, rfl⟩ := List.mem_map.mp found
    have out := shut sleeper present
    cases sleeper with
    | timing deadline => contradiction
    | _ => rfl
  | lowered => contradiction
  | elapsed duration => exact heeded up

theorem heeded_of_run (exclusive : Exclusive origin) (heeded : Heeded origin)
    (ran : origin.run events = some final) : Heeded final := by
  induction events generalizing origin with
  | nil =>
    cases ran
    exact heeded
  | cons event events ih =>
    obtain ⟨middle, stepped, ran⟩ := Option.bind_eq_some_iff.mp ran
    exact ih (exclusive_of_step exclusive stepped) (heeded_of_step exclusive heeded stepped) ran

theorem heeded_start (raised : Bool) (clock sleepers raisers : Nat) :
    Heeded (start raised clock sleepers raisers) := by
  intro up
  right
  intro sleeper found
  rw [List.eq_of_mem_replicate found]
  rfl

/-- However sleeps, raises and lowerings are interleaved: where no raise has the lock and
the flag is raised, nobody waits. -/
theorem no_lost_interrupt {raised : Bool} {clock sleepers raisers : Nat}
    (ran : (start raised clock sleepers raisers).run events = some flag)
    (quiet : ∀ raiser ∈ flag.raisers, raiser.holdsLock = false) (up : flag.raised = true) :
    ∀ sleeper ∈ flag.sleepers, sleeper.isWaiting = false := by
  have heeded := heeded_of_run (exclusive_start _ _ _ _) (heeded_start _ _ _ _) ran
  rcases heeded up with owed | aware
  · have free := quiet .notifying owed
    contradiction
  · intro sleeper found
    have saw := aware sleeper found
    cases sleeper with
    | waiting deadline => contradiction
    | _ => rfl

/-- Two sleepers wait, and one of them is woken by a raise that is undone before it looks, so
that it waits again when the next raise comes. -/
def raisedTwice : List Event :=
  [.sleep 0 10, .lock 0, .examine 0, .lookAtClock 0, .sleep 1 10, .lock 1, .examine 1,
    .lookAtClock 1, .lockToRaise 0, .raise 0, .lower, .notifyAll 0, .lock 1, .examine 1,
    .lookAtClock 1, .lockToRaise 1, .raise 1, .notifyAll 1]

theorem no_lost_interrupt_inhabited :
    ∃ flag : InterruptFlag,
      (start false 0 2 2).run raisedTwice = some flag ∧
        (∀ raiser ∈ flag.raisers, raiser.holdsLock = false) ∧ flag.raised = true ∧
        ∀ sleeper ∈ flag.sleepers, sleeper.isWaiting = false := by
  have ran : (start false 0 2 2).run raisedTwice =
      some { raised := true, sleepers := [.arriving 10, .arriving 10]
             raisers := [.idle, .idle] } := by
    decide
  have quiet : ∀ raiser ∈ [RaisePhase.idle, .idle], raiser.holdsLock = false := by decide
  exact ⟨_, ran, quiet, rfl, no_lost_interrupt ran quiet rfl⟩

end InterruptFlag

end BoundedIngest

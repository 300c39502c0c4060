/-
Module: BoundedIngest.Proofs.Interrupt.Answering
Purpose: What the answer of a sleep says about how the sleep ended.
Main exports:
  InterruptFlag.Called, InterruptFlag.Departure, InterruptFlag.Told,
  InterruptFlag.told_of_step, InterruptFlag.told_of_run,
  InterruptFlag.full_sleep_or_true_answer
-/
import BoundedIngest.Interrupt.Registry
import BoundedIngest.Proofs.Interrupt.Moves
import Mathlib.Data.List.Induction

namespace BoundedIngest

/-!
A sleep looks at the flag to leave its loop, and once more for its answer.  In between it has
the lock, so the flag cannot go up; but it can go down.  The answer is therefore true if and
only if the sleep left its loop because of a raised flag that nobody lowered before it looked
again.  A sleep that answers otherwise has either been late or lost sight of what woke it.
-/

namespace InterruptFlag

variable {flag next origin : InterruptFlag} {event : Event} {events : List Event}
variable {sleeper deadline : Nat} {answer : Bool} {phase old new : WaitPhase}

/-! ### The steps of one sleep -/

/-- A sleep with this deadline has begun. -/
def Called (origin : InterruptFlag) (events : List Event) (sleeper deadline : Nat) : Prop :=
  ∃ before duration span called, events = before ++ .sleep sleeper duration :: span ∧
    origin.run before = some called ∧ deadline = called.clock + duration

/-- How a sleep leaves its loop: the steps before its call, those up to the look that ends
the loop, and how things are at the call and at that look. -/
structure Departure (origin : InterruptFlag) (sleeper : Nat) where
  before : List Event
  duration : Nat
  looping : List Event
  exit : Event
  called : InterruptFlag
  left : InterruptFlag
  deadline : Nat
  ranCalled : origin.run before = some called
  due : deadline = called.clock + duration
  ranLeft : origin.run (before ++ .sleep sleeper duration :: looping) = some left
  inLoop : left.sleepers[sleeper]? = some (.examining deadline) ∨
    left.sleepers[sleeper]? = some (.timing deadline)
  leaves : (left.step exit).bind (·.sleepers[sleeper]?) = some (.leaving deadline)

namespace Departure

/-- All steps up to the one that leaves the loop. -/
def steps (departure : Departure origin sleeper) : List Event :=
  departure.before ++ .sleep sleeper departure.duration :: departure.looping ++ [departure.exit]

/-- Nothing but a raised flag or the deadline ends the loop. -/
theorem raised_or_late (departure : Departure origin sleeper) :
    departure.left.raised = true ∨ departure.deadline ≤ departure.left.clock := by
  obtain ⟨after, stepped, leaving⟩ := Option.bind_eq_some_iff.mp departure.leaves
  have notYet : departure.left.sleepers[sleeper]? ≠ some (.leaving departure.deadline) := by
    rcases departure.inLoop with was | was
    · rw [was]
      simp
    · rw [was]
      simp
  generalize departure.exit = exit at stepped
  cases moved_of_step stepped with
  | sleeper other old new was moves =>
    rcases set_or_before leaving with ⟨rfl, rfl⟩ | before
    · cases moves with
      | seesRaised deadline raised => exact .inl raised
      | isLate deadline late => exact .inr late
    · exact absurd before notYet
  | notified raiser was =>
    obtain ⟨old, before, woken⟩ := Option.map_eq_some_iff.mp (List.getElem?_map.symm.trans leaving)
    cases old with
    | leaving deadline =>
      cases woken
      exact absurd before notYet
    | _ => contradiction
  | locked raiser was free => exact absurd leaving notYet
  | raised raiser was => exact absurd leaving notYet
  | lowered => exact absurd leaving notYet
  | elapsed duration => exact absurd leaving notYet

end Departure

/-- What the steps so far tell about the sleep of a sleeper in the given phase. -/
def Told (origin : InterruptFlag) (events : List Event) (flag : InterruptFlag) (sleeper : Nat) :
    WaitPhase → Prop
  | .idle => True
  | .arriving deadline | .examining deadline | .timing deadline | .waiting deadline =>
      Called origin events sleeper deadline
  | .leaving deadline =>
      ∃ (departure : Departure origin sleeper) (leaving : List Event),
        events = departure.steps ++ leaving ∧ departure.deadline = deadline ∧
          (flag.raised = true ↔ departure.left.raised = true ∧ .lower ∉ leaving)
  | .returned answer =>
      ∃ (departure : Departure origin sleeper) (leaving rest : List Event),
        events = departure.steps ++ leaving ++ .answer sleeper :: rest ∧
          (answer = true ↔ departure.left.raised = true ∧ .lower ∉ leaving)

theorem Called.extend (called : Called origin events sleeper deadline) (event : Event) :
    Called origin (events ++ [event]) sleeper deadline := by
  obtain ⟨before, duration, span, state, rfl, ran, clock⟩ := called
  exact ⟨before, duration, span ++ [event], state, by simp, ran, clock⟩

/-- A sleep that has not left its loop is at a look that may end it. -/
theorem Called.departs (called : Called origin events sleeper deadline)
    (ran : origin.run events = some flag) (event : Event)
    (inLoop : flag.sleepers[sleeper]? = some (.examining deadline) ∨
      flag.sleepers[sleeper]? = some (.timing deadline))
    (leaves : (flag.step event).bind (·.sleepers[sleeper]?) = some (.leaving deadline)) :
    ∃ departure : Departure origin sleeper,
      departure.steps = events ++ [event] ∧ departure.deadline = deadline ∧
        departure.left = flag := by
  obtain ⟨before, duration, span, state, rfl, ranCalled, due⟩ := called
  exact ⟨⟨before, duration, span, event, state, flag, deadline, ranCalled, due, ran, inLoop,
    leaves⟩, rfl, rfl, rfl⟩

/-! ### What a step adds -/

/-- While a sleeper has the lock the flag does not go up. -/
theorem raised_of_step (exclusive : Exclusive flag) (stepped : flag.step event = some next)
    (was : flag.sleepers[sleeper]? = some phase) (holds : phase.holdsLock = true) :
    next.raised = true ↔ flag.raised = true ∧ event ≠ .lower := by
  cases moved_of_step stepped with
  | sleeper other old new wasOther moves =>
    cases moves <;> simp [setSleeper]
  | locked raiser wasRaiser free => simp [setRaiser]
  | raised raiser wasRaiser =>
    have out := not_holdsLock_of_raiser exclusive wasRaiser rfl phase (List.mem_of_getElem? was)
    rw [holds] at out
    contradiction
  | notified raiser wasRaiser => simp [setRaiser]
  | lowered => simp
  | elapsed duration => simp

theorem Told.extend (told : Told origin events flag sleeper phase)
    (kept : phase.holdsLock = true → (next.raised = true ↔ flag.raised = true ∧ event ≠ .lower)) :
    Told origin (events ++ [event]) next sleeper phase := by
  cases phase with
  | idle => trivial
  | leaving deadline =>
    obtain ⟨departure, leaving, rfl, same, since⟩ := told
    refine ⟨departure, leaving ++ [event], by simp, same, ?_⟩
    rw [kept rfl, since, List.mem_append, List.mem_singleton, not_or, and_assoc,
      ne_comm]
  | returned answer =>
    obtain ⟨departure, leaving, rest, rfl, since⟩ := told
    exact ⟨departure, leaving, rest ++ [event], by simp, since⟩
  | _ => exact Called.extend told event

theorem told_of_next (ran : origin.run events = some flag)
    (was : flag.sleepers[sleeper]? = some old) (told : Told origin events flag sleeper old)
    (moves : WaitPhase.Next flag sleeper event old new)
    (stepped : flag.step event = some (flag.setSleeper sleeper new)) :
    Told origin (events ++ [event]) (flag.setSleeper sleeper new) sleeper new := by
  have inside : sleeper < flag.sleepers.length := (List.getElem?_eq_some_iff.mp was).1
  have after : (flag.step event).bind (·.sleepers[sleeper]?) = some new := by
    rw [stepped, Option.bind_some]
    exact List.getElem?_set_self inside
  cases moves with
  | sleeps duration => exact ⟨events, duration, [], flag, rfl, ran, rfl⟩
  | locks deadline free => exact Called.extend told _
  | seesLowered deadline lowered => exact Called.extend told _
  | waits deadline early => exact Called.extend told _
  | expires deadline late => exact Called.extend told _
  | seesRaised deadline raised =>
    obtain ⟨departure, whole, same, rfl⟩ := Called.departs told ran _ (.inl was) after
    exact ⟨departure, [], by rw [whole, List.append_nil], same, by simp [setSleeper]⟩
  | isLate deadline late =>
    obtain ⟨departure, whole, same, rfl⟩ := Called.departs told ran _ (.inr was) after
    exact ⟨departure, [], by rw [whole, List.append_nil], same, by simp [setSleeper]⟩
  | answers deadline =>
    obtain ⟨departure, leaving, rfl, -, since⟩ := told
    exact ⟨departure, leaving, [], rfl, since⟩

theorem told_of_step (ran : origin.run events = some flag) (exclusive : Exclusive flag)
    (told : ∀ phase, flag.sleepers[sleeper]? = some phase → Told origin events flag sleeper phase)
    (stepped : flag.step event = some next) (found : next.sleepers[sleeper]? = some phase) :
    Told origin (events ++ [event]) next sleeper phase := by
  -- A sleeper that stays in its phase is told about as before.
  have stays : flag.sleepers[sleeper]? = some phase →
      Told origin (events ++ [event]) next sleeper phase :=
    fun was => (told phase was).extend fun holds => raised_of_step exclusive stepped was holds
  cases moved_of_step stepped with
  | sleeper other old new was moves =>
    rcases set_or_before found with ⟨rfl, rfl⟩ | before
    · exact told_of_next ran was (told old was) moves stepped
    · exact stays before
  | notified raiser was =>
    obtain ⟨old, before, rfl⟩ := Option.map_eq_some_iff.mp (List.getElem?_map.symm.trans found)
    cases old with
    | waiting deadline => exact Called.extend (told _ before) _
    | _ => exact stays before
  | locked raiser was free => exact stays found
  | raised raiser was => exact stays found
  | lowered => exact stays found
  | elapsed duration => exact stays found

theorem told_of_run (exclusive : Exclusive origin)
    (idle : ∀ sleeper ∈ origin.sleepers, sleeper = .idle)
    (ran : origin.run events = some flag) (found : flag.sleepers[sleeper]? = some phase) :
    Told origin events flag sleeper phase := by
  induction events using List.reverseRecOn generalizing flag phase with
  | nil =>
    cases ran
    rw [idle phase (List.mem_of_getElem? found)]
    trivial
  | append_singleton events event ih =>
    obtain ⟨middle, ranFirst, stepped⟩ := run_concat ran
    exact told_of_step ranFirst (exclusive_of_run exclusive ranFirst) (fun _ was => ih ranFirst was)
      stepped found

/-! ### The answer -/

/-- Every sleep that has returned left its loop on a raised flag or at its deadline; it
answers that it was interrupted exactly if the flag was raised then and was not lowered
before the answer.  So a sleep that is called undisturbed was full, or it was cut short by a
raise that was undone before it answered. -/
theorem full_sleep_or_true_answer {raised : Bool} {clock sleepers raisers : Nat}
    (ran : (start raised clock sleepers raisers).run events = some flag)
    (returned : flag.sleepers[sleeper]? = some (.returned answer)) :
    ∃ (departure : Departure (start raised clock sleepers raisers) sleeper)
      (leaving rest : List Event),
      events = departure.steps ++ leaving ++ .answer sleeper :: rest ∧
        (answer = true ↔ departure.left.raised = true ∧ .lower ∉ leaving) ∧
        (FlagRegistry.ofInterrupted answer = .undisturbed →
          departure.deadline ≤ departure.left.clock ∨
            departure.left.raised = true ∧ .lower ∈ leaving) := by
  have idle : ∀ phase ∈ (start raised clock sleepers raisers).sleepers, phase = .idle :=
    fun phase found => List.eq_of_mem_replicate found
  obtain ⟨departure, leaving, rest, whole, since⟩ :=
    told_of_run (exclusive_start raised clock sleepers raisers) idle ran returned
  refine ⟨departure, leaving, rest, whole, since, fun undisturbed => ?_⟩
  have lowered : ¬answer = true := by
    rintro rfl
    contradiction
  rcases departure.raised_or_late with up | late
  · right
    refine ⟨up, ?_⟩
    by_contra kept
    exact lowered (since.mpr ⟨up, kept⟩)
  · exact .inl late

/-- One sleep has its full time, and a raise ends another. -/
def fullThenRaised : List Event :=
  [.sleep 0 10, .lock 0, .examine 0, .lookAtClock 0, .sleep 1 20, .lock 1, .examine 1,
    .lookAtClock 1, .elapse 10, .expire 0, .lock 0, .examine 0, .lookAtClock 0, .answer 0,
    .lockToRaise 0, .raise 0, .notifyAll 0, .lock 1, .examine 1, .answer 1]

theorem full_sleep_or_true_answer_inhabited :
    ∃ flag : InterruptFlag,
      (start false 0 2 1).run fullThenRaised = some flag ∧
        flag.sleepers[0]? = some (.returned false) ∧ flag.sleepers[1]? = some (.returned true) ∧
        ∃ (departure : Departure (start false 0 2 1) 1) (leaving rest : List Event),
          fullThenRaised = departure.steps ++ leaving ++ .answer 1 :: rest ∧
            departure.left.raised = true ∧ .lower ∉ leaving := by
  have ran : (start false 0 2 1).run fullThenRaised =
      some { raised := true, clock := 10, sleepers := [.returned false, .returned true]
             raisers := [.idle] } := by
    decide
  obtain ⟨departure, leaving, rest, whole, since, -⟩ :=
    @full_sleep_or_true_answer _ _ 1 true false 0 2 1 ran rfl
  obtain ⟨raised, kept⟩ := since.mp rfl
  exact ⟨_, ran, rfl, rfl, departure, leaving, rest, whole, raised, kept⟩

/-- A sleep for ten milliseconds is woken at once by a raise and leaves its loop; then the
flag is lowered before it looks again. -/
def cutShort : Departure (start false 0 1 1) 0 where
  before := []
  duration := 10
  looping := [.lock 0, .examine 0, .lookAtClock 0, .lockToRaise 0, .raise 0, .notifyAll 0, .lock 0]
  exit := .examine 0
  called := start false 0 1 1
  left := { raised := true, sleepers := [.examining 10], raisers := [.idle] }
  deadline := 10
  ranCalled := rfl
  due := rfl
  ranLeft := by decide
  inLoop := .inl rfl
  leaves := by decide

theorem full_sleep_or_true_answer_cut_short :
    (start false 0 1 1).run (cutShort.steps ++ [.lower] ++ [.answer 0]) =
        some { sleepers := [.returned false], raisers := [.idle] } ∧
      FlagRegistry.ofInterrupted false = .undisturbed ∧
      cutShort.left.clock < cutShort.deadline := by
  have ran : (start false 0 1 1).run (cutShort.steps ++ [.lower] ++ [.answer 0]) =
      some { sleepers := [.returned false], raisers := [.idle] } := by
    decide
  exact ⟨ran, rfl, by decide⟩

end InterruptFlag

end BoundedIngest

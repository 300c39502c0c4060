/-
Module: BoundedIngest.Proofs.Interrupt.Resting
Purpose: A sleeper that goes on by itself gives the lock back before it waits or has its answer.
Main exports:
  WaitPhase.toGo, InterruptFlag.FreeBut, InterruptFlag.advance_spec, InterruptFlag.rests_settle,
  InterruptFlag.rests_elapse, InterruptFlag.rests_beginSleep, InterruptFlag.raised_of_interrupt
-/
import BoundedIngest.Proofs.Interrupt.Moves

namespace BoundedIngest

/-!
Where only one thread runs at a time, a sleeper that has begun to go on goes on until it waits or
has its answer.  It takes five steps at most, and it leaves the lock free.  No sleeper raises the
flag or lowers it.
-/

/-- How many steps a sleeper takes by itself before it waits or has its answer. -/
def WaitPhase.toGo (clock : Nat) : WaitPhase → Nat
  | .waiting deadline => if deadline ≤ clock then 5 else 0
  | .arriving _ => 4
  | .examining _ => 3
  | .timing _ => 2
  | .leaving _ => 1
  | .idle | .returned _ => 0

theorem WaitPhase.toGo_le (clock : Nat) (phase : WaitPhase) : phase.toGo clock ≤ 5 := by
  cases phase <;> simp only [toGo] <;> first | omega | (split <;> omega)

theorem WaitPhase.not_holdsLock_of_toGo {clock : Nat} {phase : WaitPhase}
    (done : phase.toGo clock = 0) : phase.holdsLock = false := by
  cases phase <;> first | rfl | contradiction

namespace InterruptFlag

variable {flag next : InterruptFlag} {event : Event} {sleeper fuel : Nat} {old new : WaitPhase}

/-- Nobody but this sleeper may have the lock. -/
structure FreeBut (flag : InterruptFlag) (sleeper : Nat) : Prop where
  sleepers : ∀ (other : Nat) (phase : WaitPhase), other ≠ sleeper →
    flag.sleepers[other]? = some phase → phase.holdsLock = false
  raisers : ∀ raiser ∈ flag.raisers, raiser.holdsLock = false

theorem isLocked_eq_false_iff :
    flag.isLocked = false ↔ (∀ sleeper ∈ flag.sleepers, sleeper.holdsLock = false) ∧
      ∀ raiser ∈ flag.raisers, raiser.holdsLock = false := by
  simp [isLocked]

theorem freeBut_of_free (free : flag.isLocked = false) (sleeper : Nat) : flag.FreeBut sleeper := by
  obtain ⟨sleepers, raisers⟩ := isLocked_eq_false_iff.mp free
  exact ⟨fun _ phase _ found => sleepers phase (List.mem_of_getElem? found), raisers⟩

theorem FreeBut.set (free : flag.FreeBut sleeper) (new : WaitPhase) :
    (flag.setSleeper sleeper new).FreeBut sleeper := by
  refine ⟨fun other phase apart found => free.sleepers other phase apart ?_, free.raisers⟩
  rwa [setSleeper, List.getElem?_set_ne (Ne.symm apart)] at found

/-- If this sleeper does not have the lock either, the lock is free. -/
theorem FreeBut.isLocked (free : flag.FreeBut sleeper)
    (own : ∀ phase, flag.sleepers[sleeper]? = some phase → phase.holdsLock = false) :
    flag.isLocked = false := by
  refine isLocked_eq_false_iff.mpr ⟨fun phase found => ?_, free.raisers⟩
  obtain ⟨other, here⟩ := List.mem_iff_getElem?.mp found
  by_cases same : other = sleeper
  · exact own phase (same ▸ here)
  · exact free.sleepers other phase same here

/-- A sleeper with nothing to do by itself stays where it is. -/
theorem nextEvent?_of_toGo (was : flag.sleepers[sleeper]? = some old)
    (done : old.toGo flag.clock = 0) : flag.nextEvent? sleeper = none := by
  cases old with
  | waiting deadline =>
    have early : ¬deadline ≤ flag.clock := fun late => by simp [WaitPhase.toGo, late] at done
    simp [nextEvent?, was, early]
  | idle | returned => simp [nextEvent?, was]
  | _ => contradiction

/-- A sleeper with something to do by itself can do it, and has less to do then. -/
theorem goesOn_of_toGo (free : flag.FreeBut sleeper) (was : flag.sleepers[sleeper]? = some old)
    (busy : old.toGo flag.clock ≠ 0) :
    ∃ new, (flag.nextEvent? sleeper).bind flag.step = some (flag.setSleeper sleeper new) ∧
      new.toGo flag.clock < old.toGo flag.clock := by
  cases old with
  | idle | returned => contradiction
  | arriving deadline =>
    have unlocked : flag.isLocked = false := by
      refine free.isLocked fun phase found => ?_
      cases was.symm.trans found
      rfl
    refine ⟨.examining deadline, ?_, by simp [WaitPhase.toGo]⟩
    simp [nextEvent?, step, was, unlocked]
  | examining deadline =>
    refine ⟨if flag.raised then .leaving deadline else .timing deadline, ?_, ?_⟩
    · simp [nextEvent?, step, was]
    · split <;> simp [WaitPhase.toGo]
  | timing deadline =>
    refine ⟨if deadline ≤ flag.clock then .leaving deadline else .waiting deadline, ?_, ?_⟩
    · simp [nextEvent?, step, was]
    · split
      · simp [WaitPhase.toGo]
      · rename_i early
        simp [WaitPhase.toGo, early]
  | waiting deadline =>
    have late : deadline ≤ flag.clock := by
      by_contra early
      simp [WaitPhase.toGo, early] at busy
    refine ⟨.arriving deadline, ?_, by simp [WaitPhase.toGo, late]⟩
    simp [nextEvent?, step, was, late]
  | leaving deadline =>
    refine ⟨.returned flag.raised, ?_, by simp [WaitPhase.toGo]⟩
    simp [nextEvent?, step, was]

/-- With enough steps a sleeper goes on until there is nothing left that it does by itself. -/
theorem advance_spec (free : flag.FreeBut sleeper) (was : flag.sleepers[sleeper]? = some old)
    (enough : old.toGo flag.clock ≤ fuel) :
    ∃ new, flag.advance sleeper fuel = flag.setSleeper sleeper new ∧
      new.toGo flag.clock = 0 := by
  have stays : flag.setSleeper sleeper old = flag := by
    rw [setSleeper, set_eq_self was]
  induction fuel generalizing flag old with
  | zero => exact ⟨old, stays.symm, Nat.le_zero.mp enough⟩
  | succ fuel ih =>
    by_cases done : old.toGo flag.clock = 0
    · refine ⟨old, ?_, done⟩
      rw [stays, advance, nextEvent?_of_toGo was done, Option.bind_none]
    · obtain ⟨between, stepped, less⟩ := goesOn_of_toGo free was done
      have inside := (List.getElem?_eq_some_iff.mp was).1
      have here : (flag.setSleeper sleeper between).sleepers[sleeper]? = some between :=
        List.getElem?_set_self inside
      obtain ⟨new, advanced, done⟩ := ih (free.set between) here
        (by simp only [setSleeper] at *; omega)
        (by rw [setSleeper, set_eq_self here])
      refine ⟨new, ?_, done⟩
      rw [advance, stepped]
      dsimp only
      rw [advanced, setSleeper, setSleeper, setSleeper, List.set_set]

/-- Nobody has the lock, and the flag is up or down as it was. -/
structure Rests (flag next : InterruptFlag) : Prop where
  free : next.isLocked = false
  raised : next.raised = flag.raised

theorem Rests.trans {middle : InterruptFlag} (first : Rests flag middle)
    (second : Rests middle next) : Rests flag next :=
  ⟨second.free, second.raised.trans first.raised⟩

theorem rests_advance (free : flag.isLocked = false) (sleeper : Nat) :
    Rests flag (flag.advance sleeper stepsPerSleeper) := by
  cases was : flag.sleepers[sleeper]? with
  | none =>
    have nothing : flag.nextEvent? sleeper = none := by simp [nextEvent?, was]
    rw [stepsPerSleeper, advance, nothing]
    exact ⟨free, rfl⟩
  | some old =>
    have shared := freeBut_of_free free sleeper
    have enough : old.toGo flag.clock ≤ stepsPerSleeper :=
      (old.toGo_le flag.clock).trans (by decide)
    obtain ⟨new, advanced, done⟩ := advance_spec shared was enough
    rw [advanced]
    refine ⟨(shared.set new).isLocked fun phase found => ?_, rfl⟩
    have inside := (List.getElem?_eq_some_iff.mp was).1
    rw [setSleeper, List.getElem?_set_self inside] at found
    cases found
    exact WaitPhase.not_holdsLock_of_toGo done

theorem rests_foldl (free : flag.isLocked = false) (sleepers : List Nat) :
    Rests flag
      (sleepers.foldl (fun flag sleeper => flag.advance sleeper stepsPerSleeper) flag) := by
  induction sleepers generalizing flag with
  | nil => exact ⟨free, rfl⟩
  | cons sleeper rest ih =>
    have first := rests_advance free sleeper
    exact first.trans (ih first.free)

theorem rests_settle (free : flag.isLocked = false) : Rests flag flag.settle :=
  rests_foldl free _

/-- The lock stays free while time passes. -/
theorem rests_elapse (free : flag.isLocked = false) (duration : Nat) :
    Rests flag (flag.elapse duration) := by
  have first := rests_settle free
  have later : Rests flag { flag.settle with clock := flag.clock + duration } :=
    ⟨first.free, first.raised⟩
  exact later.trans (rests_settle later.free)

/-- A newcomer without the lock changes nothing. -/
theorem free_append {α : Type} {phases : List α} {phase : α} {holds : α → Bool}
    (free : ∀ other ∈ phases, holds other = false) (last : holds phase = false) :
    ∀ other ∈ phases ++ [phase], holds other = false :=
  List.forall_mem_append.mpr ⟨free, List.forall_mem_singleton.mpr last⟩

theorem rests_beginSleep (free : flag.isLocked = false) (duration : Nat) :
    Rests flag (flag.beginSleep duration) := by
  obtain ⟨sleepers, raisers⟩ := isLocked_eq_false_iff.mp free
  have begun : { flag with sleepers := flag.sleepers ++ [WaitPhase.idle] }.step
      (.sleep flag.sleepers.length duration) = some
        { flag with
          sleepers := flag.sleepers ++ [WaitPhase.arriving (flag.clock + duration)] } := by
    simp [step, setSleeper]
  have arrived : Rests flag
      { flag with sleepers := flag.sleepers ++ [WaitPhase.arriving (flag.clock + duration)] } :=
    ⟨isLocked_eq_false_iff.mpr ⟨free_append sleepers rfl, raisers⟩, rfl⟩
  rw [beginSleep, begun]
  exact arrived.trans (rests_advance arrived.free _)

theorem interrupt_of_free (free : flag.isLocked = false) :
    flag.interrupt =
      { flag with
        raised := true
        sleepers := flag.sleepers.map WaitPhase.notify
        raisers := flag.raisers ++ [RaisePhase.idle] } := by
  obtain ⟨sleepers, raisers⟩ := isLocked_eq_false_iff.mp free
  have arrived : { flag with raisers := flag.raisers ++ [RaisePhase.idle] }.isLocked = false :=
    isLocked_eq_false_iff.mpr ⟨sleepers, free_append raisers rfl⟩
  simp [interrupt, run, step, arrived, setRaiser]

/-- Where nobody has the lock, a raise gets through. -/
theorem raised_of_interrupt (free : flag.isLocked = false) :
    flag.interrupt.isLocked = false ∧ flag.interrupt.raised = true := by
  obtain ⟨sleepers, raisers⟩ := isLocked_eq_false_iff.mp free
  rw [interrupt_of_free free]
  refine ⟨isLocked_eq_false_iff.mpr ⟨fun phase found => ?_, free_append raisers rfl⟩, rfl⟩
  obtain ⟨before, there, rfl⟩ := List.mem_map.mp found
  have out := sleepers before there
  cases before <;> first | rfl | exact out

end InterruptFlag

end BoundedIngest

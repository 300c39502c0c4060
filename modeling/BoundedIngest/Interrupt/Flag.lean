/-
Module: BoundedIngest.Interrupt.Flag
Purpose: One interrupt flag, the threads that sleep on it and those that raise it.
Main exports:
  WaitPhase, RaisePhase, InterruptFlag, InterruptFlag.step, InterruptFlag.run
-/

namespace BoundedIngest

/-!
A sleeper holds the flag's lock except while it waits, and a raise holds it while it
sets the flag and notifies all who wait.  So a raise cannot slip in between a sleeper's
look at the flag and its wait.  Lowering the flag takes no lock.

Time is counted in milliseconds on a clock that moves on between any two steps.

The operations of a flag are found again in the steps:

* `wait_timeout` is `Event.sleep`, where the deadline is fixed, `Event.lock`, and for each turn of
  its loop `Event.examine` and `Event.lookAtClock`; a wait inside the loop ends with a notification
  or with `Event.expire` and takes the lock again, and `Event.answer` is the look at the flag after
  the loop;
* `interrupt` is `Event.lockToRaise`, `Event.raise` and `Event.notifyAll`;
* `clear` and `interrupted` are `Event.lower`.

Waking up without a cause is left out, since the loop goes back to waiting then.
-/

/-- How far a sleeper has come. -/
inductive WaitPhase where
  | idle
  /-- About to take the lock, at the start or after a notification or its deadline. -/
  | arriving (deadline : Nat)
  /-- Has the lock and is about to look at the flag. -/
  | examining (deadline : Nat)
  /-- Saw a lowered flag and is about to look at the clock. -/
  | timing (deadline : Nat)
  /-- Waits without the lock. -/
  | waiting (deadline : Nat)
  /-- Has left its loop and is about to look at the flag for its answer. -/
  | leaving (deadline : Nat)
  | returned (raised : Bool)
deriving Repr, DecidableEq, Inhabited

namespace WaitPhase

def holdsLock : WaitPhase → Bool
  | .examining _ | .timing _ | .leaving _ => true
  | _ => false

def isWaiting : WaitPhase → Bool
  | .waiting _ => true
  | _ => false

def notify : WaitPhase → WaitPhase
  | .waiting deadline => .arriving deadline
  | other => other

end WaitPhase

/-- How far a thread that raises the flag has come. -/
inductive RaisePhase where
  | idle
  /-- Has the lock and is about to raise the flag. -/
  | raising
  /-- Has raised the flag and is about to notify and to release the lock. -/
  | notifying
deriving Repr, DecidableEq, Inhabited

def RaisePhase.holdsLock : RaisePhase → Bool
  | .idle => false
  | .raising | .notifying => true

structure InterruptFlag where
  raised : Bool := false
  clock : Nat := 0
  sleepers : List WaitPhase := []
  raisers : List RaisePhase := []
deriving Repr, DecidableEq, Inhabited

namespace InterruptFlag

/-- One step of one thread, or of the clock. -/
inductive Event where
  /-- A sleep for at most `duration` begins. -/
  | sleep (sleeper duration : Nat)
  | lock (sleeper : Nat)
  | examine (sleeper : Nat)
  | lookAtClock (sleeper : Nat)
  /-- The deadline of a waiting sleeper passes. -/
  | expire (sleeper : Nat)
  | answer (sleeper : Nat)
  /-- A raise takes the lock. -/
  | lockToRaise (raiser : Nat)
  | raise (raiser : Nat)
  | notifyAll (raiser : Nat)
  /-- Lower the flag, whether or not the old state is looked at. -/
  | lower
  | elapse (duration : Nat)
deriving Repr, DecidableEq

def isLocked (flag : InterruptFlag) : Bool :=
  flag.sleepers.any WaitPhase.holdsLock || flag.raisers.any RaisePhase.holdsLock

def setSleeper (flag : InterruptFlag) (sleeper : Nat) (phase : WaitPhase) : InterruptFlag :=
  { flag with sleepers := flag.sleepers.set sleeper phase }

def setRaiser (flag : InterruptFlag) (raiser : Nat) (phase : RaisePhase) : InterruptFlag :=
  { flag with raisers := flag.raisers.set raiser phase }

/-- One step, or nothing if the thread it names is not at the point where the step is
possible. -/
def step (flag : InterruptFlag) : Event → Option InterruptFlag
  | .sleep sleeper duration =>
      match flag.sleepers[sleeper]? with
      | some .idle => some (flag.setSleeper sleeper (.arriving (flag.clock + duration)))
      | _ => none
  | .lock sleeper =>
      match flag.sleepers[sleeper]? with
      | some (.arriving deadline) =>
          if flag.isLocked then none else some (flag.setSleeper sleeper (.examining deadline))
      | _ => none
  | .examine sleeper =>
      match flag.sleepers[sleeper]? with
      | some (.examining deadline) =>
          some (flag.setSleeper sleeper
            (if flag.raised then .leaving deadline else .timing deadline))
      | _ => none
  | .lookAtClock sleeper =>
      match flag.sleepers[sleeper]? with
      | some (.timing deadline) =>
          some (flag.setSleeper sleeper
            (if deadline ≤ flag.clock then .leaving deadline else .waiting deadline))
      | _ => none
  | .expire sleeper =>
      match flag.sleepers[sleeper]? with
      | some (.waiting deadline) =>
          if deadline ≤ flag.clock then some (flag.setSleeper sleeper (.arriving deadline))
          else none
      | _ => none
  | .answer sleeper =>
      match flag.sleepers[sleeper]? with
      | some (.leaving _) => some (flag.setSleeper sleeper (.returned flag.raised))
      | _ => none
  | .lockToRaise raiser =>
      match flag.raisers[raiser]? with
      | some .idle => if flag.isLocked then none else some (flag.setRaiser raiser .raising)
      | _ => none
  | .raise raiser =>
      match flag.raisers[raiser]? with
      | some .raising => some ({ flag with raised := true }.setRaiser raiser .notifying)
      | _ => none
  | .notifyAll raiser =>
      match flag.raisers[raiser]? with
      | some .notifying =>
          let woken := { flag with sleepers := flag.sleepers.map WaitPhase.notify }
          some (woken.setRaiser raiser .idle)
      | _ => none
  | .lower => some { flag with raised := false }
  | .elapse duration => some { flag with clock := flag.clock + duration }

/-- A sequence of steps, each of which must be possible. -/
def run (flag : InterruptFlag) : List Event → Option InterruptFlag
  | [] => some flag
  | event :: rest => (flag.step event).bind (·.run rest)

/-!
A flag that is used by one running thread at a time needs no choice of steps: the
thread goes on until it waits or has its answer.
-/

/-- What a sleeper does next of its own accord. -/
def nextEvent? (flag : InterruptFlag) (sleeper : Nat) : Option Event :=
  match flag.sleepers[sleeper]? with
  | some (.arriving _) => some (.lock sleeper)
  | some (.examining _) => some (.examine sleeper)
  | some (.timing _) => some (.lookAtClock sleeper)
  | some (.waiting deadline) => if deadline ≤ flag.clock then some (.expire sleeper) else none
  | some (.leaving _) => some (.answer sleeper)
  | _ => none

/-- Let a sleeper go on for at most `fuel` steps. -/
def advance (flag : InterruptFlag) (sleeper : Nat) : Nat → InterruptFlag
  | 0 => flag
  | fuel + 1 =>
      match (flag.nextEvent? sleeper).bind flag.step with
      | none => flag
      | some next => next.advance sleeper fuel

/-- No sleeper takes more steps than this before it waits or has its answer. -/
def stepsPerSleeper : Nat := 8

/-- Let all sleepers go on, one after the other. -/
def settle (flag : InterruptFlag) : InterruptFlag :=
  (List.range flag.sleepers.length).foldl
    (fun flag sleeper => flag.advance sleeper stepsPerSleeper) flag

/-- Let time pass, and let all sleepers notice. -/
def elapse (flag : InterruptFlag) (duration : Nat) : InterruptFlag :=
  { flag.settle with clock := flag.clock + duration }.settle

/-- Raise the flag, from the start of the raise to its end. -/
def interrupt (flag : InterruptFlag) : InterruptFlag :=
  let raiser := flag.raisers.length
  let arrived := { flag with raisers := flag.raisers ++ [RaisePhase.idle] }
  (arrived.run [.lockToRaise raiser, .raise raiser, .notifyAll raiser]).getD arrived

def clear (flag : InterruptFlag) : InterruptFlag := { flag with raised := false }

/-- A new sleeper that goes on until it waits or has its answer. -/
def beginSleep (flag : InterruptFlag) (duration : Nat) : InterruptFlag :=
  let sleeper := flag.sleepers.length
  let arrived := { flag with sleepers := flag.sleepers ++ [WaitPhase.idle] }
  ((arrived.step (.sleep sleeper duration)).getD arrived).advance sleeper stepsPerSleeper

/-- The answer of a sleeper that has one. -/
def answer? (flag : InterruptFlag) (sleeper : Nat) : Option Bool :=
  match flag.sleepers[sleeper]? with
  | some (.returned raised) => some raised
  | _ => none

end InterruptFlag

end BoundedIngest

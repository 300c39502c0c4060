/-
Module: BoundedIngest.Interrupt.Registry
Purpose: Named interrupt flags, their aliases, and the flag of the running thread.
Main exports:
  FlagRegistry, FlagRegistry.sameAs, FlagAction, FlagAnswer, FlagRegistry.perform
-/
import BoundedIngest.Interrupt.Flag
import BoundedIngest.Failure.Basic

namespace BoundedIngest

/-- What a flag is known by, however many names it has. -/
abbrev FlagId := Nat

/-- All flags that were ever made, the names of some of them, and which one belongs to
the running thread. -/
structure FlagRegistry where
  flags : List InterruptFlag := [{}]
  names : List (String × FlagId) := []
  /-- The flag of the running thread. -/
  own : FlagId := 0
  /-- The sleeps on other threads that nobody has waited for yet, in order. -/
  sleeps : List (FlagId × Nat) := []
deriving Repr, Inhabited

/-- One use of a flag. -/
inductive FlagAction where
  | make (name : String)
  /-- Give a second name to a flag. -/
  | clone (name source : String)
  | interrupt (name : String)
  | clear (name : String)
  | isInterrupted (name : String)
  /-- Look at the flag and lower it. -/
  | interrupted (name : String)
  /-- Sleep on the flag. -/
  | wait (name : String) (milliseconds : Nat)
  | sameAs (name other : String)
  | describe (name : String)
  /-- Name the flag of the running thread. -/
  | current (name : String)
  /-- Name the flag of a new thread. -/
  | currentOfOther (name : String)
  /-- Make the flag that of the running thread and name the one it had before. -/
  | install (name previous : String)
  | threadIsInterrupted
  | threadInterrupted
  | threadCheck
  | threadSleep (milliseconds : Nat)
  /-- Another thread begins a long sleep on the flag, and the script pauses. -/
  | waitElsewhere (name : String) (pause : Nat)
  /-- Wait for the end of all those sleeps. -/
  | joinWaits
deriving Repr, DecidableEq

inductive FlagAnswer where
  | nothing
  | truth (value : Bool)
  | truths (values : List Bool)
  | text (value : String)
  /-- The thread was not interrupted. -/
  | undisturbed
  | interrupted
deriving Repr, DecidableEq

namespace FlagRegistry

/-- How long a sleep on another thread lasts at most. -/
def longSleep : Nat := 30000

/-- A new lowered flag. -/
def make (registry : FlagRegistry) : FlagId × FlagRegistry :=
  (registry.flags.length, { registry with flags := registry.flags ++ [{}] })

/-- The flag with the given name.  A name without a flag stands for a new one each time
it is used. -/
def resolve (registry : FlagRegistry) (name : String) : FlagId × FlagRegistry :=
  match registry.names.lookup name with
  | some flag => (flag, registry)
  | none => registry.make

def bindName (registry : FlagRegistry) (name : String) (flag : FlagId) : FlagRegistry :=
  { registry with
    names := (name, flag) :: registry.names.filter fun (known, _) => known != name }

def isRaised (registry : FlagRegistry) (flag : FlagId) : Bool :=
  (registry.flags[flag]?.map (·.raised)).getD false

def modify (registry : FlagRegistry) (flag : FlagId) (change : InterruptFlag → InterruptFlag) :
    FlagRegistry :=
  { registry with flags := registry.flags.modify flag change }

/-- Two names are aliases if the same flag stands behind both. -/
def sameAs (registry : FlagRegistry) (name other : String) : Bool :=
  match registry.names.lookup name, registry.names.lookup other with
  | some flag, some otherFlag => flag = otherFlag
  | _, _ => false

/-- Let time pass on all flags. -/
def elapse (registry : FlagRegistry) (milliseconds : Nat) : FlagRegistry :=
  { registry with flags := registry.flags.map (·.elapse milliseconds) }

/-- Sleep on a flag and answer whether it is raised at the end.  Only a raised flag
ends the sleep before its time, and nobody can raise it while the script sleeps. -/
def sleepOn (registry : FlagRegistry) (flag : FlagId) (milliseconds : Nat) :
    Bool × FlagRegistry :=
  let sleeper := ((registry.flags[flag]?.map (·.sleepers.length)).getD 0)
  let begun := registry.modify flag (·.beginSleep milliseconds)
  let answerIn := fun (registry : FlagRegistry) =>
    registry.flags[flag]?.bind (·.answer? sleeper)
  match answerIn begun with
  | some raised => (raised, begun)
  | none =>
      let slept := begun.elapse milliseconds
      ((answerIn slept).getD false, slept)

/-- A result that is an error for an interrupted thread. -/
def ofInterrupted (raised : Bool) : FlagAnswer := if raised then .interrupted else .undisturbed

/-- The state of a flag as a text for diagnosis. -/
def description (raised : Bool) : String :=
  "InterruptFlag \x7b interrupted: " ++ (if raised then "true" else "false") ++ " \x7d"

/-- The answers of all sleeps on other threads, which take their full time unless they
are interrupted. -/
def joinWaits (registry : FlagRegistry) : List Bool × FlagRegistry :=
  let settled := registry.elapse 0
  let answers := fun (registry : FlagRegistry) =>
    registry.sleeps.map fun (flag, sleeper) => registry.flags[flag]?.bind (·.answer? sleeper)
  let ended :=
    if (answers settled).all Option.isSome then settled else settled.elapse longSleep
  ((answers ended).map (·.getD false), { ended with sleeps := [] })

def perform (registry : FlagRegistry) : FlagAction → FlagAnswer × FlagRegistry
  | .make name =>
      let (flag, made) := registry.make
      (.nothing, made.bindName name flag)
  | .clone name source =>
      let (flag, resolved) := registry.resolve source
      (.nothing, resolved.bindName name flag)
  | .interrupt name =>
      let (flag, resolved) := registry.resolve name
      (.nothing, resolved.modify flag InterruptFlag.interrupt)
  | .clear name =>
      let (flag, resolved) := registry.resolve name
      (.nothing, resolved.modify flag InterruptFlag.clear)
  | .isInterrupted name =>
      let (flag, resolved) := registry.resolve name
      (.truth (resolved.isRaised flag), resolved)
  | .interrupted name =>
      let (flag, resolved) := registry.resolve name
      (.truth (resolved.isRaised flag), resolved.modify flag InterruptFlag.clear)
  | .wait name milliseconds =>
      let (flag, resolved) := registry.resolve name
      let (raised, slept) := resolved.sleepOn flag milliseconds
      (.truth raised, slept)
  | .sameAs name other => (.truth (registry.sameAs name other), registry)
  | .describe name =>
      let (flag, resolved) := registry.resolve name
      (.text (description (resolved.isRaised flag)), resolved)
  | .current name => (.nothing, registry.bindName name registry.own)
  | .currentOfOther name =>
      let (flag, made) := registry.make
      (.nothing, made.bindName name flag)
  | .install name previous =>
      let (flag, resolved) := registry.resolve name
      (.nothing, { resolved with own := flag }.bindName previous resolved.own)
  | .threadIsInterrupted => (.truth (registry.isRaised registry.own), registry)
  | .threadInterrupted =>
      (.truth (registry.isRaised registry.own),
        registry.modify registry.own InterruptFlag.clear)
  | .threadCheck => (ofInterrupted (registry.isRaised registry.own), registry)
  | .threadSleep milliseconds =>
      let (raised, slept) := registry.sleepOn registry.own milliseconds
      (ofInterrupted raised, slept)
  | .waitElsewhere name pause =>
      let (flag, resolved) := registry.resolve name
      let sleeper := ((resolved.flags[flag]?.map (·.sleepers.length)).getD 0)
      let begun := resolved.modify flag (·.beginSleep longSleep)
      (.nothing, { begun with sleeps := begun.sleeps ++ [(flag, sleeper)] }.elapse pause)
  | .joinWaits =>
      let (answers, joined) := registry.joinWaits
      (.truths answers, joined)

/-- Perform all actions in order. -/
def performAll (registry : FlagRegistry) : List FlagAction → List FlagAnswer × FlagRegistry
  | [] => ([], registry)
  | action :: rest =>
      let (answer, after) := registry.perform action
      let (answers, final) := after.performAll rest
      (answer :: answers, final)

end FlagRegistry

end BoundedIngest

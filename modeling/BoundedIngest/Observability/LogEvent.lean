/-
Module: BoundedIngest.Observability.LogEvent
Purpose: Log events and their levels.
Main exports:
  LogLevel, LogEvent
-/

namespace BoundedIngest

/-- Levels of log events, the most severe first. -/
inductive LogLevel where
  | error
  | warn
  | info
  | debug
  | trace
deriving Repr, DecidableEq

namespace LogLevel

def name : LogLevel → String
  | .error => "ERROR"
  | .warn => "WARN"
  | .info => "INFO"
  | .debug => "DEBUG"
  | .trace => "TRACE"

/-- How far down the levels it is. -/
def rank : LogLevel → Nat
  | .error => 1
  | .warn => 2
  | .info => 3
  | .debug => 4
  | .trace => 5

end LogLevel

/-- A log event: where it comes from, how severe it is, what it says, and what values it
carries beside that. -/
structure LogEvent where
  target : String
  level : LogLevel
  message : String
  /-- Names of the values. -/
  fields : List String := []
deriving Repr, DecidableEq

/-- Does the event have a field of this name?  What it says is one of its fields. -/
def LogEvent.hasField (event : LogEvent) (name : List Char) : Bool :=
  name = "message".toList || event.fields.any fun field => name = field.toList

end BoundedIngest

/-
Module: BoundedIngest.Observability.LogFilter
Purpose: Which log events are written.
Main exports:
  LogFilter, LogFilter.parse, LogFilter.Selection, LogFilter.parseLossy?,
  LogFilter.select?, LogFilter.enables
-/
import BoundedIngest.Observability.LogDirective

namespace BoundedIngest

/-- A filter is a list of directives. -/
structure LogFilter where
  directives : List LogDirective
deriving Repr, DecidableEq

namespace LogFilter

/-- The texts of the directives, which are separated by commas. -/
def pieces (text : String) : List (List Char) :=
  (text.toList.splitOn ',').filter (!·.isEmpty)

/-- Without a directive only errors are let through. -/
def ofDirectives : List LogDirective → LogFilter
  | [] => { directives := [{ rank := LogLevel.error.rank }] }
  | directives => { directives }

/-- A filter all of whose directives are well formed; the first that is not says what is
wrong. -/
def parse (text : String) : Except DirectiveFault LogFilter :=
  ((pieces text).mapM LogDirective.read).map ofDirectives

/-- A filter, and what is said of the directives that were left out of it. -/
structure Selection where
  filter : LogFilter
  complaints : List String := []
deriving Repr, DecidableEq

/-- What is said of a directive that is left out. -/
def complaint (piece : List Char) (message : String) : String :=
  "ignoring `" ++ String.ofList piece ++ "`: " ++ message

/-- The directives that are well formed, and what is said of the others; nothing if one
is torn. -/
def sift? : List (List Char) → Option (List LogDirective × List String)
  | [] => some ([], [])
  | piece :: rest =>
      match LogDirective.read piece with
      | .ok directive => (sift? rest).map fun (directives, complaints) =>
          (directive :: directives, complaints)
      | .error fault =>
          fault.message?.bind fun message => (sift? rest).map fun (directives, complaints) =>
            (directives, complaint piece message :: complaints)

/-- A filter of the directives that are well formed; nothing if one is torn. -/
def parseLossy? (text : String) : Option Selection :=
  (sift? (pieces text)).map fun (directives, complaints) =>
    { filter := ofDirectives directives, complaints }

/-- The filter in force: that of the environment if there is one and it is well formed,
else the configured one.  There is none if a directive is torn that has to be read. -/
def select? (environment : Option String) (configured : String) : Option Selection :=
  match environment.map parse with
  | some (.ok filter) => some { filter }
  | some (.error .torn) => none
  | some (.error _) | none => parseLossy? configured

/-- The directive that decides about an event. -/
def decisive? (filter : LogFilter) (event : LogEvent) : Option LogDirective :=
  filter.directives.foldl
    (fun best directive =>
      if directive.decides && directive.covers event then
        match best with
        | none => some directive
        | some known => if directive.outranks known then some directive else best
      else best)
    none

/-- Is an event written? -/
def enables (filter : LogFilter) (event : LogEvent) : Bool :=
  match filter.decisive? event with
  | none => false
  | some directive => event.level.rank ≤ directive.rank

end LogFilter

end BoundedIngest

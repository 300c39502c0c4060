/-
Module: BoundedIngest.Observability.LogDirective
Purpose: Directives that say which log events are written, and reading them.
Main exports:
  LogDirective, DirectiveFault, LogDirective.read, LogDirective.covers,
  LogDirective.outranks
-/
import BoundedIngest.Observability.LogEvent
import BoundedIngest.Observability.ValuePattern
import BoundedIngest.Text.Cut
import BoundedIngest.Text.Cut

namespace BoundedIngest

/-- A field that a directive asks for. -/
structure FieldCondition where
  name : List Char
  /-- Asks also for a value. -/
  hasValue : Bool := false
deriving Repr, DecidableEq

/-- One directive of a filter. -/
structure LogDirective where
  /-- The start of the targets it is about; all targets if there is none. -/
  target : Option (List Char) := none
  /-- The span within which it applies. -/
  span : Option (List Char) := none
  field : Option FieldCondition := none
  /-- The rank of the last level it lets through; zero lets nothing through. -/
  rank : Nat := LogLevel.trace.rank
deriving Repr, DecidableEq

/-- Why a text is no directive. -/
inductive DirectiveFault where
  /-- It has not the form of one. -/
  | malformed
  /-- What stands in the place of a level is none. -/
  | badLevel
  /-- What stands in the place of a value is none. -/
  | badValue
  /-- A part would have to begin or end within a character. -/
  | torn
deriving Repr, DecidableEq

/-- What is said of a text that is refused; a torn one is not refused, it ends the
reading altogether. -/
def DirectiveFault.message? : DirectiveFault → Option String
  | .malformed => some "invalid filter directive"
  | .badLevel =>
      some ("error parsing level filter: expected one of \"off\", \"error\", \"warn\", " ++
        "\"info\", \"debug\", \"trace\", or a number 0-5")
  | .badValue => some "invalid field filter: error building NFA"
  | .torn => none

namespace LogDirective

/-!
Levels and values.
-/

/-- A level by its name, in any case, or by its number. -/
def readRank? (text : List Char) : Option Nat :=
  let digits := if text.head? = some '+' then text.tail else text
  if !digits.isEmpty && digits.all Char.isDigit then
    let value := digits.foldl (fun total c => total * 10 + (c.toNat - '0'.toNat)) 0
    if value ≤ 5 then some value else none
  else
    match String.ofList (text.map Char.toLower) with
    | "off" => some 0
    | "error" => some 1
    | "warn" => some 2
    | "info" => some 3
    | "debug" => some 4
    | "trace" => some 5
    | _ => none

/-- What may follow the digits of a number. -/
def isExponent : List Char → Bool
  | [] => true
  | 'e' :: text | 'E' :: text =>
      let digits :=
        match text with
        | '+' :: digits | '-' :: digits => digits
        | digits => digits
      !digits.isEmpty && digits.all Char.isDigit
  | _ => false

/-- Is it a number without a sign, which may be infinite or none at all? -/
def isNumber (text : List Char) : Bool :=
  let whole := text.takeWhile Char.isDigit
  let rest := text.dropWhile Char.isDigit
  let (fraction, rest) :=
    match rest with
    | '.' :: rest => (rest.takeWhile Char.isDigit, rest.dropWhile Char.isDigit)
    | rest => ([], rest)
  (!(whole.isEmpty && fraction.isEmpty) && isExponent rest) ||
    ["inf", "infinity", "nan"].contains (String.ofList (text.map Char.toLower))

/-- Is it a value to compare with?  Everything but a number with a plus sign is taken as
a pattern, and truth values and other numbers are patterns anyway. -/
def isValue (text : List Char) : Bool :=
  ValuePattern.isWellFormed text || (text.head? = some '+' && isNumber text.tail)

/-- A name, or a name and a value with an equals sign between them.  What follows a
second one is dropped. -/
def readField (text : List Char) : Except DirectiveFault FieldCondition :=
  match text.splitOn '=' with
  | name :: value :: _ =>
      if isValue value then .ok { name, hasValue := true } else .error .badValue
  | _ => if text.isEmpty then .error .malformed else .ok { name := text }

/-!
A directive is read character by character.  Blanks around it are not read, yet they
count for positions: a part is cut out of the text as it stands at the positions that it
has in the text without blanks.
-/

/-- Where in a directive the reader stands, with the position where a part begins. -/
inductive Place where
  | start
  /-- Within a level or a target. -/
  | word (first : Nat)
  | span (first : Nat)
  | field (first : Nat)
  /-- Behind the field. -/
  | fielded
  /-- Behind the bracket that closes a scope. -/
  | scoped
  | level (first : Nat)
deriving Repr, DecidableEq

/-- The directive as far as it was read. -/
structure Draft where
  place : Place := .start
  directive : LogDirective := {}
deriving Repr, DecidableEq

/-- A directive starts with one of these unless it starts with a scope. -/
def isFirst (c : Char) : Bool := c = '-' || c = ':' || c = '_' || Text.isAlphanumeric c

/-- Cut a part out of a directive. -/
def part (text : List Char) (first stop : Nat) : Except DirectiveFault (List Char) :=
  (Text.cut? text first stop).elim (.error .torn) .ok

/-- The part that goes on to the end. -/
def lastPart (text : List Char) (first : Nat) : Except DirectiveFault (List Char) :=
  (Text.dropBytes? first text).elim (.error .torn) .ok

/-- Read one character, which stands at `position`. -/
def Draft.step (text : List Char) (draft : Draft) (position : Nat) (c : Char) :
    Except DirectiveFault Draft :=
  let directive := draft.directive
  match draft.place with
  | .start =>
      if c = '[' then .ok { draft with place := .span (position + 1) }
      else if isFirst c then .ok { draft with place := .word position }
      else .error .malformed
  | .word first =>
      if c = '=' then do
        let target ← part text first position
        pure { place := .level (position + 1), directive := { directive with target } }
      else if c = '[' then do
        let target ← part text first position
        pure { place := .span (position + 1), directive := { directive with target } }
      else .ok draft
  | .span first =>
      if c = ']' then do
        let span ← part text first position
        pure { place := .scoped, directive := { directive with span } }
      else if c = '\x7b' then do
        let span ← part text first position
        pure
          { place := .field (position + 1)
            directive := { directive with span := if span.isEmpty then none else some span } }
      else .ok draft
  | .field first =>
      if c = '\x7d' then do
        let content ← part text first position
        let field ← readField content
        pure { place := .fielded, directive := { directive with field } }
      else .ok draft
  | .fielded => if c = ']' then .ok { draft with place := .scoped } else .error .malformed
  | .scoped =>
      if c = '=' then .ok { draft with place := .level (position + 1) }
      else .error .malformed
  | .level _ => .ok draft

/-- A level alone is for all targets, and a target alone lets everything through. -/
def ofWord (word : List Char) : LogDirective :=
  if word.isEmpty then {}
  else
    match readRank? word with
    | some rank => { rank }
    | none => { target := some word }

/-- The directive when everything was read.  No level is the same as the lowest one. -/
def Draft.complete (text : List Char) (draft : Draft) : Except DirectiveFault LogDirective :=
  match draft.place with
  | .scoped => .ok draft.directive
  | .word first => (lastPart text first).map ofWord
  | .level first => do
      let level ← lastPart text first
      if level.isEmpty then pure draft.directive
      else
        match readRank? level with
        | some rank => pure { draft.directive with rank }
        | none => throw .badLevel
  | .start | .span _ | .field _ | .fielded => .error .malformed

/-- Read what is left of a directive, from `position` on. -/
def Draft.finish (text : List Char) (draft : Draft) (position : Nat) :
    List Char → Except DirectiveFault LogDirective
  | [] => draft.complete text
  | c :: rest => do
      let next ← draft.step text position c
      next.finish text (position + c.utf8Size) rest

/-- Read a directive: a level, a target, a target with a level, or one of these with a
scope, which names a span or a field or both. -/
def read (text : List Char) : Except DirectiveFault LogDirective :=
  Draft.finish text {} 0 (Text.trim text)

/-!
What a directive says about an event.
-/

/-- Nothing is ever logged within a span, and values are known only there: a directive
that asks for one of them decides nothing. -/
def decides (directive : LogDirective) : Bool :=
  directive.span.isNone && !(directive.field.any FieldCondition.hasValue)

/-- Is the directive about this event? -/
def covers (directive : LogDirective) (event : LogEvent) : Bool :=
  directive.target.all (·.isPrefixOf event.target.toList) &&
    directive.field.all fun field => event.hasField field.name

/-- The longer the target, the more specific the directive. -/
def targetWeight (directive : LogDirective) : Nat :=
  match directive.target with
  | none => 0
  | some target => (String.ofList target).utf8ByteSize + 1

def fieldCount (directive : LogDirective) : Nat := if directive.field.isSome then 1 else 0

/-- What a directive is about, in the order of the alphabet. -/
def label (directive : LogDirective) : String × String :=
  (String.ofList (directive.target.getD []),
    String.ofList ((directive.field.map FieldCondition.name).getD []))

/-- Does a directive come before another one that was read earlier?  The one with the
longer target does, then the one that asks for a field, then the one whose target and
field come later in the alphabet; about the same events the later one counts. -/
def outranks (directive earlier : LogDirective) : Bool :=
  if directive.targetWeight ≠ earlier.targetWeight then
    earlier.targetWeight < directive.targetWeight
  else if directive.fieldCount ≠ earlier.fieldCount then
    earlier.fieldCount < directive.fieldCount
  else if directive.label.1 ≠ earlier.label.1 then earlier.label.1 < directive.label.1
  else !(directive.label.2 < earlier.label.2 : Bool)

end LogDirective

end BoundedIngest

/-
Module: BoundedIngest.Observability.ValuePattern
Purpose: Which texts can be matched against the value of a field.
Main exports:
  ValuePattern.isWellFormed
-/
import BoundedIngest.Text.Alphanumeric
import BoundedIngest.Toml.Quoted

namespace BoundedIngest.ValuePattern

/-!
A value is matched by a regular expression: items in a row, alternatives between bars,
groups, and classes of characters in brackets, which may be nested.  The text is read
character by character, and the place where the reader stands says what may come next.

Only the tables of ASCII are at hand for kinds of characters.  A pattern that needs more
is refused: one with a kind of character, with a boundary of a word, or with letters of
either case, unless it asks for ASCII.  Braces that would count repetitions are refused
as well, because the text of a pattern ends before a closing brace.
-/

/-- How characters are taken, until the group ends. -/
structure Mode where
  /-- Letters stand for both of their cases. -/
  caseless : Bool := false
  /-- Characters are those of ASCII. -/
  ascii : Bool := false
deriving Repr, DecidableEq

/-- Where a reader stands within a class.  A range may begin with the literal that was
just read; what stands for a set of characters begins none. -/
inductive ClassPlace where
  /-- Behind the bracket, and behind its negation if `negated`. -/
  | opening (negated : Bool)
  /-- Behind dashes that stand at the beginning. -/
  | dashes
  | between
  /-- Behind a character that means an operation if it is doubled. -/
  | operator (c : Char)
  | item (literal : Option Char)
  /-- Behind a dash after an item. -/
  | range (first : Option Char)
  /-- Behind a backslash; `first` is there if a range has begun. -/
  | escape (first : Option (Option Char))
  /-- Within a number of which this many digits are still to come. -/
  | number (digits value : Nat) (first : Option (Option Char))
deriving Repr, DecidableEq

/-- Where a reader stands. -/
inductive Place where
  /-- Between items, the last of which can be repeated or not. -/
  | items (repeatable : Bool)
  | escape
  | number (digits value : Nat)
  /-- Behind an opening parenthesis. -/
  | opened
  /-- Behind a question mark that follows it. -/
  | marked
  /-- Before the name of a group. -/
  | naming
  /-- Within the name of a group, the last character first. -/
  | name (text : List Char)
  /-- Within flags: those read, and whether the ones to come are cleared. -/
  | flags (seen : List Char) (clearing : Bool) (mode : Mode)
  /-- Within a class that stands in `depth` others. -/
  | within (depth : Nat) (place : ClassPlace)
deriving Repr, DecidableEq

/-- What a reader knows. -/
structure Reader where
  place : Place := .items false
  mode : Mode := {}
  /-- How characters are taken outside each open group, the innermost first. -/
  outer : List Mode := []
  /-- Names of groups. -/
  names : List (List Char) := []
deriving Repr, DecidableEq

/-- What a backslash and a character mean. -/
inductive Escaped where
  | literal (c : Char)
  /-- A condition on the position. -/
  | assertion
  /-- A kind of character. -/
  | kind
  /-- The number of a character, with this many digits. -/
  | number (digits : Nat)
deriving Repr, DecidableEq

/-- Letters and digits have no meaning unless they are listed; all other characters of
ASCII stand for themselves. -/
def escaped? (mode : Mode) (c : Char) : Option Escaped :=
  match c with
  | 'x' => some (.number 2)
  | 'u' => some (.number 4)
  | 'U' => some (.number 8)
  | 'a' => some (.literal '\x07')
  | 'f' => some (.literal '\x0c')
  | 'n' => some (.literal '\n')
  | 'r' => some (.literal '\r')
  | 't' => some (.literal '\t')
  | 'v' => some (.literal '\x0b')
  | 'A' | 'z' => some .assertion
  | 'b' | 'B' | '<' | '>' => if mode.ascii then some .assertion else none
  | 'd' | 's' | 'w' => if mode.ascii then some .kind else none
  | _ => if c.toNat < 128 && !c.isAlphanum then some (.literal c) else none

/-- Can the character be told apart from others?  Cases can be only in ASCII. -/
def Mode.admits (mode : Mode) (c : Char) : Bool :=
  if mode.ascii then c.toNat < 128 else !mode.caseless

/-- Read a digit of the number of a character: the digits to come and the value, which
is complete when there are none. -/
def readDigit? (digits value : Nat) (c : Char) : Option (Nat × Nat) :=
  (Toml.Quoted.hexValue? c).map fun digit => (digits - 1, value * 16 + digit)

/-- An item of a class is complete; it may end a range, which must not run backwards. -/
def closeItem? (first : Option (Option Char)) (literal : Option Char) : Option ClassPlace :=
  match first, literal with
  | none, _ => some (.item literal)
  | some (some low), some high => if low ≤ high then some .between else none
  | some _, _ => none

/-- The next character of a class: where the reader stands then, one class deeper
(`some true`), one class higher (`some false`), or in the same class. -/
def between (c : Char) : ClassPlace × Option Bool :=
  match c with
  | '[' => (.opening false, some true)
  | ']' => (.between, some false)
  | '&' | '-' | '~' => (.operator c, none)
  | '\\' => (.escape none, none)
  | _ => (.item (some c), none)

def afterItem (literal : Option Char) (c : Char) : ClassPlace × Option Bool :=
  if c = '-' then (.range literal, none) else between c

def stepClass (mode : Mode) (place : ClassPlace) (c : Char) :
    Option (ClassPlace × Option Bool) :=
  let stay (place : ClassPlace) := (place, (none : Option Bool))
  match place with
  | .opening negated =>
      if c = '^' && !negated then (if mode.ascii then none else some (stay (.opening true)))
      else if c = '-' then some (stay .dashes)
      else if c = ']' then some (stay .between)
      else some (between c)
  | .dashes => some (if c = '-' then stay .dashes else between c)
  | .between => some (between c)
  | .operator sign => some (if c = sign then stay .between else afterItem (some sign) c)
  | .item literal => some (afterItem literal c)
  | .range first =>
      if c = ']' then some (between c)
      else if c = '-' then some (stay .between)
      else if c = '\\' then some (stay (.escape (some first)))
      else (closeItem? (some first) (some c)).map stay
  | .escape first =>
      match escaped? mode c with
      | some (.literal meant) => (closeItem? first (some meant)).map stay
      | some .kind => (closeItem? first none).map stay
      | some (.number digits) => some (stay (.number digits 0 first))
      | some .assertion | none => none
  | .number digits value first =>
      match readDigit? digits value c with
      | some (0, value) =>
          (Toml.Quoted.charOfNumber? value).bind fun meant =>
            (closeItem? first (some meant)).map stay
      | some (digits, value) => some (stay (.number digits value first))
      | none => none

/-- A group begins; inside it characters are taken as `mode` says. -/
def Reader.beginGroup (reader : Reader) (mode : Mode) : Reader :=
  { reader with place := .items false, mode, outer := reader.mode :: reader.outer }

/-- A character that belongs to no group, class or escape that was begun before. -/
def stepItems (reader : Reader) (repeatable : Bool) (c : Char) : Option Reader :=
  match c with
  | '(' => some { reader with place := .opened }
  | ')' =>
      match reader.outer with
      | mode :: outer => some { reader with place := .items true, mode, outer }
      | [] => none
  | '|' => some { reader with place := .items false }
  | '[' =>
      if reader.mode.caseless && !reader.mode.ascii then none
      else some { reader with place := .within 0 (.opening false) }
  | '?' | '*' | '+' => if repeatable then some { reader with place := .items true } else none
  | '\x7b' => none
  | '\\' => some { reader with place := .escape }
  | '.' => if reader.mode.ascii then none else some { reader with place := .items true }
  | '^' | '$' => some { reader with place := .items true }
  | _ => if reader.mode.admits c then some { reader with place := .items true } else none

/-- Flags that can be set or cleared. -/
def isFlag (c : Char) : Bool := "imsUuRx".toList.contains c

def Mode.setFlag (mode : Mode) (flag : Char) (clearing : Bool) : Mode :=
  match flag with
  | 'i' => { mode with caseless := !clearing }
  | 'u' => { mode with ascii := clearing }
  | _ => mode

/-- A character of flags, or the one that ends them: a colon begins a group, and after a
parenthesis the flags hold for the rest of the group around them. -/
def stepFlags (reader : Reader) (seen : List Char) (clearing : Bool) (mode : Mode) (c : Char) :
    Option Reader :=
  if c = ':' then
    if seen.head? = some '-' then none else some (reader.beginGroup mode)
  else if c = ')' then
    if seen.isEmpty || seen.head? = some '-' then none
    else some { reader with place := .items false, mode }
  else if seen.contains c then none
  else if c = '-' then some { reader with place := .flags ('-' :: seen) true mode }
  else if isFlag c then
    some { reader with place := .flags (c :: seen) clearing (mode.setFlag c clearing) }
  else none

/-- May the character stand in the name of a group? -/
def isNameChar (isFirst : Bool) (c : Char) : Bool :=
  c = '_' ||
    if isFirst then Text.isAlphanumeric c && !c.isDigit
    else c = '.' || c = '[' || c = ']' || Text.isAlphanumeric c

def Reader.step? (reader : Reader) (c : Char) : Option Reader :=
  match reader.place with
  | .items repeatable => stepItems reader repeatable c
  | .escape =>
      match escaped? reader.mode c with
      | some (.literal meant) =>
          if reader.mode.admits meant then some { reader with place := .items true } else none
      | some (.number digits) => some { reader with place := .number digits 0 }
      | some _ => some { reader with place := .items true }
      | none => none
  | .number digits value =>
      match readDigit? digits value c with
      | some (0, value) =>
          (Toml.Quoted.charOfNumber? value).bind fun meant =>
            if reader.mode.admits meant then some { reader with place := .items true } else none
      | some (digits, value) => some { reader with place := .number digits value }
      | none => none
  | .opened =>
      if c = '?' then some { reader with place := .marked }
      else stepItems (reader.beginGroup reader.mode) false c
  | .marked =>
      if c = 'P' then some { reader with place := .naming }
      else if c = '<' then some { reader with place := .name [] }
      else stepFlags reader [] false reader.mode c
  | .naming => if c = '<' then some { reader with place := .name [] } else none
  | .name text =>
      if c = '>' then
        if text.isEmpty || reader.names.contains text then none
        else some { reader.beginGroup reader.mode with names := text :: reader.names }
      else if isNameChar text.isEmpty c then
        some { reader with place := .name (c :: text) }
      else none
  | .flags seen clearing mode => stepFlags reader seen clearing mode c
  | .within depth place =>
      (stepClass reader.mode place c).map fun (place, move) =>
        match move, depth with
        | none, _ => { reader with place := .within depth place }
        | some true, _ => { reader with place := .within (depth + 1) place }
        | some false, 0 => { reader with place := .items true }
        | some false, depth + 1 => { reader with place := .within depth place }

/-- Is everything closed that was begun? -/
def Reader.isFinished (reader : Reader) : Bool :=
  match reader.place with
  | .items _ => reader.outer.isEmpty
  | _ => false

/-- Is the text a pattern? -/
def isWellFormed (text : List Char) : Bool :=
  match text.foldlM Reader.step? {} with
  | some reader => reader.isFinished
  | none => false

end BoundedIngest.ValuePattern

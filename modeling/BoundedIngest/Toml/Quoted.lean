/-
Module: BoundedIngest.Toml.Quoted
Purpose: Quoted texts: the four ways to write one, and reading each of them.
Main exports:
  Style, Style.choose, write, read?
-/
import BoundedIngest.Toml.Scan

namespace BoundedIngest.Toml.Quoted

/-!
A text stands between double quotes, where a backslash starts an escape, or between
single quotes, where every character stands for itself.  Three quotes on either side
allow line breaks within, and up to two quotes in a row.
-/

/-- How a text is written. -/
inductive Style where
  | basic
  | literal
  | multilineBasic
  | multilineLiteral
deriving Repr, DecidableEq

/-- Length of the longest run of `quote`, given the length of the run just read. -/
def longestRunFrom (quote : Char) (run : Nat) : List Char → Nat
  | [] => run
  | c :: rest =>
      if c = quote then longestRunFrom quote (run + 1) rest
      else max run (longestRunFrom quote 0 rest)

def longestRun (quote : Char) (text : List Char) : Nat := longestRunFrom quote 0 text

/-- Characters that only an escape can stand for, in every style. -/
def needsEscape (c : Char) : Bool := isControl c && c != '\t' && c != '\n'

/-- The plainest style that needs no escape is taken: double quotes, single quotes,
three double quotes, three single quotes, in this order.  If all of them need one, a
text with line breaks goes between three double quotes and any other between one. -/
def Style.choose (text : List Char) : Style :=
  let escapes := text.any needsEscape
  let backslash := text.contains '\\'
  let lines := text.contains '\n'
  let doubles := longestRun '"' text
  let singles := longestRun '\'' text
  if !escapes && !backslash && doubles = 0 && !lines then .basic
  else if !escapes && singles = 0 && !lines then .literal
  else if !escapes && !backslash && doubles ≤ 2 then .multilineBasic
  else if !escapes && singles ≤ 2 then .multilineLiteral
  else if lines then .multilineBasic
  else .basic

/-- A hexadecimal digit, in upper case. -/
def hexDigit (n : Nat) : Char :=
  if n < 10 then Char.ofNat (48 + n) else Char.ofNat (55 + n)

/-- An escape for a control character: its number with four hexadecimal digits. -/
def numericEscape (c : Char) : List Char :=
  let n := c.toNat
  ['\\', 'u', hexDigit (n / 4096 % 16), hexDigit (n / 256 % 16), hexDigit (n / 16 % 16),
    hexDigit (n % 16)]

/-- The characters between double quotes, escaped.  `run` counts the quotes just
written in a row: one that would make the row longer than the style allows is
escaped.  Tabs are escaped; line breaks only where the style has one line. -/
def writeBasic (multiline : Bool) (run : Nat) : List Char → List Char
  | [] => []
  | c :: rest =>
      if c = '"' then
        if run < (if multiline then 2 else 0) then c :: writeBasic multiline (run + 1) rest
        else '\\' :: '"' :: writeBasic multiline 0 rest
      else
        let written :=
          if c = '\n' && multiline then ['\n']
          else if c = '\n' then ['\\', 'n']
          else if c = '\t' then ['\\', 't']
          else if c = '\r' then ['\\', 'r']
          else if c = '\\' then ['\\', '\\']
          else if c = '\x08' then ['\\', 'b']
          else if c = '\x0c' then ['\\', 'f']
          else if isControl c then numericEscape c
          else [c]
        written ++ writeBasic multiline 0 rest

/-- Three quotes, and a line break after them if the text has one: the reader drops a
line break that comes first. -/
def openMultiline (quote : Char) (text : List Char) : List Char :=
  List.replicate 3 quote ++ if text.contains '\n' then ['\n'] else []

/-- Write a text in the given style. -/
def writeAs (text : List Char) : Style → List Char
  | .basic => '"' :: writeBasic false 0 text ++ ['"']
  | .literal => '\'' :: text ++ ['\'']
  | .multilineBasic => openMultiline '"' text ++ writeBasic true 0 text ++ List.replicate 3 '"'
  | .multilineLiteral => openMultiline '\'' text ++ text ++ List.replicate 3 '\''

/-- Write a text in the style that suits it. -/
def write (text : List Char) : List Char := writeAs text (Style.choose text)

/-- The character that a backslash and a letter stand for. -/
def shortEscape? : Char → Option Char
  | 'b' => some '\x08'
  | 't' => some '\t'
  | 'n' => some '\n'
  | 'f' => some '\x0c'
  | 'r' => some '\r'
  | '"' => some '"'
  | '\\' => some '\\'
  | _ => none

/-- Value of a hexadecimal digit of either case. -/
def hexValue? (c : Char) : Option Nat :=
  if c.isDigit then some (c.toNat - 48)
  else if 'a' ≤ c ∧ c ≤ 'f' then some (c.toNat - 87)
  else if 'A' ≤ c ∧ c ≤ 'F' then some (c.toNat - 55)
  else none

/-- The character with this number, unless it is a surrogate or out of range. -/
def charOfNumber? (n : Nat) : Option Char :=
  if n.isValidChar then some (Char.ofNat n) else none

/-- How many hexadecimal digits follow a letter that announces a number. -/
def numericEscapeDigits? : Char → Option Nat
  | 'u' => some 4
  | 'U' => some 8
  | _ => none

/-- Where a scan between single double quotes stands. -/
inductive BasicState where
  | plain
  | escape
  /-- This many digits of a number are still to come. -/
  | number (digits value : Nat)
deriving Repr, DecidableEq

/-- Put a character in front of what a scan reads. -/
def consResult (c : Char) : Option (List Char × List Char) → Option (List Char × List Char)
  | some (text, rest) => some (c :: text, rest)
  | none => none

/-- Read the characters up to the closing double quote. -/
def readBasic : BasicState → Scanner (List Char)
  | _, [] => none
  | .plain, c :: rest =>
      if c = '"' then some ([], rest)
      else if c = '\\' then readBasic .escape rest
      else if isBasicChar c then consResult c (readBasic .plain rest)
      else none
  | .escape, c :: rest =>
      match numericEscapeDigits? c, shortEscape? c with
      | some digits, _ => readBasic (.number digits 0) rest
      | none, some meant => consResult meant (readBasic .plain rest)
      | none, none => none
  | .number digits value, c :: rest =>
      match hexValue? c with
      | none => none
      | some digit =>
          if digits ≤ 1 then
            match charOfNumber? (value * 16 + digit) with
            | some meant => consResult meant (readBasic .plain rest)
            | none => none
          else readBasic (.number (digits - 1) (value * 16 + digit)) rest

/-- Read the characters up to the closing single quote. -/
def readLiteral : Scanner (List Char)
  | [] => none
  | c :: rest =>
      if c = '\'' then some ([], rest)
      else if isLiteralChar c then consResult c (readLiteral rest)
      else none

/-- Where a scan between triple quotes stands. -/
inductive MultilineState where
  /-- This many quotes in a row were just read, less than three. -/
  | plain (quotes : Nat)
  /-- The three closing quotes were read, and this many quotes before them. -/
  | closing (quotes : Nat)
  | escape
  | number (digits value : Nat)
  /-- A backslash and blanks were read; the line must end here. -/
  | beforeBreak
  /-- The line ended after a backslash: blanks and line breaks are dropped. -/
  | afterBreak
deriving Repr, DecidableEq

/-- The two kinds of quoting: the quote, and whether a backslash starts an escape. -/
structure QuoteKind where
  quote : Char
  escapes : Bool
deriving Repr, DecidableEq

def basicKind : QuoteKind := ⟨'"', true⟩

def literalKind : QuoteKind := ⟨'\'', false⟩

/-- Put characters in front of what a scan reads. -/
def appendResult (front : List Char) :
    Option (List Char × List Char) → Option (List Char × List Char)
  | some (text, rest) => some (front ++ text, rest)
  | none => none

/-- Read the characters up to the closing quotes.  A run of one or two quotes belongs
to the text; of a run of three to five the last three close it, and a longer run is
refused by what follows.  Line breaks are read as line feeds. -/
def readMultiline (kind : QuoteKind) : MultilineState → Scanner (List Char)
  | .closing quotes, [] => some (List.replicate quotes kind.quote, [])
  | .closing quotes, c :: rest =>
      if c = kind.quote && quotes < 2 then readMultiline kind (.closing (quotes + 1)) rest
      else some (List.replicate quotes kind.quote, c :: rest)
  | _, [] => none
  | .plain quotes, c :: rest =>
      let front := List.replicate quotes kind.quote
      if c = kind.quote then
        if quotes < 2 then readMultiline kind (.plain (quotes + 1)) rest
        else readMultiline kind (.closing 0) rest
      else if c = '\\' && kind.escapes then
        appendResult front (readMultiline kind .escape rest)
      else if c = '\n' || isCommentChar c then
        appendResult (front ++ [c]) (readMultiline kind (.plain 0) rest)
      else if c = '\r' && rest.head? = some '\n' then
        appendResult front (readMultiline kind (.plain 0) rest)
      else none
  | .escape, c :: rest =>
      match numericEscapeDigits? c, shortEscape? c with
      | some digits, _ => readMultiline kind (.number digits 0) rest
      | none, some meant => consResult meant (readMultiline kind (.plain 0) rest)
      | none, none =>
          if isBlank c then readMultiline kind .beforeBreak rest
          else if c = '\n' then readMultiline kind .afterBreak rest
          else if c = '\r' && rest.head? = some '\n' then readMultiline kind .beforeBreak rest
          else none
  | .number digits value, c :: rest =>
      match hexValue? c with
      | none => none
      | some digit =>
          if digits ≤ 1 then
            match charOfNumber? (value * 16 + digit) with
            | some meant => consResult meant (readMultiline kind (.plain 0) rest)
            | none => none
          else readMultiline kind (.number (digits - 1) (value * 16 + digit)) rest
  | .beforeBreak, c :: rest =>
      if isBlank c then readMultiline kind .beforeBreak rest
      else if c = '\n' then readMultiline kind .afterBreak rest
      else if c = '\r' && rest.head? = some '\n' then readMultiline kind .beforeBreak rest
      else none
  | .afterBreak, c :: rest =>
      if isBlank c || c = '\n' then readMultiline kind .afterBreak rest
      else if c = '\r' && rest.head? = some '\n' then readMultiline kind .afterBreak rest
      else if c = kind.quote then readMultiline kind (.plain 1) rest
      else if c = '\\' then readMultiline kind .escape rest
      else if isCommentChar c then consResult c (readMultiline kind (.plain 0) rest)
      else none

/-- A line break that comes first after the opening quotes is dropped. -/
def dropFirstBreak (text : List Char) : List Char := (lineBreak? text).getD text

/-- Read a text quoted within one line. -/
def readOneLine? : Scanner (List Char)
  | '"' :: rest => readBasic .plain rest
  | '\'' :: rest => readLiteral rest
  | _ => none

/-- Read a quoted text of any style. -/
def read? : Scanner (List Char)
  | '"' :: '"' :: '"' :: rest => readMultiline basicKind (.plain 0) (dropFirstBreak rest)
  | '\'' :: '\'' :: '\'' :: rest =>
      readMultiline literalKind (.plain 0) (dropFirstBreak rest)
  | text => readOneLine? text

end BoundedIngest.Toml.Quoted

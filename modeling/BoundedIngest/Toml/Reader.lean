/-
Module: BoundedIngest.Toml.Reader
Purpose: Reading a TOML document.
Main exports:
  readKey?, readValue?, readStatements?, parse?
-/
import BoundedIngest.Toml.Numeral
import BoundedIngest.Toml.Quoted
import BoundedIngest.Toml.Table

namespace BoundedIngest.Toml

/-- How deep arrays and inline tables may lie within one another. -/
def maxNesting : Nat := 79

/-- How many parts a dotted key may have. -/
def maxKeyParts : Nat := 79

/-- One part of a key: quoted within one line, or of plain characters. -/
def readKeyPart? (text : List Char) : Option (String × List Char) :=
  match text with
  | '"' :: _ | '\'' :: _ =>
      (Quoted.readOneLine? text).map fun (part, rest) => (String.ofList part, rest)
  | _ =>
      match text.takeWhile isBareKeyChar with
      | [] => none
      | part => some (String.ofList part, text.dropWhile isBareKeyChar)

/-- The parts of a key, separated by points; blanks may stand around each.  The
number is an upper bound for the parts read. -/
def readKeyParts? : Nat → List Char → Option (List String × List Char)
  | 0, _ => none
  | bound + 1, text => do
      let (part, rest) ← readKeyPart? (skipBlanks text)
      match skipBlanks rest with
      | '.' :: rest => do
          let (parts, rest) ← readKeyParts? bound rest
          pure (part :: parts, rest)
      | rest => pure ([part], rest)

/-- A key: the tables it passes through, and its last part. -/
def readKey? (text : List Char) : Option ((List String × String) × List Char) := do
  let (parts, rest) ← readKeyParts? maxKeyParts text
  let last ← parts.getLast?
  pure ((parts.dropLast, last), rest)

/-- A key, an equals sign and a value. -/
def readPair? (value : Scanner Value) (text : List Char) :
    Option ((List String × String × Value) × List Char) := do
  let ((path, key), rest) ← readKey? text
  match rest with
  | '=' :: rest => do
      let (value, rest) ← value (skipBlanks rest)
      pure ((path, key, value), rest)
  | _ => none

/-- The items of an array after its bracket.  Line breaks and comments may stand
around each, and a comma may follow the last. -/
def readItems? (value : Scanner Value) : Nat → List Char → Option (List Value × List Char)
  | 0, _ => none
  | fuel + 1, text =>
      match skipFiller text with
      | ']' :: rest => some ([], rest)
      | text => do
          let (item, rest) ← value text
          match skipFiller rest with
          | ',' :: rest => do
              let (items, rest) ← readItems? value fuel rest
              pure (item :: items, rest)
          | ']' :: rest => pure ([item], rest)
          | _ => none

/-- The pairs of an inline table after its first, which is given.  No line break and
no comma may come before the closing brace. -/
def readPairs? (value : Scanner Value) : Nat → Entries → List Char → Option (Entries × List Char)
  | 0, _, _ => none
  | fuel + 1, entries, text => do
      let ((path, key, item), rest) ← readPair? value text
      let entries ← entries.assign? key item path
      match skipBlanks rest with
      | ',' :: rest => readPairs? value fuel entries rest
      | '\x7d' :: rest => pure (entries, rest)
      | _ => none

/-- An inline table after its brace. -/
def readInlineTable? (value : Scanner Value) (text : List Char) : Option (Value × List Char) :=
  match skipBlanks text with
  | '\x7d' :: rest => some (.table [], rest)
  | _ => do
      let (entries, rest) ← readPairs? value (text.length + 1) [] text
      pure (.table (finishEntries entries), rest)

/-- A value, with arrays and inline tables at most `nesting` deep. -/
def readValue? : Nat → Scanner Value
  | nesting, text =>
      match text with
      | [] => none
      | first :: rest =>
          if first = '"' || first = '\'' then
            (Quoted.read? text).map fun (content, rest) => (.text (String.ofList content), rest)
          else if first = '[' then
            match nesting with
            | 0 => none
            | nesting + 1 =>
                (readItems? (readValue? nesting) (rest.length + 1) rest).map
                  fun (items, rest) => (.array items, rest)
          else if first = '\x7b' then
            match nesting with
            | 0 => none
            | nesting + 1 => readInlineTable? (readValue? nesting) rest
          else if first = 't' then
            if text.take 4 = "true".toList then some (.boolean true, text.drop 4) else none
          else if first = 'f' then
            if text.take 5 = "false".toList then some (.boolean false, text.drop 5) else none
          else if first = 'i' || first = 'n' then Numeral.readSpecialFloat? text
          else if first.isDigit || first = '+' || first = '-' then Numeral.readNumeral? text
          else none

/-- A header after its first bracket. -/
def readHeader? (layout : Layout) (text : List Char) : Option (Layout × List Char) :=
  match text with
  | '[' :: text => do
      let ((path, key), rest) ← readKey? text
      match rest with
      | ']' :: ']' :: rest => pure (← layout.openElement? path key, rest)
      | _ => none
  | _ => do
      let ((path, key), rest) ← readKey? text
      match rest with
      | ']' :: rest => pure (← layout.openTable? path key, rest)
      | _ => none

/-- One statement: a header or a pair. -/
def readStatement? (layout : Layout) (text : List Char) : Option (Layout × List Char) :=
  match text with
  | '[' :: rest => readHeader? layout rest
  | _ => do
      let ((path, key, value), rest) ← readPair? (readValue? maxNesting) text
      pure (← layout.assign? path key value, rest)

/-- The statements of a document, each on a line of its own.  The number bounds the
lines read. -/
def readStatements? : Nat → Layout → List Char → Option Layout
  | 0, _, _ => none
  | fuel + 1, layout, text =>
      match skipBlanks text with
      | [] => some layout
      | first :: rest =>
          if first = '#' || first = '\n' || first = '\r' then
            match lineEnd? (first :: rest) with
            | some rest => readStatements? fuel layout rest
            | none => none
          else do
            let (layout, rest) ← readStatement? layout (first :: rest)
            let rest ← lineEnd? rest
            readStatements? fuel layout rest

/-- A byte order mark may come first. -/
def dropByteOrderMark : List Char → List Char
  | '\ufeff' :: rest => rest
  | text => text

/-- Read a document. -/
def parse? (text : String) : Option Document := do
  let text := dropByteOrderMark text.toList
  let layout ← readStatements? (text.length + 1) {} text
  layout.document?

end BoundedIngest.Toml

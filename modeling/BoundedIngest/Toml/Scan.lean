/-
Module: BoundedIngest.Toml.Scan
Purpose: Character classes of TOML, and scanners for blanks, line ends and comments.
Main exports:
  Scanner, isBlank, isBasicChar, isLiteralChar, isBareKeyChar, skipBlanks,
  lineBreak?, skipFiller, lineEnd?
-/

namespace BoundedIngest.Toml

/-- Reads something from the front of a text and gives back the rest, or fails. -/
abbrev Scanner (α : Type) := List Char → Option (α × List Char)

/-- Blanks within a line. -/
def isBlank (c : Char) : Bool := c == ' ' || c == '\t'

/-- Control characters stand for themselves nowhere but for tabs and line breaks. -/
def isControl (c : Char) : Bool := c.toNat < 0x20 || c.toNat == 0x7f

/-- Characters of comments. -/
def isCommentChar (c : Char) : Bool := c == '\t' || !isControl c

/-- Characters that stand for themselves between single quotes. -/
def isLiteralChar (c : Char) : Bool := isCommentChar c && c != '\''

/-- Characters that stand for themselves between double quotes. -/
def isBasicChar (c : Char) : Bool := isCommentChar c && c != '"' && c != '\\'

/-- Characters of keys without quotes; only ASCII letters and digits count. -/
def isBareKeyChar (c : Char) : Bool := c.isAlphanum || c == '-' || c == '_'

/-- Drop blanks. -/
def skipBlanks (text : List Char) : List Char := text.dropWhile isBlank

/-- The text after a line break, which is a line feed, alone or after a carriage
return. -/
def lineBreak? : List Char → Option (List Char)
  | '\n' :: rest => some rest
  | '\r' :: '\n' :: rest => some rest
  | _ => none

/-- Drop a comment, if there is one, up to the end of its line or to a character that
no comment may hold. -/
def skipComment : List Char → List Char
  | '#' :: rest => rest.dropWhile isCommentChar
  | text => text

/-- Drop blanks, line breaks and comments, which may stand between the items of an
array.  The flag tells whether the scan is inside a comment. -/
def skipFillerFrom : Bool → List Char → List Char
  | true, c :: rest => if isCommentChar c then skipFillerFrom true rest
      else if c = '\n' then skipFillerFrom false rest
      else if c = '\r' && rest.head? = some '\n' then skipFillerFrom false rest
      else c :: rest
  | false, c :: rest => if isBlank c || c = '\n' then skipFillerFrom false rest
      else if c = '#' then skipFillerFrom true rest
      else if c = '\r' && rest.head? = some '\n' then skipFillerFrom false rest
      else c :: rest
  | _, [] => []

def skipFiller (text : List Char) : List Char := skipFillerFrom false text

/-- What may follow a statement on its line: blanks and a comment.  The answer is the
text from the next line on. -/
def lineEnd? (text : List Char) : Option (List Char) :=
  match skipComment (skipBlanks text) with
  | [] => some []
  | rest => lineBreak? rest

end BoundedIngest.Toml

/-
Module: BoundedIngest.Toml.Printer
Purpose: A writer of documents that consist of tables of texts and integers.
Main exports:
  printKey, Scalar.print, Section.print, printDocument, write?
-/
import BoundedIngest.Toml.Grammar

namespace BoundedIngest.Toml

/-!
The settings are written by whatever writes the format; this is a writer to run them with.  It
takes the plainest way to write each text, and puts an empty line between two tables.
-/

/-- A key, in quotes if it needs them. -/
def printKey (key : String) : List Char :=
  if IsBareKey key then key.toList else Quoted.writeAs key.toList .basic

def Scalar.print : Scalar → List Char
  | .text content => Quoted.write content.toList
  | .integer value => Numeral.integerText value

/-- A pair on its line. -/
def printPair (pair : String × Scalar) : List Char :=
  printKey pair.1 ++ " = ".toList ++ pair.2.print ++ ['\n']

/-- A table: its header on a line and its pairs below. -/
def Section.print (part : Section) : List Char :=
  '[' :: printKey part.name ++ [']', '\n'] ++ (part.pairs.map printPair).flatten

/-- The tables one after the other, with an empty line between them. -/
def printDocument (parts : List Section) : String :=
  String.ofList (List.intercalate ['\n'] (parts.map Section.print))

/-- Write tables, unless one has an integer that is too large. -/
def write? (parts : List Section) : Option String :=
  if parts.all fun part => part.pairs.all fun pair => pair.2.isInRange then
    some (printDocument parts)
  else none

end BoundedIngest.Toml

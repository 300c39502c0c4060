/-
Module: BoundedIngest.Toml.Grammar
Purpose: What a text of the format states, said by a grammar and not by a reader.
Main exports:
  Quoted.Escape, Quoted.Body, Quoted.OneLine, Quoted.Spells, Numeral.Digits, Numeral.Spells,
  KeySpells, Scalar.Spells, Statement, Line, Lines, States, WritesToml
-/
import BoundedIngest.Toml.Numeral
import BoundedIngest.Toml.Quoted

namespace BoundedIngest.Toml

/-!
The same tables can be written in many ways: blanks, comments and empty lines come and go, a key
may have quotes, a text has four styles with escapes of several kinds, and an integer may be
written in four bases.  Each relation below has what is meant on its left and a way to write it
on its right.  It covers documents in which every table stands under its header, and every value
is a text or an integer.
-/

/-! ### Blanks and line breaks -/

def Blanks (text : List Char) : Prop := ∀ c ∈ text, isBlank c = true

/-- A line feed, alone or after a carriage return. -/
inductive LineBreak : List Char → Prop
  | feed : LineBreak ['\n']
  | both : LineBreak ['\r', '\n']

/-- Blanks and line breaks. -/
inductive Gap : List Char → Prop
  | nil : Gap []
  | blank {c : Char} {gap : List Char} (blank : isBlank c = true) (others : Gap gap) :
      Gap (c :: gap)
  | lineBreak {ending gap : List Char} (ends : LineBreak ending) (others : Gap gap) :
      Gap (ending ++ gap)

/-- A text that does not start with a line break. -/
structure StartsOnLine (text : List Char) : Prop where
  feed : text.head? ≠ some '\n'
  carriage : text.head? ≠ some '\r'

/-- What may come last on a line: blanks, and a comment. -/
inductive Trailing : List Char → Prop
  | blanks {text : List Char} (blank : Blanks text) : Trailing text
  | comment {blanks body : List Char} (blank : Blanks blanks)
      (plain : ∀ c ∈ body, isCommentChar c = true) : Trailing (blanks ++ '#' :: body)

/-! ### Texts -/

namespace Quoted

/-- What comes after a backslash that stands for a character: a letter of its own, or a letter
and as many hexadecimal digits as it announces. -/
inductive Escape (c : Char) : List Char → Prop
  | short (letter : Char) (meant : shortEscape? letter = some c) : Escape c [letter]
  | numeric (letter : Char) (digits : List Char)
      (announced : numericEscapeDigits? letter = some digits.length)
      (hex : ∀ digit ∈ digits, Numeral.isHexDigit digit = true)
      (number : Numeral.ofDigits 16 digits = c.toNat) : Escape c (letter :: digits)

/-- Texts between quotes, on one line or on several.  Before the text come `run` quotes that
belong to it.  Within several lines there may be two quotes in a row but not three, and a
backslash at the end of a line continues it where the next character stands that is no blank. -/
inductive Body (kind : QuoteKind) (several : Bool) : Nat → List Char → List Char → Prop
  | nil {run : Nat} : Body kind several run [] []
  | itself {run : Nat} {c : Char} {text written : List Char} (stands : isCommentChar c = true)
      (other : c ≠ kind.quote) (unescaped : c = '\\' → kind.escapes = false)
      (more : Body kind several 0 text written) : Body kind several run (c :: text) (c :: written)
  | escaped {run : Nat} {c : Char} {text escape written : List Char}
      (escapes : kind.escapes = true) (means : Escape c escape)
      (more : Body kind several 0 text written) :
      Body kind several run (c :: text) ('\\' :: escape ++ written)
  | lineBreak {run : Nat} {text ending written : List Char} (lines : several = true)
      (ends : LineBreak ending) (more : Body kind several 0 text written) :
      Body kind several run ('\n' :: text) (ending ++ written)
  | quote {run : Nat} {text written : List Char} (lines : several = true) (few : run < 2)
      (more : Body kind several (run + 1) text written) :
      Body kind several run (kind.quote :: text) (kind.quote :: written)
  | continued {run : Nat} {text blanks ending gap written : List Char}
      (lines : several = true) (escapes : kind.escapes = true) (blank : Blanks blanks)
      (ends : LineBreak ending) (drops : Gap gap)
      (solid : ∀ c, written.head? = some c → isBlank c = false)
      (starts : StartsOnLine written) (more : Body kind several 0 text written) :
      Body kind several run text ('\\' :: blanks ++ ending ++ gap ++ written)

/-- Texts in one pair of quotes. -/
inductive OneLine (text : List Char) : List Char → Prop
  | basic {written : List Char} (body : Body basicKind false 0 text written) :
      OneLine text ('"' :: written ++ ['"'])
  | literal {written : List Char} (body : Body literalKind false 0 text written) :
      OneLine text ('\'' :: written ++ ['\''])

/-- What comes right after three opening quotes: a line break that does not belong to the text,
or the text if it does not start with one. -/
inductive Opens (written : List Char) : List Char → Prop
  | lineBreak {ending : List Char} (ends : LineBreak ending) : Opens written ending
  | text (starts : StartsOnLine written) : Opens written []

/-- Texts in quotes. -/
inductive Spells (text : List Char) : List Char → Prop
  | oneLine {written : List Char} (spells : OneLine text written) : Spells text written
  | multilineBasic {opening written : List Char} (opens : Opens written opening)
      (body : Body basicKind true 0 text written) :
      Spells text (List.replicate 3 '"' ++ opening ++ written ++ List.replicate 3 '"')
  | multilineLiteral {opening written : List Char} (opens : Opens written opening)
      (body : Body literalKind true 0 text written) :
      Spells text (List.replicate 3 '\'' ++ opening ++ written ++ List.replicate 3 '\'')

end Quoted

/-! ### Integers -/

namespace Numeral

/-- Digits, with single underscores between some of them. -/
inductive Digits (isDigit : Char → Bool) : List Char → List Char → Prop
  | single {c : Char} (digit : isDigit c = true) : Digits isDigit [c] [c]
  | next {c : Char} {digits written : List Char} (digit : isDigit c = true)
      (more : Digits isDigit digits written) : Digits isDigit (c :: digits) (c :: written)
  | grouped {c : Char} {digits written : List Char} (digit : isDigit c = true)
      (more : Digits isDigit digits written) : Digits isDigit (c :: digits) (c :: '_' :: written)

/-- Numbers in base ten, where only zero itself starts with a zero. -/
inductive Whole : Nat → List Char → Prop
  | zero : Whole 0 ['0']
  | digits {digits written : List Char} (spells : Digits Char.isDigit digits written)
      (leads : digits.head? ≠ some '0') : Whole (ofDigits 10 digits) written

/-- The letter that announces a base other than ten, the base and its digits. -/
inductive Base : Char → Nat → (Char → Bool) → Prop
  | hexadecimal : Base 'x' 16 isHexDigit
  | octal : Base 'o' 8 isOctalDigit
  | binary : Base 'b' 2 isBinaryDigit

/-- Integers: signed in base ten, and not negative in another base. -/
inductive Spells : Int → List Char → Prop
  | plain {number : Nat} {written : List Char} (whole : Whole number written) :
      Spells number written
  | positive {number : Nat} {written : List Char} (whole : Whole number written) :
      Spells number ('+' :: written)
  | negative {number : Nat} {written : List Char} (whole : Whole number written) :
      Spells (-number) ('-' :: written)
  | based {letter : Char} {base : Nat} {isDigit : Char → Bool} {digits written : List Char}
      (announced : Base letter base isDigit) (spells : Digits isDigit digits written) :
      Spells (ofDigits base digits) ('0' :: letter :: written)

end Numeral

/-! ### Statements -/

/-- A key that needs no quotes. -/
structure IsBareKey (key : String) : Prop where
  nonempty : key.toList ≠ []
  plain : ∀ c ∈ key.toList, isBareKeyChar c = true

instance (key : String) : Decidable (IsBareKey key) :=
  decidable_of_iff (key.toList ≠ [] ∧ key.toList.all isBareKeyChar = true)
    ⟨fun ⟨nonempty, plain⟩ => ⟨nonempty, List.all_eq_true.mp plain⟩,
      fun bare => ⟨bare.nonempty, List.all_eq_true.mpr bare.plain⟩⟩

inductive KeySpells (key : String) : List Char → Prop
  | bare (bare : IsBareKey key) : KeySpells key key.toList
  | quoted {written : List Char} (spells : Quoted.OneLine key.toList written) :
      KeySpells key written

inductive Scalar.Spells : Scalar → List Char → Prop
  | text {content : String} {written : List Char}
      (spells : Quoted.Spells content.toList written) : Spells (.text content) written
  | integer {value : Int} {written : List Char} (spells : Numeral.Spells value written) :
      Spells (.integer value) written

/-- What a line can state. -/
inductive Statement where
  /-- The table of this name begins. -/
  | header (name : String)
  | pair (key : String) (scalar : Scalar)
deriving Repr, DecidableEq

inductive Statement.Spells : Statement → List Char → Prop
  | header {name : String} {before key after : List Char} (leads : Blanks before)
      (spells : KeySpells name key) (trails : Blanks after) :
      Spells (.header name) ('[' :: before ++ key ++ after ++ [']'])
  | pair {name : String} {scalar : Scalar} {key before after value : List Char}
      (keySpells : KeySpells name key) (leads : Blanks before) (trails : Blanks after)
      (valueSpells : scalar.Spells value) :
      Spells (.pair name scalar) (key ++ before ++ '=' :: after ++ value)

/-- Lines, with or without a statement. -/
inductive Line : Option Statement → List Char → Prop
  | empty {trailing : List Char} (trails : Trailing trailing) : Line none trailing
  | statement {statement : Statement} {blanks written trailing : List Char}
      (leads : Blanks blanks) (spells : statement.Spells written) (trails : Trailing trailing) :
      Line (some statement) (blanks ++ written ++ trailing)

/-- Lines with a line break after each but the last. -/
inductive Lines : List Statement → List Char → Prop
  | last {statement : Option Statement} {written : List Char} (line : Line statement written) :
      Lines statement.toList written
  | next {statement : Option Statement} {statements : List Statement}
      {written ending more : List Char}
      (line : Line statement written) (ends : LineBreak ending) (others : Lines statements more) :
      Lines (statement.toList ++ statements) (written ++ ending ++ more)

/-! ### Documents -/

/-- A table is stated by its header and, after that, its pairs. -/
def Section.statements (part : Section) : List Statement :=
  .header part.name :: part.pairs.map fun pair => .pair pair.1 pair.2

/-- The text states these tables, and nothing else. -/
def States (parts : List Section) (text : String) : Prop :=
  Lines (parts.flatMap Section.statements) text.toList

/-- This writes documents of the format: whatever tables it is given, the text it writes states
them. -/
def WritesToml (write : List Section → Option String) : Prop :=
  ∀ parts : List Section, (∀ part ∈ parts, part.IsReadable) → (parts.map Section.name).Nodup →
    ∃ text, write parts = some text ∧ States parts text

end BoundedIngest.Toml

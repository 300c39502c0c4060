/-
Module: BoundedIngest.Toml.Value
Purpose: What a configuration document says, apart from how it is laid out.
Main exports:
  Value, Document, Scalar, Section, Section.IsReadable
-/

namespace BoundedIngest.Toml

/-- A value of a TOML document.  Floats and moments of time keep the text they were
written with: no setting is one, so only their being well formed matters. -/
inductive Value where
  | text (content : String)
  | integer (value : Int)
  | float (literal : String)
  | boolean (value : Bool)
  | moment (literal : String)
  | array (items : List Value)
  | table (entries : List (String × Value))
deriving Repr, Inhabited

/-- The entries of the outermost table, in the order of their first mention. -/
abbrev Document := List (String × Value)

/-- Integers are 64-bit and signed. -/
def minInteger : Int := Int64.minValue.toInt

/-- Integers are 64-bit and signed. -/
def maxInteger : Int := Int64.maxValue.toInt

/-! ### Tables of texts and integers -/

/-- A value that fits on a line. -/
inductive Scalar where
  | text (content : String)
  | integer (value : Int)
deriving Repr, DecidableEq

namespace Scalar

def value : Scalar → Value
  | .text content => .text content
  | .integer value => .integer value

/-- Is it no integer that is too large? -/
def isInRange : Scalar → Bool
  | .text _ => true
  | .integer value => minInteger ≤ value && value ≤ maxInteger

end Scalar

/-- A table with its name and its pairs, in the order in which they are written. -/
structure Section where
  name : String
  pairs : List (String × Scalar)
deriving Repr, DecidableEq

namespace Section

def value (part : Section) : String × Value :=
  (part.name, .table (part.pairs.map fun pair => (pair.1, pair.2.value)))

/-- A table that a reader accepts: no integer is too large, and no key is given twice. -/
structure IsReadable (part : Section) : Prop where
  fits : ∀ pair ∈ part.pairs, pair.2.isInRange = true
  distinct : (part.pairs.map Prod.fst).Nodup

instance (part : Section) : Decidable part.IsReadable :=
  decidable_of_iff
    ((∀ pair ∈ part.pairs, pair.2.isInRange = true) ∧ (part.pairs.map Prod.fst).Nodup)
    ⟨fun ⟨fits, distinct⟩ => ⟨fits, distinct⟩,
      fun readable => ⟨readable.fits, readable.distinct⟩⟩

end Section

end BoundedIngest.Toml

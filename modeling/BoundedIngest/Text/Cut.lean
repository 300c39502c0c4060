/-
Module: BoundedIngest.Text.Cut
Purpose: Parts of a text, given by positions in its UTF-8 form or by their outer blanks.
Main exports:
  dropBytes?, takeBytes?, cut?, isBlank, trim
-/

namespace BoundedIngest.Text

/-!
A character takes one to four bytes, so not every position is one between two characters.
There is no part that begins or ends at any other position.
-/

/-- What follows the first `count` bytes. -/
def dropBytes? : Nat → List Char → Option (List Char)
  | 0, text => some text
  | _ + 1, [] => none
  | count + 1, c :: text =>
      if c.utf8Size ≤ count + 1 then dropBytes? (count + 1 - c.utf8Size) text else none

/-- The first `count` bytes. -/
def takeBytes? : Nat → List Char → Option (List Char)
  | 0, _ => some []
  | _ + 1, [] => none
  | count + 1, c :: text =>
      if c.utf8Size ≤ count + 1 then
        (takeBytes? (count + 1 - c.utf8Size) text).map (c :: ·)
      else none

/-- The part from byte `first` up to, but without, byte `stop`. -/
def cut? (text : List Char) (first stop : Nat) : Option (List Char) :=
  (dropBytes? first text).bind (takeBytes? (stop - first))

/-- Characters that show nothing but take up room or end a line. -/
def isBlank (c : Char) : Bool :=
  let n := c.toNat
  (0x09 ≤ n && n ≤ 0x0D) || n = 0x20 || n = 0x85 || n = 0xA0 || n = 0x1680 ||
    (0x2000 ≤ n && n ≤ 0x200A) || n = 0x2028 || n = 0x2029 || n = 0x202F || n = 0x205F ||
    n = 0x3000

/-- A text without blanks at its beginning and at its end. -/
def trim (text : List Char) : List Char :=
  ((text.dropWhile isBlank).reverse.dropWhile isBlank).reverse

end BoundedIngest.Text

/-
Module: BoundedIngest.Sizing.Footprint
Purpose: Memory taken by an entry, what it owns on the heap included.
Main exports:
  Shape, Shape.footprint, Shape.overflows
-/
import BoundedIngest.Failure.Basic

namespace BoundedIngest

/-- The shapes of data whose footprint is known, on a machine with 64-bit words. -/
inductive Shape where
  | unit
  | flag
  | byte
  | word32
  | word64
  | text (content : String)
  | bytes (count : Nat)
  | words (count : Nat)
  | texts (contents : List String)
  | optionalText (content : Option String)
  /-- A 64-bit word next to a text. -/
  | wordAndText (content : String)
deriving Repr, DecidableEq

/-- A growable buffer is a pointer, a capacity and a length. -/
def bufferHeaderBytes : Nat := 24

/-- Footprint of a text: its header and its UTF-8 bytes. -/
def textFootprint (content : String) : Nat := bufferHeaderBytes + content.utf8ByteSize

/-- Footprint in bytes.  An absent text takes the place of a header, because the
header of a present one always holds a pointer. -/
def Shape.footprint : Shape → Nat
  | .unit => 0
  | .flag => 1
  | .byte => 1
  | .word32 => 4
  | .word64 => 8
  | .text content => textFootprint content
  | .bytes count => bufferHeaderBytes + count
  | .words count => bufferHeaderBytes + 8 * count
  | .texts contents =>
      contents.foldl (fun total content => total + textFootprint content) bufferHeaderBytes
  | .optionalText none => bufferHeaderBytes
  | .optionalText (some content) => textFootprint content
  | .wordAndText content => 8 + textFootprint content

/-- A buffer has at most as many bytes as a word with a sign can count. -/
def maxBufferBytes : Nat := 9223372036854775807

/-- Would its buffer have to be larger than any can be? -/
def Shape.overflows : Shape → Bool
  | .bytes count => maxBufferBytes < count
  | .words count => maxBufferBytes < 8 * count
  | _ => false

/-- The panic of whoever asks for a buffer that is too large. -/
def overflowPanic : Panic := .text "capacity overflow"

end BoundedIngest

/-
Module: BoundedIngest.Bench.Row
Purpose: Synthetic rows, each determined by its key.
Main exports:
  mixKey, Row, Row.ofKey, Row.estimate, PayloadFault, Row.fault?
-/
import BoundedIngest.Sizing.Footprint

namespace BoundedIngest.Bench

/-- Spread the bits of a key over the whole word, so that all producers agree on which
keys are wide.  One addition and three rounds of folding the high bits into the low
ones; the first two rounds also multiply by an odd constant. -/
def mixKey (key : UInt64) : UInt64 :=
  let shifted := key + 0x9E3779B97F4A7C15
  let first := (shifted ^^^ (shifted >>> 30)) * 0xBF58476D1CE4E5B9
  let second := (first ^^^ (first >>> 27)) * 0x94D049BB133111EB
  second ^^^ (second >>> 31)

/-- A row.  Its payload repeats one byte, so the byte and the length describe it. -/
structure Row where
  key : UInt64
  partition : String
  payloadByte : UInt8
  payloadLength : Nat
deriving Repr, DecidableEq

namespace Row

/-- Payload length of a row that is not wide. -/
def narrowBytes : Nat := 64

/-- Number of partitions. -/
def partitions : UInt64 := 16

/-- The name of a partition has two digits. -/
def partitionName (number : Nat) : String :=
  "p" ++ (if number < 10 then "0" else "") ++ toString number

/-- Is the row of a mixed key wide? -/
def isWide (mixed : UInt64) (widePercent : UInt8) : Bool :=
  mixed % 100 < widePercent.toUInt64

/-- The row with the given key. -/
def ofKey (key : UInt64) (widePercent : UInt8) (wideBytes : Nat) : Row :=
  let mixed := mixKey key
  { key
    partition := partitionName (mixed % partitions).toNat
    payloadByte := (mixed &&& 0xFF).toUInt8
    payloadLength := if isWide mixed widePercent then wideBytes else narrowBytes }

/-- A name is written into a buffer that starts with eight bytes and never has to
grow. -/
def partitionBufferBytes : Nat := 8

/-- Memory taken by a row: its key, two buffer headers, and what the buffers hold. -/
def footprint (row : Row) : Nat :=
  Shape.footprint .word64 + bufferHeaderBytes + partitionBufferBytes +
    Shape.footprint (.bytes row.payloadLength)

/-- The estimate that the program takes for the size of a row. -/
def estimate (row : Row) : UInt64 := UInt64.ofNat row.footprint

/-- Bytes of a row that count as its payload: name of the partition and payload
proper. -/
def dataBytes (row : Row) : Nat := row.payloadLength + row.partition.utf8ByteSize

end Row

/-- Why the payload of a row cannot be had. -/
inductive PayloadFault where
  /-- No buffer is that large: whoever makes the row panics. -/
  | overflow
  /-- The memory is not that large: the whole program ends. -/
  | outOfMemory
deriving Repr, DecidableEq

/-- No buffer of more bytes is given out: 64 binary gigabytes. -/
def memoryBytes : Nat := 68719476736

/-- What goes wrong when the row is made. -/
def Row.fault? (row : Row) : Option PayloadFault :=
  if (Shape.bytes row.payloadLength).overflows then some .overflow
  else if memoryBytes < row.payloadLength then some .outOfMemory
  else none

end BoundedIngest.Bench

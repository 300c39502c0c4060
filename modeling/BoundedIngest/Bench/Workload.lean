/-
Module: BoundedIngest.Bench.Workload
Purpose: What a bench run has to do: which rows there are, who makes them, and what is
  added up about them.
Main exports:
  Workload, KeyRange, Workload.keyRange, Workload.row, Workload.fault?, Totals, Workload.job
-/
import BoundedIngest.Bench.Row
import BoundedIngest.Executor.Job

namespace BoundedIngest.Bench

/-- The keys of the rows run from zero up to the number of records. -/
structure Workload where
  records : UInt64
  /-- How many producers were asked for; zero counts as one. -/
  producers : UInt64
  /-- Share of wide rows in percent. -/
  widePercent : UInt8
  wideBytes : UInt64
deriving Repr, DecidableEq

/-- The keys from `first` up to, but without, `stop`. -/
structure KeyRange where
  first : UInt64
  stop : UInt64
deriving Repr, DecidableEq

/-- The keys of a range in order; there are none if it stops before its first. -/
def KeyRange.keys (range : KeyRange) : List UInt64 :=
  (List.range' range.first.toNat (range.stop.toNat - range.first.toNat)).map UInt64.ofNat

namespace Workload

/-- There is always a producer. -/
def producerCount (workload : Workload) : UInt64 := max workload.producers 1

/-- How many keys a producer gets, apart from what is left over. -/
def share (workload : Workload) : UInt64 := workload.records / workload.producerCount

/-- The keys of one producer.  The last one also gets what is left over. -/
def keyRange (workload : Workload) (producer : UInt64) : KeyRange :=
  let first := producer * workload.share
  { first
    stop :=
      if producer + 1 = workload.producerCount then workload.records
      else first + workload.share }

/-- The keys of all producers, by position. -/
def keyRanges (workload : Workload) : List KeyRange :=
  (List.range workload.producerCount.toNat).map fun producer =>
    workload.keyRange (UInt64.ofNat producer)

/-- The row with the given key.  More than all rows cannot be wide. -/
def row (workload : Workload) (key : UInt64) : Row :=
  Row.ofKey key (min workload.widePercent 100) workload.wideBytes.toNat

/-- What goes wrong with the rows, and the first producer to which it happens.  Only wide
rows can be too large, and they all have the same length, so it does not matter which of
them is made first. -/
def fault? (workload : Workload) : Option (Nat × PayloadFault) :=
  if workload.wideBytes.toNat ≤ memoryBytes then none
  else
    workload.keyRanges.zipIdx.findSome? fun (range, producer) =>
      (range.keys.findSome? fun key => (workload.row key).fault?).map (producer, ·)

end Workload

/-- What is added up about consumed rows.  The sums are words that wrap. -/
structure Totals where
  rows : UInt64 := 0
  bytes : UInt64 := 0
  maxKey : UInt64 := 0
deriving Repr, DecidableEq, Inhabited

/-- One more row was consumed. -/
def Totals.add (totals : Totals) (row : Row) : Totals :=
  { rows := totals.rows + 1
    bytes := totals.bytes + UInt64.ofNat row.dataBytes
    maxKey := max totals.maxKey row.key }

/-- Everything a bench run has to do, whatever sizes its rows are estimated to have. -/
def Workload.job (workload : Workload) (estimate : Row → UInt64) : Job UInt64 Row Totals :=
  { sources := workload.keyRanges.map fun range => { records := range.keys }
    transform := workload.row
    estimate
    conclude := fun rows => rows.foldl Totals.add {} }

end BoundedIngest.Bench

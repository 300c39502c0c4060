/-
Module: BoundedIngest.Sizing.Capacity
Purpose: How many entries a byte budget admits, given the sizes measured so far.
Main exports:
  Capacity, Capacity.start, Capacity.observe, Capacity.averageBytes
-/
import BoundedIngest.Number.Nearest

namespace BoundedIngest

open Number

/-- A byte budget together with the running average of the sizes measured so far
and the number of entries that this average lets the budget hold. -/
structure Capacity where
  budget : UInt64
  /-- No average admits more entries than this; never zero in a started model. -/
  maxRecords : UInt64
  /-- How many measurements were folded in.  The count has no bound, so what holds of it holds
  after any number of measurements; a word shows the same as long as there are fewer than
  2 ^ 64. -/
  samples : Nat := 0
  /-- Running average, a number with 53 significant bits. -/
  average : Rat := 0
  /-- The effective capacity in entries. -/
  limit : Nat := 1
deriving DecidableEq

namespace Capacity

/-- Before the first measurement there is room for one entry. -/
def start (budget maxRecords : UInt64) : Capacity :=
  { budget, maxRecords := max maxRecords 1 }

/-- The average after one more measurement: the difference to the old average,
divided by the new number of samples, is added, and each of the three operations
rounds. -/
def nextAverage (average : Rat) (samples : Nat) (bytes : Nat) : Rat :=
  let difference := nearest (nearestOfNat bytes - average)
  let share := nearest (difference / nearestOfNat samples)
  nearest (average + share)

/-- How many entries of the average size the budget holds, but at least one and at
most `maxRecords`.  An average below one byte counts as one byte. -/
def limitFor (budget maxRecords : Nat) (average : Rat) : Nat :=
  let quotient := nearest (nearestOfNat budget / if average < 1 then 1 else average)
  max 1 (min (floorWord quotient) maxRecords)

/-- Fold one measurement in; the second part tells whether the limit changed. -/
def observe (capacity : Capacity) (bytes : UInt64) : Capacity × Bool :=
  let samples := capacity.samples + 1
  let average := nextAverage capacity.average samples bytes.toNat
  let limit := limitFor capacity.budget.toNat capacity.maxRecords.toNat average
  ({ capacity with samples, average, limit }, limit != capacity.limit)

/-- The average rounded to whole bytes; zero before the first measurement. -/
def averageBytes (capacity : Capacity) : Nat := roundWord capacity.average

end Capacity

end BoundedIngest

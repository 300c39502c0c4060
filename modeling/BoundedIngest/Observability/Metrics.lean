/-
Module: BoundedIngest.Observability.Metrics
Purpose: What an execution tells about itself in numbers.
Main exports:
  Tally, ExecutionOutcome, Metrics, Measurement, Metrics.record, Metrics.entries
-/
import BoundedIngest.Number.Nearest

namespace BoundedIngest

/-- Counts by label, in the order in which the labels first appeared. -/
abbrev Tally := List (String × Nat)

namespace Tally

/-- Add to the count of a label; a label appears with its first addition, even one
of zero. -/
def add (label : String) (amount : Nat) : Tally → Tally
  | [] => [(label, amount)]
  | (known, count) :: rest =>
      if known = label then (known, count + amount) :: rest
      else (known, count) :: add label amount rest

/-- The count of a label, zero if it never appeared. -/
def count (tally : Tally) (label : String) : Nat := (tally.lookup label).getD 0

end Tally

/-- How an execution counts once it is over. -/
inductive ExecutionOutcome where
  | completed
  | aborted
  | failed
deriving Repr, DecidableEq

def ExecutionOutcome.label : ExecutionOutcome → String
  | .completed => "completed"
  | .aborted => "aborted"
  | .failed => "failed"

/-- All metrics.  A gauge is absent until it is first set.  Counters only grow, and a
histogram is known by the number of its observations. -/
structure Metrics where
  queueDepth : Option Nat := none
  effectiveCapacity : Option Nat := none
  averageEntryBytes : Option Nat := none
  blockedInserts : Nat := 0
  insertWaits : Nat := 0
  /-- Entries inserted, by worker. -/
  produced : Tally := []
  consumed : Option Nat := none
  /-- Executions by outcome. -/
  executions : Tally := []
  /-- Observed durations of executions by outcome. -/
  durations : Tally := []
deriving Repr, DecidableEq, Inhabited

/-- One thing to record. -/
inductive Measurement where
  | queueDepth (length capacity : Nat)
  /-- An insert had to wait for room. -/
  | blockedInsert
  | averageEntryBytes (bytes : Nat)
  | produced (worker : String) (count : Nat)
  | consumed (count : Nat)
  | execution (outcome : String)
deriving Repr, DecidableEq

namespace Metrics

def record (metrics : Metrics) : Measurement → Metrics
  | .queueDepth length capacity =>
      { metrics with queueDepth := some length, effectiveCapacity := some capacity }
  | .blockedInsert =>
      { metrics with
        blockedInserts := metrics.blockedInserts + 1
        insertWaits := metrics.insertWaits + 1 }
  | .averageEntryBytes bytes => { metrics with averageEntryBytes := some bytes }
  | .produced worker count => { metrics with produced := Tally.add worker count metrics.produced }
  | .consumed count => { metrics with consumed := some (metrics.consumed.getD 0 + count) }
  | .execution outcome =>
      { metrics with
        executions := Tally.add outcome 1 metrics.executions
        durations := Tally.add outcome 1 metrics.durations }

/-!
A reading of all metrics is a list of names and values.  Labels follow the name of
a metric in braces.  Gauges are numbers with 53 significant bits, and counters are
64-bit words that wrap.
-/

/-- The value a gauge shows after it was set to the given word. -/
def gaugeReading (value : Nat) : Nat := Number.floorWord (Number.nearestOfNat value)

/-- The value a counter shows. -/
def counterReading (value : Nat) : Nat := value % (Number.maxWord + 1)

def labelled (name key label : String) : String :=
  name ++ "\x7b" ++ key ++ "=" ++ label ++ "\x7d"

def gaugeEntry (name : String) (value : Option Nat) : List (String × Nat) :=
  value.toList.map fun word => (name, gaugeReading word)

/-- A plain counter or histogram appears with its first use. -/
def usedEntry (name : String) (count : Nat) : List (String × Nat) :=
  if count = 0 then [] else [(name, counterReading count)]

def tallyEntries (name key : String) (tally : Tally) : List (String × Nat) :=
  tally.map fun (label, count) => (labelled name key label, counterReading count)

/-- The queue as it was after the last insert or pull. -/
def depthEntries (metrics : Metrics) : List (String × Nat) :=
  gaugeEntry "spool_queue_depth" metrics.queueDepth ++
  gaugeEntry "spool_queue_effective_capacity" metrics.effectiveCapacity

/-- What the byte budget did to the inserts. -/
def pressureEntries (metrics : Metrics) : List (String × Nat) :=
  gaugeEntry "spool_queue_avg_entry_bytes" metrics.averageEntryBytes ++
  usedEntry "spool_queue_blocked_inserts_total" metrics.blockedInserts ++
  usedEntry "spool_queue_insert_wait_us" metrics.insertWaits

/-- How many records and executions there were. -/
def totalEntries (metrics : Metrics) : List (String × Nat) :=
  tallyEntries "spool_records_produced_total" "worker" metrics.produced ++
  (metrics.consumed.toList.map fun count =>
    ("spool_records_consumed_total", counterReading count)) ++
  tallyEntries "spool_executions_total" "outcome" metrics.executions

def durationEntries (metrics : Metrics) : List (String × Nat) :=
  tallyEntries "spool_execution_duration_us" "outcome" metrics.durations

def entries (metrics : Metrics) : List (String × Nat) :=
  metrics.depthEntries ++ metrics.pressureEntries ++ metrics.totalEntries ++
  metrics.durationEntries

end Metrics

end BoundedIngest

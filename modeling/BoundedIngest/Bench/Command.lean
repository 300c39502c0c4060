/-
Module: BoundedIngest.Bench.Command
Purpose: What the bench answers to a command line.
Main exports:
  Summary, Summary.lines, Answer, carryOut, answer
-/
import BoundedIngest.Bench.Options
import BoundedIngest.Config.Document
import BoundedIngest.Executor.Course
import BoundedIngest.Observability.Address
import BoundedIngest.Observability.LogFilter

namespace BoundedIngest.Bench

/-- What a bench run reports. -/
structure Summary where
  producers : UInt64
  totals : Totals
  budget : UInt64
  averageEntryBytes : Nat
  capacity : Nat
deriving Repr, DecidableEq

namespace Summary

def rule : String := String.ofList (List.replicate 47 '═')

/-- The summary as it is printed.  The lines about time stand between what was consumed
and how the queue was used. -/
def lines (summary : Summary) (timing : List String) : List String :=
  [ rule
  , "  Bounded executor ingest"
  , rule
  , "  Producers:         " ++ toString summary.producers.toNat
  , "  Rows:              " ++ toString summary.totals.rows.toNat
  , "  Payload bytes:     " ++ toString summary.totals.bytes.toNat
  , "  Max key:           " ++ toString summary.totals.maxKey.toNat ] ++
  timing ++
  [ "  ─── Queue ───"
  , "  Budget:            " ++ toString summary.budget.toNat ++ " bytes"
  , "  Avg entry:         " ++ toString summary.averageEntryBytes ++ " bytes"
  , "  Capacity:          " ++ toString summary.capacity ++ " entries" ]

/-- The summary of a run with the given result. -/
def ofExecutor (workload : Workload) (executor : Executor UInt64 Row Totals)
    (totals : Totals) : Summary :=
  { totals
    producers := workload.producerCount
    budget := executor.config.writeBufferLimitBytes
    averageEntryBytes := executor.shared.queue.capacity.averageBytes
    capacity := executor.shared.queue.capacity.limit }

end Summary

def benchTarget : String := "spool_bench"
def observabilityTarget : String := "spool_observability"

/-- What the bench answers. -/
inductive Answer where
  /-- The command line was refused. -/
  | refused (error : UsageError)
  | help
  /-- The default configuration was asked for. -/
  | defaults (document : String)
  /-- There is nothing to report. -/
  | failed (complaints : List String) (log : List LogEvent)
  | done (summary : Summary) (complaints : List String) (log : List LogEvent)
  /-- A panic ended the bench. -/
  | crashed
  /-- The memory ran out. -/
  | exhausted

namespace Answer

/-- Where lines about time belong is up to the summary. -/
def lines (timing : List String) : Answer → List String
  | .help => Request.usage
  | .defaults document => document.splitOn "\n"
  | .done summary .. => summary.lines timing
  | .refused _ | .failed .. | .crashed | .exhausted => []

/-- What is told about what went wrong. -/
def complaints : Answer → List String
  | .refused error => ["error: " ++ error.message]
  | .failed complaints _ | .done _ complaints _ => complaints
  | .help | .defaults _ | .crashed | .exhausted => []

/-- The first line of what is told.  A complaint may quote a text of several lines. -/
def firstComplaint (answer : Answer) : String :=
  String.ofList ((answer.complaints.headD "").toList.takeWhile (· != '\n'))

def log : Answer → List LogEvent
  | .failed _ log | .done _ _ log => log
  | .refused _ | .help | .defaults _ | .crashed | .exhausted => []

/-- How many rows were consumed. -/
def rows : Answer → Nat
  | .done summary .. => summary.totals.rows.toNat
  | .refused _ | .help | .defaults _ | .failed .. | .crashed | .exhausted => 0

/-- A program that ran out of memory has no code of its own. -/
def exitCode? : Answer → Option Nat
  | .refused _ => some 2
  | .failed .. => some 1
  | .help | .defaults _ | .done .. => some 0
  | .crashed => some 101
  | .exhausted => none

end Answer

/-- The default configuration as it is printed. -/
def defaultDocument : String := (({} : Config).toToml Toml.write?).getD ""

def metricsFailure (reason : String) : List LogEvent :=
  [⟨benchTarget, .warn, "Failed to initialize metrics: " ++ reason, []⟩]

/-- Setting up metrics is tried only if there is an address for them, and the bench goes
on without them. -/
def metricsLog (address : String) : List LogEvent :=
  if address.isEmpty then []
  else
    match SocketAddress.parse? address with
    | some parsed =>
        if parsed.isLocal then
          [⟨observabilityTarget, .info,
            "Prometheus metrics endpoint on http://" ++ address ++ "/metrics", []⟩]
        else metricsFailure foreignAddressMessage
    | none => metricsFailure addressErrorMessage

/-- What is logged before the run. -/
def openingLog (options : Options) (config : Config) : List LogEvent :=
  ⟨benchTarget, .info, "starting spool bench", ["records", "producers"]⟩ ::
    metricsLog (options.metricsAddress.getD config.observability.metricsAddr)

/-- The failure of a producer whose transform asks for a buffer that is too large. -/
def overflowError (producer : Nat) : ExecError :=
  .failed (.producer producer) (.ofPanic .transform overflowPanic)

def errorLine (reason : String) : String := "Error: " ++ reason

/-- What is told of a panic begins with an empty line. -/
def panicLines (panic : Panic) : List String := ["", "panicked: " ++ panic.message]

/-- Run the bench.  If the rows are sound, the job settles everything; if they are not,
the executor still has to be started first. -/
def perform (estimate : Row → UInt64) (options : Options) (config : Config) : Answer :=
  let opening := openingLog options config
  let job := options.workload.job estimate
  match JobRun.start (options.executorConfig config.executor) job with
  | .error error => .failed [errorLine error.message] opening
  | .ok jobRun =>
      let course := Course.complete jobRun
      let log := opening ++ course.log.reverse
      match course.jobRun.panic?, options.workload.fault?, course.jobRun.outcome? with
      | some _, _, _ => .crashed
      | none, some (producer, .overflow), _ =>
          .failed (panicLines overflowPanic ++ [errorLine (overflowError producer).message])
            opening
      | none, some (_, .outOfMemory), _ => .exhausted
      | none, none, some (.ok totals) =>
          .done (Summary.ofExecutor options.workload course.executor totals) [] log
      | none, none, some (.error error) => .failed [errorLine error.message] log
      | none, none, none => .failed [errorLine "unfinished"] log

/-- Keep of the log what the filter in force lets through.  What is said about the filter
comes before everything else. -/
def Answer.filterLog (selection : LogFilter.Selection) : Answer → Answer
  | .failed complaints log =>
      .failed (selection.complaints ++ complaints) (log.filter selection.filter.enables)
  | .done summary complaints log =>
      .done summary (selection.complaints ++ complaints) (log.filter selection.filter.enables)
  | other => other

/-- Do what the options ask for.  A configuration file that cannot be used counts as if
there were none; a log directive that is torn ends the bench before it starts. -/
def carryOut (estimate : Row → UInt64) (options : Options) (file : ConfigFile)
    (logFilter : Option String) : Answer :=
  if options.printDefaultConfig then .defaults defaultDocument
  else
    let config := Config.loadOrDefault file
    match LogFilter.select? logFilter config.observability.logFilter with
    | none => .crashed
    | some selection => (perform estimate options config).filterLog selection

/-- Answer a command line, given how large rows are taken to be, what is found at each path and
the log directives of the environment. -/
def answer (estimate : Row → UInt64) (arguments : List String) (file : String → ConfigFile)
    (logFilter : Option String) : Answer :=
  match Request.parse arguments with
  | .error error => .refused error
  | .ok .help => .help
  | .ok (.bench options) => carryOut estimate options (file options.configPath) logFilter

end BoundedIngest.Bench

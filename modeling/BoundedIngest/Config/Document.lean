/-
Module: BoundedIngest.Config.Document
Purpose: Settings read from and written to a configuration document.
Main exports:
  Config.ofDocument?, Config.fromToml, Config.toToml, Path.agree, ConfigFile,
  Config.load, Config.loadOrDefault
-/
import BoundedIngest.Config.Basic
import BoundedIngest.Failure.Basic
import BoundedIngest.Toml.Printer
import BoundedIngest.Toml.Reader

namespace BoundedIngest

open Toml

/-- A setting that is a word: an integer that is not negative. -/
def readWord? : Value → Option UInt64
  | .integer value => if 0 ≤ value then some (UInt64.ofNat value.toNat) else none
  | _ => none

/-- A setting that is a text. -/
def readText? : Value → Option String
  | .text content => some content
  | _ => none

/-- A setting that may be left out. -/
def settingOr {α : Type} (read : Value → Option α) (default : α) : Option Value → Option α
  | some value => read value
  | none => some default

/-- The settings of an executor, given by what looks each of them up; one that is not
found takes its default. -/
def ExecutorConfig.gather? (find : String → Nat → Option Value) : Option ExecutorConfig := do
  let defaults : ExecutorConfig := {}
  let writeBufferLimitBytes ←
    settingOr readWord? defaults.writeBufferLimitBytes (find "write_buffer_limit_bytes" 0)
  let sampleWarmup ← settingOr readWord? defaults.sampleWarmup (find "sample_warmup" 1)
  let sampleRate ← settingOr readWord? defaults.sampleRate (find "sample_rate" 2)
  let maxCachedRecords ←
    settingOr readWord? defaults.maxCachedRecords (find "max_cached_records" 3)
  let threadNamePrefix ←
    settingOr readText? defaults.threadNamePrefix (find "thread_name_prefix" 4)
  pure { writeBufferLimitBytes, sampleWarmup, sampleRate, maxCachedRecords, threadNamePrefix }

/-- The settings of observability, given by what looks each of them up. -/
def ObservabilityConfig.gather? (find : String → Nat → Option Value) :
    Option ObservabilityConfig := do
  let defaults : ObservabilityConfig := {}
  let logFilter ← settingOr readText? defaults.logFilter (find "log_filter" 0)
  let metricsAddr ← settingOr readText? defaults.metricsAddr (find "metrics_addr" 1)
  pure { logFilter, metricsAddr }

/-- Settings are given by name in a table, or by position in an array; further names
and further positions are ignored.  A moment of time counts as a table that has no
setting. -/
def readGroup? {α : Type} (gather : (String → Nat → Option Value) → Option α) :
    Value → Option α
  | .table entries => gather fun key _ => entries.lookup key
  | .array items => gather fun _ position => items[position]?
  | .moment _ => gather fun _ _ => none
  | _ => none

namespace Config

/-- The settings that a document states, the others at their defaults. -/
def ofDocument? (document : Document) : Option Config := do
  let executor ←
    settingOr (readGroup? ExecutorConfig.gather?) {} (document.lookup "executor")
  let observability ←
    settingOr (readGroup? ObservabilityConfig.gather?) {} (document.lookup "observability")
  pure { executor, observability }

/-- Read and validate settings. -/
def fromDocument (document : Document) : Except ConfigError Config :=
  match ofDocument? document with
  | none => .error .malformed
  | some config => config.executor.validate.map fun _ => config

/-- Read and validate settings from the text of a document. -/
def fromToml (text : String) : Except ConfigError Config :=
  match parse? text with
  | none => .error .malformed
  | some document => fromDocument document

/-- The document that states all settings. -/
def sections (config : Config) : List Section :=
  let word (key : String) (value : UInt64) := (key, Scalar.integer value.toNat)
  [ { name := "executor"
      pairs :=
        [ word "write_buffer_limit_bytes" config.executor.writeBufferLimitBytes
        , word "sample_warmup" config.executor.sampleWarmup
        , word "sample_rate" config.executor.sampleRate
        , word "max_cached_records" config.executor.maxCachedRecords
        , ("thread_name_prefix", .text config.executor.threadNamePrefix) ] }
  , { name := "observability"
      pairs :=
        [ ("log_filter", .text config.observability.logFilter)
        , ("metrics_addr", .text config.observability.metricsAddr) ] } ]

/-- Write settings with what writes tables, if it does. -/
def toToml (write : List Section → Option String) (config : Config) : Option String :=
  write config.sections

end Config

namespace Path

/-- The names that a relative path passes through, the last one being that of a file.
Empty names and single points lead nowhere else.  There are none if the path starts at
the root, or if it can lead to a directory only. -/
def parts? (path : String) : Option (List String) :=
  let names := (path.toList.splitOn '/').map String.ofList
  let ending := names.getLast?.getD ""
  if path.toList.head? = some '/' || ending = "" || ending = "." then none
  else some (names.filter fun name => name != "" && name != ".")

/-- Do two paths lead to the same file? -/
def agree (path other : String) : Bool :=
  match parts? path, parts? other with
  | some names, some others => names = others
  | _, _ => false

end Path

/-- What is found under the name of a configuration file. -/
inductive ConfigFile where
  /-- Nothing that can be read. -/
  | absent
  | bytes (content : ByteArray)

/-- The text of a file, which has to be UTF-8. -/
def ConfigFile.text? : ConfigFile → Option String
  | .absent => none
  | .bytes content => String.fromUTF8? content

namespace Config

/-- Settings from a file. -/
def load (file : ConfigFile) : Except ConfigError Config :=
  match file.text? with
  | none => .error .unreadable
  | some text => fromToml text

/-- Settings from a file, or the defaults if it has no usable ones. -/
def loadOrDefault (file : ConfigFile) : Config :=
  match load file with
  | .ok config => config
  | .error _ => {}

end Config

end BoundedIngest

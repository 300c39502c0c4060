/-
Module: BoundedIngest.Config.Basic
Purpose: Settings of an executor and of its observability, and their validation.
Main exports:
  ExecutorConfig, ObservabilityConfig, Config, ConfigError, ExecutorConfig.validate
-/

namespace BoundedIngest

/-- Log directives in force when the environment supplies none. -/
def defaultLogFilter : String := "info,spool=debug"

/-- Settings of one executor.  Sizes and counts are 64-bit words. -/
structure ExecutorConfig where
  /-- Budget for the estimated bytes of all buffered entries. -/
  writeBufferLimitBytes : UInt64 := 4194304
  /-- How many entries are measured one by one at the start. -/
  sampleWarmup : UInt64 := 16
  /-- After the start, one entry in this many is measured. -/
  sampleRate : UInt64 := 64
  /-- Upper limit for the number of buffered entries. -/
  maxCachedRecords : UInt64 := 131072
  /-- First part of the name of every worker. -/
  threadNamePrefix : String := "spool"
deriving Repr, DecidableEq, Inhabited

/-- Settings of logging and metrics.  An empty address means no metrics endpoint. -/
structure ObservabilityConfig where
  logFilter : String := defaultLogFilter
  metricsAddr : String := ""
deriving Repr, DecidableEq, Inhabited

/-- All settings. -/
structure Config where
  executor : ExecutorConfig := {}
  observability : ObservabilityConfig := {}
deriving Repr, DecidableEq, Inhabited

/-- The settings that must not be zero. -/
inductive PositiveSetting where
  | writeBufferLimitBytes
  | sampleRate
  | maxCachedRecords
deriving Repr, DecidableEq

/-- The name of a setting as it is written in a configuration file. -/
def PositiveSetting.key : PositiveSetting → String
  | .writeBufferLimitBytes => "write_buffer_limit_bytes"
  | .sampleRate => "sample_rate"
  | .maxCachedRecords => "max_cached_records"

/-- Why settings that could be read are still refused. -/
inductive InvalidConfig where
  | zero (setting : PositiveSetting)
  | consumerMissing
  | transformMissing
  | stated (reason : String)
deriving Repr, DecidableEq

/-- Why there is no usable configuration: its text cannot be obtained, is not a
configuration document, or states unusable settings. -/
inductive ConfigError where
  | unreadable
  | malformed
  | invalid (reason : InvalidConfig)
deriving Repr, DecidableEq

/-- The reason alone. -/
def InvalidConfig.message : InvalidConfig → String
  | .zero setting => "executor." ++ setting.key ++ " must be > 0"
  | .consumerMissing => "a consumer is required"
  | .transformMissing => "a transform is required"
  | .stated reason => reason

/-- The text shown to the user. -/
def ConfigError.message : ConfigError → String
  | .unreadable => "IO error"
  | .malformed => "Parse error"
  | .invalid reason => "Invalid config: " ++ reason.message

namespace ExecutorConfig

/-- The value of a setting that must not be zero. -/
def positive (config : ExecutorConfig) : PositiveSetting → UInt64
  | .writeBufferLimitBytes => config.writeBufferLimitBytes
  | .sampleRate => config.sampleRate
  | .maxCachedRecords => config.maxCachedRecords

/-- The settings in the order in which they are checked. -/
def checkedSettings : List PositiveSetting :=
  [.writeBufferLimitBytes, .sampleRate, .maxCachedRecords]

/-- Accept the settings, or name the first one that is zero. -/
def validate (config : ExecutorConfig) : Except ConfigError Unit :=
  match checkedSettings.find? (config.positive · = 0) with
  | some setting => .error (.invalid (.zero setting))
  | none => .ok ()

/-- Default settings with the given byte budget. -/
def withBufferLimit (bytes : UInt64) : ExecutorConfig :=
  { writeBufferLimitBytes := bytes }

end ExecutorConfig

end BoundedIngest

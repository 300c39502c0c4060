/-
Module: BoundedIngest.Bench.Options
Purpose: The command line of the bench.
Main exports:
  Options, Setting, UsageError, Request, Request.usage, Request.parse
-/
import BoundedIngest.Bench.Workload
import BoundedIngest.Config.Basic

namespace BoundedIngest.Bench

/-- What can be set on the command line. -/
structure Options where
  records : UInt64 := 100000
  widePercent : UInt8 := 10
  wideBytes : UInt64 := 16384
  producers : UInt64 := 1
  /-- Byte budget, if it is not to be taken from the configuration. -/
  budget : Option UInt64 := none
  consumeDelayMicros : UInt64 := 0
  configPath : String := "spool.toml"
  /-- Address for metrics, if it is not to be taken from the configuration. -/
  metricsAddress : Option String := none
  printDefaultConfig : Bool := false
deriving Repr, DecidableEq, Inhabited

namespace Options

def workload (options : Options) : Workload :=
  { records := options.records
    producers := options.producers
    widePercent := options.widePercent
    wideBytes := options.wideBytes }

/-- The settings of the executor, where a budget given here wins. -/
def executorConfig (options : Options) (config : ExecutorConfig) : ExecutorConfig :=
  { config with
    writeBufferLimitBytes := options.budget.getD config.writeBufferLimitBytes }

end Options

/-- The options that take a value. -/
inductive Setting where
  | records
  | widePercent
  | wideBytes
  | producers
  | budget
  | consumeDelayMicros
  | configPath
  | metricsAddress
deriving Repr, DecidableEq

/-- The options that take none. -/
inductive Switch where
  | printDefaultConfig
  | help
deriving Repr, DecidableEq

/-- The option itself, whether it takes a value or not. -/
inductive Flag where
  | setting (setting : Setting)
  | switch (switch : Switch)
deriving Repr, DecidableEq

namespace Flag

/-- The long names, without the two dashes. -/
def longNames : List (String × Flag) :=
  [ ("records", .setting .records)
  , ("wide-pct", .setting .widePercent)
  , ("wide-bytes", .setting .wideBytes)
  , ("producers", .setting .producers)
  , ("budget", .setting .budget)
  , ("consume-delay-us", .setting .consumeDelayMicros)
  , ("config", .setting .configPath)
  , ("metrics-addr", .setting .metricsAddress)
  , ("print-default-config", .switch .printDefaultConfig)
  , ("help", .switch .help) ]

/-- The short names, without the dash. -/
def ofLetter? : Char → Option Flag
  | 'c' => some (.setting .configPath)
  | 'h' => some (.switch .help)
  | _ => none

def ofName? (name : String) : Option Flag := longNames.lookup name

/-- The long name of an option as it is written. -/
def display (flag : Flag) : String :=
  "--" ++ ((longNames.find? fun entry => entry.2 = flag).map Prod.fst).getD ""

end Flag

/-- Why a command line is refused. -/
inductive UsageError where
  | unknown (argument : String)
  | missingValue (flag : Flag)
  | needlessValue (flag : Flag)
  | repeated (flag : Flag)
  | invalidValue (flag : Flag) (value : String)
deriving Repr, DecidableEq

def UsageError.message : UsageError → String
  | .unknown argument => "unexpected argument '" ++ argument ++ "' found"
  | .missingValue flag => "a value is required for '" ++ flag.display ++ "' but none was supplied"
  | .needlessValue flag => "unexpected value for '" ++ flag.display ++ "' found"
  | .repeated flag => "the argument '" ++ flag.display ++ "' cannot be used multiple times"
  | .invalidValue flag value => "invalid value '" ++ value ++ "' for '" ++ flag.display ++ "'"

/-- What a command line asks for. -/
inductive Request where
  | help
  | bench (options : Options)
deriving Repr, DecidableEq

namespace Setting

/-- The value of a text of digits, of which there is at least one. -/
def digitsValue? (digits : List Char) : Option Nat :=
  if !digits.isEmpty && digits.all Char.isDigit then
    some (digits.foldl (fun value c => value * 10 + (c.toNat - '0'.toNat)) 0)
  else none

/-- A number that may have a plus sign, up to a limit. -/
def numberUpTo? (limit : Nat) (text : List Char) : Option Nat :=
  (digitsValue? (if text.head? = some '+' then text.tail else text)).filter (· ≤ limit)

def word? (text : String) : Option UInt64 :=
  (numberUpTo? (UInt64.size - 1) text.toList).map UInt64.ofNat

/-- A percentage is read with its sign, so it may be minus zero. -/
def percent? (text : String) : Option UInt8 :=
  match text.toList with
  | '-' :: digits => ((digitsValue? digits).filter (· = 0)).map UInt8.ofNat
  | digits => (numberUpTo? (UInt8.size - 1) digits).map UInt8.ofNat

/-- Set an option to a value, if the value is one for this option. -/
def assign? (setting : Setting) (options : Options) (value : String) : Option Options :=
  match setting with
  | .records => (word? value).map fun records => { options with records }
  | .widePercent => (percent? value).map fun widePercent => { options with widePercent }
  | .wideBytes => (word? value).map fun wideBytes => { options with wideBytes }
  | .producers => (word? value).map fun producers => { options with producers }
  | .budget => (word? value).map fun budget => { options with budget := some budget }
  | .consumeDelayMicros =>
      (word? value).map fun consumeDelayMicros => { options with consumeDelayMicros }
  | .configPath => some { options with configPath := value }
  | .metricsAddress => some { options with metricsAddress := some value }

end Setting

/-- One argument by its looks. -/
inductive Argument where
  /-- Two dashes alone; no option follows. -/
  | divider
  /-- A long name, perhaps with a value after an equals sign. -/
  | long (name : String) (value : Option String)
  /-- Letters after one dash. -/
  | short (letters : List Char)
  | plain (text : String)
deriving Repr, DecidableEq

/-- A single dash is a plain argument. -/
def Argument.ofString (text : String) : Argument :=
  match text.toList with
  | ['-', '-'] => .divider
  | '-' :: '-' :: rest =>
      let name := String.ofList (rest.takeWhile (· != '='))
      match rest.dropWhile (· != '=') with
      | [] => .long name none
      | _ :: value => .long name (some (String.ofList value))
  | '-' :: letter :: letters => .short (letter :: letters)
  | _ => .plain text

namespace Request

/-- How far the reading of a command line has come: the options so far, those that were
given, and the one whose value comes next. -/
structure Reading where
  options : Options := {}
  given : List Flag := []
  expecting : Option Setting := none

/-- The answer is known before the last argument, or reading goes on. -/
inductive Verdict where
  | helped
  | onward (reading : Reading)

/-- No option may be given twice. -/
def markGiven (reading : Reading) (flag : Flag) : Except UsageError Reading :=
  if reading.given.contains flag then .error (.repeated flag)
  else .ok { reading with given := flag :: reading.given }

/-- The value of a setting is known. -/
def assign (reading : Reading) (setting : Setting) (value : String) :
    Except UsageError Reading := do
  let marked ← markGiven reading (.setting setting)
  match setting.assign? marked.options value with
  | some options => pure { marked with options, expecting := none }
  | none => throw (.invalidValue (.setting setting) value)

def turnOn (reading : Reading) : Switch → Except UsageError Verdict
  | .help => .ok .helped
  | .printDefaultConfig => do
      let marked ← markGiven reading (.switch .printDefaultConfig)
      pure (.onward { marked with options.printDefaultConfig := true })

/-- A long name.  The value of a setting is attached or comes next; a switch has
none. -/
def readLong (reading : Reading) (name : String) (value : Option String) :
    Except UsageError Verdict :=
  match Flag.ofName? name, value with
  | none, _ => .error (.unknown ("--" ++ name))
  | some (.setting setting), some value =>
      (assign reading setting value).map .onward
  | some (.setting setting), none => .ok (.onward { reading with expecting := some setting })
  | some (.switch switch), none => turnOn reading switch
  | some (.switch switch), some _ => .error (.needlessValue (.switch switch))

/-- An equals sign before an attached value is not part of it. -/
def attached : List Char → Option String
  | [] => none
  | '=' :: value => some (String.ofList value)
  | value => some (String.ofList value)

/-- Letters, the first setting among which takes the rest as its value. -/
def readLetters (reading : Reading) : List Char → Except UsageError Verdict
  | [] => .ok (.onward reading)
  | letter :: letters =>
      match Flag.ofLetter? letter with
      | none => .error (.unknown ("-" ++ letter.toString))
      | some (.setting setting) =>
          match attached letters with
          | some value => (assign reading setting value).map .onward
          | none => .ok (.onward { reading with expecting := some setting })
      | some (.switch switch) => do
          match ← turnOn reading switch with
          | .helped => pure .helped
          | .onward reading => readLetters reading letters

/-- One argument.  Where a value is expected, only a plain argument can be it. -/
def readArgument (reading : Reading) (argument : Argument) : Except UsageError Verdict :=
  match reading.expecting, argument with
  | some setting, .plain text => (assign reading setting text).map .onward
  | some setting, _ => .error (.missingValue (.setting setting))
  | none, .plain text => .error (.unknown text)
  | none, .divider => .ok (.onward reading)
  | none, .long name value => readLong reading name value
  | none, .short letters => readLetters reading letters

/-- After the divider every argument is plain, and no plain argument is expected. -/
def readAll (reading : Reading) : List String → Except UsageError Request
  | [] =>
      match reading.expecting with
      | some setting => .error (.missingValue (.setting setting))
      | none => .ok (.bench reading.options)
  | text :: rest => do
      let argument := Argument.ofString text
      match ← readArgument reading argument with
      | .helped => pure .help
      | .onward reading =>
          match argument, rest with
          | .divider, extra :: _ => throw (.unknown extra)
          | _, _ => readAll reading rest

/-- What is printed for help. -/
def usage : List String :=
  [ "Ingest benchmark for the bounded executor", ""
  , "Usage: spool-bench [OPTIONS]", ""
  , "Options:" ] ++
  Flag.longNames.map fun (_, flag) =>
    "  " ++ flag.display ++
      match flag with
      | .setting _ => " <VALUE>"
      | .switch _ => ""

/-- Read a command line. -/
def parse (arguments : List String) : Except UsageError Request := readAll {} arguments

end Request

end BoundedIngest.Bench

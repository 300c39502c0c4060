/-
Module: BoundedIngest.Main
Purpose: The bench as a program.
Main exports:
  main
-/
import BoundedIngest.Bench.Command

namespace BoundedIngest.Bench

/-- What is at a path. -/
def readConfigFile (path : String) : IO ConfigFile := do
  try
    pure (.bytes (← IO.FS.readBinFile path))
  catch _ => pure .absent

/-- How long the run took and how fast it was. -/
def timing (rows micros : Nat) : List String :=
  let tenths := if micros = 0 then 0 else rows * 10000000 / micros
  [ "  Elapsed:           " ++ toString (micros / 1000) ++ " ms"
  , "  Rows/sec:          " ++ toString (tenths / 10) ++ "." ++ toString (tenths % 10) ]

/-- Write an answer: the log, what went wrong, and the output. -/
def writeAnswer (answer : Answer) (timing : List String) : IO Unit := do
  answer.log.forM fun event =>
    IO.println (event.level.name ++ " " ++ event.target ++ ": " ++ event.message)
  answer.complaints.forM IO.eprintln
  (answer.lines timing).forM IO.println

/-- Carry out the options; writing each row takes the consumer as long as they say. -/
def execute (options : Options) : IO Answer := do
  let file ← readConfigFile options.configPath
  let answer := carryOut Row.estimate options file (← IO.getEnv "RUST_LOG")
  IO.sleep (UInt32.ofNat (answer.rows * options.consumeDelayMicros.toNat / 1000))
  pure answer

/-- The code of a program that the system ended because it ran out of memory. -/
def outOfMemoryCode : Nat := 134

end BoundedIngest.Bench

open BoundedIngest.Bench in
def main (arguments : List String) : IO UInt32 := do
  let began ← IO.monoNanosNow
  let answer ←
    match Request.parse arguments with
    | .error error => pure (.refused error)
    | .ok .help => pure .help
    | .ok (.bench options) => execute options
  let ended ← IO.monoNanosNow
  writeAnswer answer (timing answer.rows ((ended - began) / 1000))
  pure (UInt32.ofNat (answer.exitCode?.getD outOfMemoryCode))

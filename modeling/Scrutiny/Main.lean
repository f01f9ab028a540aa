import Scrutiny.CommandLine.Run

/-! # The program

Reads the command line, the files and the input, and writes what the commands show.
-/

open Scrutiny CommandLine Terminal

/-- The text of a file, if it can be read. -/
def readFile? (path : String) : IO (Option String) := do
  try
    return some (← IO.FS.readFile path)
  catch _ => return none

/-- All of the input. -/
def readInput : IO String := do
  (← IO.getStdin).readToEnd

/-- What is said of a command line that is not run. -/
def usageMessage : UsageError → String
  | .help => "usage: scrutiny [-q] [-d] [--theme FILE] (words | pattern | validate) ...\n"
  | .version => "scrutiny 0.1.0\n"
  | .empty => "a command is needed: words, pattern or validate\n"
  | .missingCommand => "a command is needed: words, pattern or validate\n"
  | .unknownCommand => "this command is not known\n"
  | .unknownItem => "this argument is not known\n"
  | .missingItem => "a required argument is missing\n"
  | .missingValue => "an option lacks its value\n"
  | .needlessValue => "an option has a value that it does not take\n"
  | .repeated => "an option is given twice\n"

/-- Write what one channel shows. -/
def write (stream : IO.FS.Stream) (theme : Theme) (output : Output) : IO Unit := do
  stream.putStr (output.render theme (← stream.isTty))
  stream.flush

/-- Run the program. -/
def main (arguments : List String) : IO UInt32 := do
  let policy ← IO.getEnv "SCRUTINY_POLICY"
  let schema ← IO.getEnv "SCRUTINY_SCHEMA"
  let preset? : Item → Option String
    | .policy => policy
    | .schema => schema
    | _ => none
  match CommandLine.read preset? arguments with
  | .error error =>
    let stream ← if error.exitCode = 0 then IO.getStdout else IO.getStderr
    stream.putStr (usageMessage error)
    return error.exitCode.toUInt32
  | .ok invocation =>
    let (result, theme) ← run (m := IO) ⟨readFile?, readInput⟩ invocation
    write (← IO.getStdout) theme result.shown
    write (← IO.getStderr) theme result.notices
    return result.code.toUInt32

import Ccid.Cli.Run

/-! The whole program: words and a bus in; an exit code, an output, errors and a log out. -/

namespace Ccid.Cli

/-- What the program leaves behind. -/
structure Outcome where
  exitCode : UInt8
  /-- The text on the standard output. -/
  output : String
  /-- The lines that tell of a failure. -/
  errors : List String
  /-- The entries of the log. -/
  log : List Notice
  /-- Why the words were no command line, if they were none. -/
  usage : Option UsageError

/-- The level that the log is kept at when more talk was asked for so often. -/
def logLevel (verbosity : UInt8) : LogLevel :=
  match verbosity.toNat with
  | 0 => .warn
  | 1 => .info
  | 2 => .debug
  | _ => .trace

/-- Follows a command line. -/
def Invocation.outcome (invocation : Invocation) (bus : Usb.Bus) : Outcome :=
  let run := invocation.run bus
  let kept := logLevel invocation.verbosity
  let log := (run.events.filterMap Usb.Event.notice?).filter (·.shownAt kept)
  match run.outcome with
  | .ok report =>
    { exitCode := 0, output := report.printed invocation.json, errors := [], log, usage := none }
  | .error failure =>
    { exitCode := 1, output := "", errors := ["Error: " ++ failure.message], log, usage := none }

/-- Reads words and follows them on a bus. -/
def program (words : List String) (bus : Usb.Bus) : Outcome :=
  match Invocation.ofWords words with
  | .ok invocation => invocation.outcome bus
  | .error error =>
    { exitCode := error.exitCode, output := "", errors := [], log := [], usage := some error }

end Ccid.Cli

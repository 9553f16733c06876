import Ccid.Cli.Arguments
import Ccid.Json.Printer
import Ccid.Report.Atr
import Ccid.Report.Readers
import Ccid.Session.Operation

/-! What a command line does on a bus. -/

namespace Ccid.Cli

/-- Why a command line fails. -/
inductive Failure where
  | reader (error : Usb.ReaderError)
  | exchange (error : ExchangeError)
  | hex (error : Hex.Error)
  /-- The card answered to the power-on with other octets than expected. -/
  | atrMismatch (expected actual : Octets)
  deriving DecidableEq

/-- What went wrong, in words. -/
def Failure.message : Failure → String
  | .reader error => "Error occurred on communicating with USB device: " ++ error.message
  | .exchange error => "CCID exchange failed: " ++ error.message
  | .hex error => "Invalid hex input: " ++ error.message
  | .atrMismatch expected actual =>
    "ATR " ++ Hex.upper actual ++ " does not start with " ++ Hex.upper expected

/-- What a command line tells of its success. -/
inductive Report where
  | readers (infos : List Usb.ReaderInfo)
  | atr (card : Atr)
  | status (report : StatusReport)
  /-- The card's answer. -/
  | answer (octets : Octets)
  deriving DecidableEq, Repr

namespace Report

/-- A report for a reader's eyes. -/
def text : Report → String
  | .readers infos => Usb.readersText infos
  | .atr card => card.report
  | .status report => report.text
  | .answer octets => Hex.upper octets

/-- A report for another program. -/
def json : Report → Json
  | .readers infos => Usb.readersJson infos
  | .atr card => card.reportJson
  | .status report => report.json
  | .answer octets => .obj [("response", .str (Hex.upper octets))]

/-- A report as printed, with the line break at its end. -/
def printed (report : Report) (asJson : Bool) : String :=
  (if asJson then report.json.pretty else report.text) ++ "\n"

end Report

/-- What a command line does: its outcome, and what is seen of the bus and in the log. -/
structure Run where
  outcome : Except Failure Report
  events : List Usb.Event

/-- What a command line does once it has a session. -/
structure Use where
  outcome : Except Failure Report
  events : List (Event Usb.Fault)

/-- A single call whose answer is reported. -/
def Use.ofStep {Answer : Type} (report : Answer → Report) (step : Step Usb.Fault Answer) : Use :=
  { outcome := (step.answer.mapError .exchange).map report, events := step.events }

/-- Powers the card on and sends it octets. -/
def transmit (apdu : Octets) (session : Session Usb.Fault) : Use :=
  let on := session.powerOn
  match on.answer with
  | .error error => { outcome := .error (.exchange error), events := on.events }
  | .ok _ =>
    let use := Use.ofStep .answer (on.session.transmit apdu)
    { use with events := on.events ++ use.events }

/-- Powers the card off and on, and compares what it answers. -/
def check (opening : Octets) (session : Session Usb.Fault) : Use :=
  let off := session.powerOff
  match off.answer with
  | .error error => { outcome := .error (.exchange error), events := off.events }
  | .ok response =>
    let told := off.events ++ [.notice (.checkedPowerOff response.report)]
    let on := off.session.powerOn
    match on.answer with
    | .error error => { outcome := .error (.exchange error), events := told ++ on.events }
    | .ok atr =>
      if atr.startsWith opening then
        { outcome := .ok (.atr atr), events := told ++ on.events }
      else
        { outcome := .error (.atrMismatch opening atr.octets), events := told ++ on.events }

namespace Invocation

/-- The settings of the session that a command line asks for. -/
def config (invocation : Invocation) : Config :=
  { Config.default with
    timeout := .ofMillis invocation.timeoutMillis
    slot := invocation.slot }

/-- Claims the reader, uses it in a session, and puts it away however the use ended. -/
def withSession (invocation : Invocation) (bus : Usb.Bus) (use : Session Usb.Fault → Use) : Run :=
  let told := Usb.Event.notice (.opening invocation.vendor invocation.product)
  let attempt := bus.claimReader invocation.vendor invocation.product
  match attempt.outcome with
  | .error error => { outcome := .error (.reader error), events := told :: attempt.events }
  | .ok reader =>
    match Session.start invocation.config reader.device.pipe with
    | .error error =>
      { outcome := .error (.exchange error)
        events := told :: attempt.events ++ reader.putAway }
    | .ok session =>
      let used := use session
      { outcome := used.outcome
        events := told :: attempt.events ++ reader.observed used.events ++ reader.putAway }

/-- Runs a use of octets that a text has to denote. -/
def withOctets (text : String) (run : Octets → Run) : Run :=
  match Hex.decode text with
  | .error error => { outcome := .error (.hex error), events := [] }
  | .ok octets => run octets

/-- Does what a command line asks for. -/
def run (invocation : Invocation) (bus : Usb.Bus) : Run :=
  match invocation.action with
  | .list => { outcome := (bus.readers.mapError .reader).map .readers, events := [] }
  | .powerOn => invocation.withSession bus fun session => .ofStep .atr session.powerOn
  | .powerOff =>
    invocation.withSession bus fun session =>
      .ofStep (fun response => .status response.report) session.powerOff
  | .status =>
    invocation.withSession bus fun session =>
      .ofStep (fun response => .status response.report) session.slotStatus
  | .transmit apdu =>
    -- Blanks between the digits are for the eye.
    withOctets (String.ofList (apdu.toList.filter (· != ' '))) fun octets =>
      invocation.withSession bus (transmit octets)
  | .check opening =>
    withOctets opening fun octets => invocation.withSession bus (check octets)

/-- What a run prints: its report, or nothing when it failed. -/
def output (invocation : Invocation) (bus : Usb.Bus) : String :=
  match (invocation.run bus).outcome with
  | .ok report => report.printed invocation.json
  | .error _ => ""

end Invocation

end Ccid.Cli

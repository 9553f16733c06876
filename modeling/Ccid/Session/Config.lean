import Ccid.Duration
import Ccid.Json.Basic

/-! The settings of a session, and their form as JSON. -/

namespace Ccid

/-- The voltage that a power-on asks for. -/
inductive Voltage where
  | automatic
  | volts5
  | volts3
  | volts1_8
  deriving DecidableEq, Repr

/-- The octet that a power-on carries for a voltage. -/
def Voltage.code : Voltage → UInt8
  | .automatic => 0
  | .volts5 => 1
  | .volts3 => 2
  | .volts1_8 => 3

instance : Named Voltage where
  all := [.automatic, .volts5, .volts3, .volts1_8]
  name
    | .automatic => "Automatic"
    | .volts5 => "V5"
    | .volts3 => "V3"
    | .volts1_8 => "V1_8"
  find_name kind := by cases kind <;> decide

/-- The settings of a session. -/
structure Config where
  /-- The deadline of every single transfer. -/
  timeout : Duration
  /-- The slot that every command addresses. -/
  slot : UInt8
  voltage : Voltage
  /-- How many time extensions one command may be granted. -/
  maxTimeExtensions : UInt32
  deriving DecidableEq

/-- Why settings are refused. -/
inductive ConfigError where
  /-- The deadline has no whole milliseconds, or more of them than 32 bits count. -/
  | timeoutOutOfRange (timeout : Duration)
  deriving DecidableEq

/-- What is wrong, in words. -/
def ConfigError.message : ConfigError → String
  | .timeoutOutOfRange timeout =>
    "Transfer timeout " ++ timeout.text ++ " is outside 1 ms ..= 4294967295 ms"

/-- A span of time as an object of seconds and nanoseconds. -/
def Duration.json (span : Duration) : Json :=
  .obj [("secs", .ofNat span.seconds.toNat), ("nanos", .ofNat span.nanos.toNat)]

/-- The span that an object with just these two members, or an array of the two, denotes. -/
def Duration.ofJson? (value : Json) : Option Duration := do
  let members ← value.record? ["secs", "nanos"]
  if members.all (fun member => member.1 == "secs" || member.1 == "nanos") then
    let seconds ← Json.field? members "secs" Json.uint64?
    let nanos ← Json.field? members "nanos" Json.uint32?
    Duration.ofParts? seconds nanos
  else none

namespace Config

/-- Ten seconds a transfer, slot 0, five volts, and 32 time extensions. -/
def default : Config :=
  { timeout := { seconds := 10, nanos := 0 }
    slot := 0
    voltage := .volts5
    maxTimeExtensions := 32 }

/--
Refuses a deadline that a 32-bit count of milliseconds cannot express.

A count of zero would mean no deadline at all.
-/
def validate (config : Config) : Except ConfigError Unit :=
  if config.timeout.millis = 0 ∨ config.timeout.millis ≥ UInt32.size then
    .error (.timeoutOutOfRange config.timeout)
  else .ok ()

/-- Settings as an object. -/
def json (config : Config) : Json :=
  .obj
    [("timeout", config.timeout.json),
      ("slot", .ofNat config.slot.toNat),
      ("voltage", .ofNamed config.voltage),
      ("max_time_extensions", .ofNat config.maxTimeExtensions.toNat)]

/-- The settings that a record denotes; a missing field takes its usual value. -/
def ofJson? (value : Json) : Option Config := do
  let members ← value.record? ["timeout", "slot", "voltage", "max_time_extensions"]
  let timeout ← Json.fieldOr? members "timeout" Duration.ofJson? default.timeout
  let slot ← Json.fieldOr? members "slot" Json.uint8? default.slot
  let voltage ← Json.fieldOr? members "voltage" Json.named? default.voltage
  let maxTimeExtensions ←
    Json.fieldOr? members "max_time_extensions" Json.uint32? default.maxTimeExtensions
  return { timeout, slot, voltage, maxTimeExtensions }

end Config

end Ccid

import Ccid.Named

/-! The kinds of message between host and reader, and which answers which. -/

namespace Ccid

/-- What the host asks of the reader. -/
inductive CommandKind where
  | setParameters
  | iccPowerOn
  | iccPowerOff
  | getSlotStatus
  | escape
  | getParameters
  | resetParameters
  | iccClock
  | xfrBlock
  | abort
  deriving DecidableEq, Repr

/-- What the reader answers with. -/
inductive ResponseKind where
  | dataBlock
  | slotStatus
  | parameters
  | escape
  | dataRateAndClockFrequency
  deriving DecidableEq, Repr

/-- The octet a command opens with. -/
def CommandKind.code : CommandKind → UInt8
  | .setParameters => 0x61
  | .iccPowerOn => 0x62
  | .iccPowerOff => 0x63
  | .getSlotStatus => 0x65
  | .escape => 0x6B
  | .getParameters => 0x6C
  | .resetParameters => 0x6D
  | .iccClock => 0x6E
  | .xfrBlock => 0x6F
  | .abort => 0x72

/-- The octet a response opens with. -/
def ResponseKind.code : ResponseKind → UInt8
  | .dataBlock => 0x80
  | .slotStatus => 0x81
  | .parameters => 0x82
  | .escape => 0x83
  | .dataRateAndClockFrequency => 0x84

/-- The kind of response that an octet opens. -/
def ResponseKind.ofCode? (code : UInt8) : Option ResponseKind :=
  match code.toNat with
  | 0x80 => some .dataBlock
  | 0x81 => some .slotStatus
  | 0x82 => some .parameters
  | 0x83 => some .escape
  | 0x84 => some .dataRateAndClockFrequency
  | _ => none

/-- A kind's octet opens that kind. -/
@[simp] theorem ResponseKind.ofCode?_code (kind : ResponseKind) : ofCode? kind.code = some kind := by
  cases kind <;> rfl

/-- The only kind of response a reader may answer a command with. -/
def CommandKind.expected : CommandKind → ResponseKind
  | .iccPowerOn | .xfrBlock => .dataBlock
  | .iccPowerOff | .getSlotStatus | .iccClock | .abort => .slotStatus
  | .setParameters | .getParameters | .resetParameters => .parameters
  | .escape => .escape

instance : Named CommandKind where
  all := [.setParameters, .iccPowerOn, .iccPowerOff, .getSlotStatus, .escape, .getParameters,
    .resetParameters, .iccClock, .xfrBlock, .abort]
  name
    | .setParameters => "SetParameters"
    | .iccPowerOn => "IccPowerOn"
    | .iccPowerOff => "IccPowerOff"
    | .getSlotStatus => "GetSlotStatus"
    | .escape => "Escape"
    | .getParameters => "GetParameters"
    | .resetParameters => "ResetParameters"
    | .iccClock => "IccClock"
    | .xfrBlock => "XfrBlock"
    | .abort => "Abort"
  find_name kind := by cases kind <;> decide

instance : Named ResponseKind where
  all := [.dataBlock, .slotStatus, .parameters, .escape, .dataRateAndClockFrequency]
  name
    | .dataBlock => "DataBlock"
    | .slotStatus => "SlotStatus"
    | .parameters => "Parameters"
    | .escape => "Escape"
    | .dataRateAndClockFrequency => "DataRateAndClockFrequency"
  find_name kind := by cases kind <;> decide

end Ccid

import Ccid.Hex
import Ccid.Json.Basic

/-! The status and error octets of a reader's answer. -/

namespace Ccid

/-- Presence and activation of the card in the slot. -/
inductive IccStatus where
  | presentActive
  | presentInactive
  | notPresent
  | reserved
  deriving DecidableEq, Repr

/-- Outcome of the command that an answer belongs to. -/
inductive CommandStatus where
  | processed
  | failed
  /-- The card needs more time, and the real answer follows under the same number. -/
  | timeExtension
  | reserved
  deriving DecidableEq, Repr

instance : Named IccStatus where
  all := [.presentActive, .presentInactive, .notPresent, .reserved]
  name
    | .presentActive => "PresentActive"
    | .presentInactive => "PresentInactive"
    | .notPresent => "NotPresent"
    | .reserved => "Reserved"
  find_name kind := by cases kind <;> decide

instance : Named CommandStatus where
  all := [.processed, .failed, .timeExtension, .reserved]
  name
    | .processed => "Processed"
    | .failed => "Failed"
    | .timeExtension => "TimeExtension"
    | .reserved => "Reserved"
  find_name kind := by cases kind <;> decide

/-- The status octet of an answer. -/
structure SlotStatus where
  /-- The octet as received. -/
  octet : UInt8
  deriving DecidableEq, Repr

namespace SlotStatus

/-- The card's presence, in the two lowest bits. -/
def icc (status : SlotStatus) : IccStatus :=
  match status.octet.toNat % 4 with
  | 0 => .presentActive
  | 1 => .presentInactive
  | 2 => .notPresent
  | _ => .reserved

/-- The command's outcome, in the two highest bits. -/
def command (status : SlotStatus) : CommandStatus :=
  match status.octet.toNat / 64 with
  | 0 => .processed
  | 1 => .failed
  | 2 => .timeExtension
  | _ => .reserved

/-- Whether the reader says that the command failed. -/
def isFailed (status : SlotStatus) : Bool :=
  status.command == .failed

/-- Whether the card asks for more time. -/
def isTimeExtension (status : SlotStatus) : Bool :=
  status.command == .timeExtension

/-- A status as its octet. -/
def json (status : SlotStatus) : Json :=
  .ofNat status.octet.toNat

/-- The status that an octet denotes. -/
def ofJson? (value : Json) : Option SlotStatus :=
  value.uint8?.map SlotStatus.mk

end SlotStatus

/-- Why a command failed, as the error octet of its answer tells. -/
inductive SlotError where
  | commandAborted
  | iccMute
  | parityError
  | overrun
  | hardwareError
  | badAtrTs
  | badAtrTck
  | protocolNotSupported
  | classNotSupported
  | procedureByteConflict
  | deactivatedProtocol
  | busyWithAutoSequence
  | pinTimeout
  | pinCancelled
  | slotBusy
  | commandNotSupported
  /-- The field at this offset of the command is at fault. -/
  | badParameter (offset : UInt8)
  /-- A code of the reader's own. -/
  | other (code : UInt8)
  deriving DecidableEq, Repr

namespace SlotError

/-- The error an octet stands for. -/
def ofOctet (octet : UInt8) : SlotError :=
  match octet.toNat with
  | 0xFF => .commandAborted
  | 0xFE => .iccMute
  | 0xFD => .parityError
  | 0xFC => .overrun
  | 0xFB => .hardwareError
  | 0xF8 => .badAtrTs
  | 0xF7 => .badAtrTck
  | 0xF6 => .protocolNotSupported
  | 0xF5 => .classNotSupported
  | 0xF4 => .procedureByteConflict
  | 0xF3 => .deactivatedProtocol
  | 0xF2 => .busyWithAutoSequence
  | 0xF0 => .pinTimeout
  | 0xEF => .pinCancelled
  | 0xE0 => .slotBusy
  | 0x00 => .commandNotSupported
  | value => if value < 0x80 then .badParameter octet else .other octet

/-- What went wrong, in words. -/
def message : SlotError → String
  | .commandAborted => "Command aborted"
  | .iccMute => "Card did not respond (ICC mute)"
  | .parityError => "Parity error during transfer"
  | .overrun => "Overrun during transfer"
  | .hardwareError => "Hardware error"
  | .badAtrTs => "Bad ATR TS octet"
  | .badAtrTck => "Bad ATR checksum"
  | .protocolNotSupported => "Card protocol not supported"
  | .classNotSupported => "Card class not supported"
  | .procedureByteConflict => "Procedure byte conflict"
  | .deactivatedProtocol => "Protocol deactivated"
  | .busyWithAutoSequence => "Busy with automatic sequence"
  | .pinTimeout => "PIN entry timed out"
  | .pinCancelled => "PIN entry cancelled"
  | .slotBusy => "Slot busy"
  | .commandNotSupported => "Command not supported"
  | .badParameter offset => "Bad parameter at offset " ++ offset.toNat.repr
  | .other code => "Reader-specific error 0x" ++ Hex.upper [code]

end SlotError

end Ccid

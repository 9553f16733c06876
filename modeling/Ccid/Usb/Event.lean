import Ccid.Session.Event
import Ccid.Usb.Configuration
import Ccid.Usb.Fault

/-! What an observer of a USB bus and of the log sees. -/

namespace Ccid.Usb

/-- Something that happens on the bus or is told in the log. -/
inductive Event where
  | notice (entry : Notice)
  | openDevice (bus address : UInt8) (outcome : Except Fault Unit)
  | queryDriver (interface : UInt8) (outcome : Except Fault Bool)
  | detachDriver (interface : UInt8) (outcome : Except Fault Unit)
  | claim (interface : UInt8) (outcome : Except Fault Unit)
  | release (interface : UInt8) (outcome : Except Fault Unit)
  /-- The device is closed, perhaps with an interface still claimed. -/
  | close (held : Option UInt8)
  | write (endpoint : UInt8) (frame : Octets) (timeout : Duration) (outcome : Except Fault Nat)
  | read (endpoint : UInt8) (limit : Nat) (timeout : Duration) (outcome : Except Fault Octets)

/-- A session's event on a device, whose transfers go through the given endpoints. -/
def Event.ofSession (endpoints : BulkPair) : Ccid.Event Fault → Event
  | .notice entry => .notice entry
  | .write frame timeout outcome => .write endpoints.bulkOut frame timeout outcome
  | .read limit timeout outcome => .read endpoints.bulkIn limit timeout outcome

/-- A deadline as the bus takes it: whole milliseconds in 32 bits. -/
def deadline (timeout : Duration) : Nat :=
  timeout.millis % UInt32.size

/-- The log entry that an event is, if it is one. -/
def Event.notice? : Event → Option Notice
  | .notice entry => some entry
  | _ => none

/-- An event as a line. -/
def Event.line : Event → String
  | .notice entry => entry.line
  | .openDevice bus address _ =>
    "usb open " ++ zeroPadded 3 bus.toNat ++ ":" ++ zeroPadded 3 address.toNat
  | .queryDriver interface _ => "usb kernel_driver_active " ++ interface.toNat.repr
  | .detachDriver interface _ => "usb detach_kernel_driver " ++ interface.toNat.repr
  | .claim interface _ => "usb claim_interface " ++ interface.toNat.repr
  | .release interface _ => "usb release_interface " ++ interface.toNat.repr
  | .close none => "usb close"
  | .close (some interface) => "usb close (still claimed: " ++ interface.toNat.repr ++ ")"
  | .write endpoint frame timeout outcome =>
    "usb write ep=0x" ++ Hex.lower [endpoint] ++ " " ++ Hex.lower frame ++ " "
      ++ (deadline timeout).repr ++ "ms -> " ++ outcomeText Named.name id outcome
  | .read endpoint limit timeout outcome =>
    "usb read ep=0x" ++ Hex.lower [endpoint] ++ " max=" ++ limit.repr ++ " "
      ++ (deadline timeout).repr ++ "ms -> " ++ outcomeText Named.name List.length outcome

end Ccid.Usb

import Ccid.Bulk
import Ccid.Named

/-! The faults that calls on a USB bus end with. -/

namespace Ccid.Usb

/-- Why a call on the bus failed. -/
inductive Fault where
  | io
  | invalidParameter
  | access
  | noDevice
  | notFound
  | busy
  | timeout
  | overflow
  | pipe
  | interrupted
  | noMemory
  | notSupported
  | badDescriptor
  | other
  deriving DecidableEq, Repr

instance : Named Fault where
  all := [.io, .invalidParameter, .access, .noDevice, .notFound, .busy, .timeout, .overflow,
    .pipe, .interrupted, .noMemory, .notSupported, .badDescriptor, .other]
  name
    | .io => "Io"
    | .invalidParameter => "InvalidParam"
    | .access => "Access"
    | .noDevice => "NoDevice"
    | .notFound => "NotFound"
    | .busy => "Busy"
    | .timeout => "Timeout"
    | .overflow => "Overflow"
    | .pipe => "Pipe"
    | .interrupted => "Interrupted"
    | .noMemory => "NoMem"
    | .notSupported => "NotSupported"
    | .badDescriptor => "BadDescriptor"
    | .other => "Other"
  find_name kind := by cases kind <;> decide

/-- What went wrong, in words. -/
def Fault.message : Fault → String
  | .io => "Input/Output Error"
  | .invalidParameter => "Invalid parameter"
  | .access => "Access denied (insufficient permissions)"
  | .noDevice => "No such device (it may have been disconnected)"
  | .notFound => "Entity not found"
  | .busy => "Resource busy"
  | .timeout => "Operation timed out"
  | .overflow => "Overflow"
  | .pipe => "Pipe error"
  | .interrupted => "System call interrupted (perhaps due to signal)"
  | .noMemory => "Insufficient memory"
  | .notSupported => "Operation not supported or unimplemented on this platform"
  | .badDescriptor => "Malformed descriptor"
  | .other => "Other error"

/-- What a fault of a transfer means to a session. -/
def Fault.cause : Fault → TransportError
  | .timeout => .timeout
  | .noDevice => .disconnected
  | fault => .io fault.message

instance : BulkFault Fault where
  timeout := .timeout
  cause := Fault.cause
  cause_timeout := rfl

end Ccid.Usb

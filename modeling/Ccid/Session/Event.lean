import Ccid.Bulk
import Ccid.Duration
import Ccid.Notice

/-! What an observer of the pipes and of the log sees of a session. -/

namespace Ccid

/-- Something that a session does. -/
inductive Event (Fault : Type) where
  | notice (entry : Notice)
  /-- A frame is written under a deadline, and so many octets are taken. -/
  | write (frame : Octets) (timeout : Duration) (outcome : Except Fault Nat)
  /-- At most so many octets are read under a deadline, and these arrive. -/
  | read (limit : Nat) (timeout : Duration) (outcome : Except Fault Octets)

/-- What a transfer came to: a count of octets or the name of a fault. -/
def outcomeText {Fault Value : Type} (name : Fault → String) (count : Value → Nat) :
    Except Fault Value → String
  | .ok value => (count value).repr
  | .error fault => name fault

/-- A fault by its name. -/
def TransportError.label : TransportError → String
  | .timeout => "Timeout"
  | .disconnected => "Disconnected"
  | .io _ => "Io"

/-- An event over pipes without endpoints, as a line. -/
def Event.line : Event TransportError → String
  | .notice entry => entry.line
  | .write frame timeout outcome =>
    "write " ++ Hex.lower frame ++ " " ++ timeout.fixedText ++ " -> "
      ++ outcomeText TransportError.label id outcome
  | .read limit timeout outcome =>
    "read max=" ++ limit.repr ++ " " ++ timeout.fixedText ++ " -> "
      ++ outcomeText TransportError.label List.length outcome

end Ccid

import Ccid.Report.Status

/-! The log: what a session, a reader and the command line tell of their work. -/

namespace Ccid

/-- How much a reader of the log wants to know to be told of something. -/
inductive LogLevel where
  | warn
  | info
  | debug
  | trace
  deriving DecidableEq, Repr

/-- The level by its place, where a higher place lets more through. -/
def LogLevel.rank : LogLevel → Nat
  | .warn => 0
  | .info => 1
  | .debug => 2
  | .trace => 3

instance : Named LogLevel where
  all := [.warn, .info, .debug, .trace]
  name
    | .warn => "WARN"
    | .info => "INFO"
    | .debug => "DEBUG"
    | .trace => "TRACE"
  find_name kind := by cases kind <;> decide

/-- An entry of the log. -/
inductive Notice where
  /-- A frame is about to be written. -/
  | sending (frame : Octets)
  /-- A transfer was read. -/
  | received (transfer : Octets)
  /-- The card asked for more time, this many times in one exchange so far. -/
  | timeExtension (count : UInt32)
  | poweredOn (atr : Octets)
  | poweredOff
  | powerOffRefused (error : SlotError)
  /-- An answer had this many octets beyond its announced length. -/
  | paddingDropped (octets : Nat)
  /-- An answer had fewer octets than it announced. -/
  | dataShort (announced : UInt32) (arrived : Nat)
  /-- A reader's interface is about to be claimed. -/
  | claiming (interface bulkIn bulkOut : UInt8)
  /-- A reader with these identifiers is about to be looked for. -/
  | opening (vendor product : UInt16)
  /-- What the reader answered to the power-off of a check. -/
  | checkedPowerOff (report : StatusReport)
  deriving DecidableEq, Repr

namespace Notice

/-- The level that an entry belongs to. -/
def level : Notice → LogLevel
  | .sending _ | .received _ | .timeExtension _ | .claiming .. | .opening .. => .debug
  | .poweredOn _ | .poweredOff | .checkedPowerOff _ => .info
  | .powerOffRefused _ | .paddingDropped _ | .dataShort .. => .warn

/-- An entry in words. -/
def text : Notice → String
  | .sending frame => "TX: " ++ Hex.lower frame
  | .received transfer => "RX: " ++ Hex.lower transfer
  | .timeExtension count =>
    "Card requested a time extension (" ++ count.toNat.repr ++ " so far)"
  | .poweredOn atr => "Card powered on, ATR: " ++ Hex.lower atr
  | .poweredOff => "Card powered off"
  | .powerOffRefused error => "Power off failed: " ++ error.message
  | .paddingDropped octets => "Dropping " ++ octets.repr ++ " octets of padding"
  | .dataShort announced arrived =>
    "Reader announced " ++ announced.toNat.repr ++ " octets but sent " ++ arrived.repr
  | .claiming interface bulkIn bulkOut =>
    "Claiming CCID interface " ++ interface.toNat.repr ++ " (IN=0x" ++ Hex.lower [bulkIn]
      ++ " OUT=0x" ++ Hex.lower [bulkOut] ++ ")"
  | .opening vendor product =>
    "Opening reader " ++ Hex.word .lower vendor ++ ":" ++ Hex.word .lower product
  | .checkedPowerOff report => "Power off: " ++ report.text

/-- An entry as a line of the log. -/
def line (notice : Notice) : String :=
  Named.name notice.level ++ " " ++ notice.text

/-- Whether a log kept at a level holds an entry. -/
def shownAt (notice : Notice) (kept : LogLevel) : Bool :=
  notice.level.rank ≤ kept.rank

end Notice

end Ccid

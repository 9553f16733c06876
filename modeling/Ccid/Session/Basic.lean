import Ccid.Atr
import Ccid.Session.Error
import Ccid.Session.Event
import Ccid.Session.Sequence

/-! A session with one reader: its state, and how it begins. -/

namespace Ccid

/-- What a session did to the card's power last. -/
inductive PowerState where
  /-- Nothing was switched yet. -/
  | unknown
  | poweredOn
  | poweredOff
  deriving DecidableEq, Repr

instance : Named PowerState where
  all := [.unknown, .poweredOn, .poweredOff]
  name
    | .unknown => "Unknown"
    | .poweredOn => "PoweredOn"
    | .poweredOff => "PoweredOff"
  find_name kind := by cases kind <;> decide

/-- A session over one pair of pipes, with at most one command in flight. -/
structure Session (Fault : Type) where
  config : Config
  sequence : Sequence
  /-- The answer to the last power-on, until the card is powered off. -/
  lastAtr : Option Atr
  power : PowerState
  pipe : Pipe Fault

/-- What a call on a session leaves: its answer, the session after it, and what was seen. -/
structure Step (Fault Answer : Type) where
  answer : Except ExchangeError Answer
  session : Session Fault
  events : List (Event Fault)

/-- A new session on a pair of pipes, if its settings are sound. -/
def Session.start {Fault : Type} (config : Config) (pipe : Pipe Fault) :
    Except ExchangeError (Session Fault) :=
  match config.validate with
  | .error error => .error (.config error)
  | .ok () =>
    .ok
      { config
        sequence := .initial
        lastAtr := none
        power := .unknown
        pipe }

end Ccid

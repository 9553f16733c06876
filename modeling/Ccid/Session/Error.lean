import Ccid.Bulk
import Ccid.Message.Response
import Ccid.Session.Config

/-! Why an exchange with a reader fails. -/

namespace Ccid

/-- Why a session's call yields nothing. -/
inductive ExchangeError where
  /-- The command cannot be framed. -/
  | encoding (error : EncodingError)
  | timeout
  /-- The reader took a number of octets other than the frame's. -/
  | shortWrite (written expected : Nat)
  /-- The answer of this length has no full header. -/
  | shortRead (length : Nat)
  | sequenceMismatch (expected actual : UInt8)
  | slotMismatch (expected actual : UInt8)
  /-- The answer opens with this octet, which is not the expected kind's. -/
  | unexpectedKind (expected : ResponseKind) (actual : UInt8)
  | commandFailed (icc : IccStatus) (error : SlotError)
  /-- The answer is a part of a longer one. -/
  | chainingUnsupported (chainParameter : UInt8)
  /-- The card asked for more time than this many times. -/
  | tooManyTimeExtensions (limit : UInt32)
  | transport (error : TransportError)
  | config (error : ConfigError)
  deriving DecidableEq

namespace ExchangeError

/-- A failed transfer as the failure of a call, where a timeout has a name of its own. -/
def ofTransport : TransportError → ExchangeError
  | .timeout => .timeout
  | error => .transport error

/-- What went wrong, in words. -/
def message : ExchangeError → String
  | .encoding error => "Could not frame the command: " ++ error.message
  | .timeout => "Timed out waiting for the reader"
  | .shortWrite written expected =>
    "Reader accepted " ++ written.repr ++ " of " ++ expected.repr ++ " octets"
  | .shortRead length =>
    "Response of " ++ length.repr ++ " octets is shorter than a message header"
  | .sequenceMismatch expected actual =>
    "Response sequence " ++ actual.toNat.repr ++ " does not match command sequence "
      ++ expected.toNat.repr
  | .slotMismatch expected actual =>
    "Response slot " ++ actual.toNat.repr ++ " does not match command slot "
      ++ expected.toNat.repr
  | .unexpectedKind expected actual =>
    "Expected " ++ Named.name expected ++ " response, got message type 0x" ++ Hex.upper [actual]
  | .commandFailed icc error =>
    "Reader reported a failed command (" ++ Named.name icc ++ "): " ++ error.message
  | .chainingUnsupported chainParameter =>
    "Chained response (bChainParameter 0x" ++ Hex.upper [chainParameter] ++ ") is not supported"
  | .tooManyTimeExtensions limit =>
    "Card requested more than " ++ limit.toNat.repr ++ " time extensions"
  | .transport error => "Transport error: " ++ error.message
  | .config error => "Invalid session configuration: " ++ error.message

end ExchangeError

end Ccid

import Ccid.Message.Kind
import Ccid.Octets

/-!
Commands and their frames.

A frame is a 10-octet header and a payload: kind, payload length (4), slot, number,
a kind-specific octet, and a 16-bit parameter, multi-octet fields least significant first.
-/

namespace Ccid

/-- The octets of the header that commands and responses share. -/
def headerSize : Nat := 10

/-- The most octets that one frame may have, so that it never needs a second packet. -/
def maxPacketSize : Nat := 64

/-- The most payload octets that still fit one packet. -/
def maxPayloadSize : Nat := maxPacketSize - headerSize

/-- Why a command cannot be framed. -/
inductive EncodingError where
  /-- The payload's length has no place in the 32-bit length field. -/
  | lengthOverflow (length : Nat)
  /-- The frame of this length needs more than one packet, which holds no more than the limit. -/
  | packetTooLarge (length limit : Nat)
  deriving DecidableEq, Repr

/-- What went wrong, in words. -/
def EncodingError.message : EncodingError → String
  | .lengthOverflow length =>
    "Payload of " ++ length.repr ++ " octets does not fit in the 32-bit length field"
  | .packetTooLarge length limit =>
    "Frame of " ++ length.repr ++ " octets exceeds the single-packet limit of "
      ++ limit.repr ++ " octets"

/-- The value of the length field for a payload that can be framed. -/
def checkPayloadLength (length : Nat) : Except EncodingError UInt32 :=
  if length ≥ UInt32.size then .error (.lengthOverflow length)
  else if headerSize + length > maxPacketSize then
    .error (.packetTooLarge (headerSize + length) maxPacketSize)
  else .ok (UInt32.ofNat length)

/-- A message from the host to the reader. -/
structure Command where
  kind : CommandKind
  slot : UInt8
  sequence : UInt8
  /-- The kind-specific octet, such as the voltage of a power-on. -/
  reserved : UInt8
  parameter : UInt16
  payload : Octets
  deriving DecidableEq, Repr

/-- The octets of a command as one transfer carries them. -/
def Command.encode (command : Command) : Except EncodingError Octets := do
  let length ← checkPayloadLength command.payload.length
  return command.kind.code :: (littleEndian 4 length.toNat
    ++ command.slot :: command.sequence :: command.reserved
    :: (littleEndian 2 command.parameter.toNat ++ command.payload))

end Ccid

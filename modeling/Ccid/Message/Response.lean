import Ccid.Message.Command
import Ccid.Message.Status

/-!
Responses and their frames.

A frame is a 10-octet header and a payload: kind, data length (4, least significant first), slot,
number, status, error and chain parameter. The payload is kept as received.
-/

namespace Ccid

/-- Why octets are no response. -/
inductive DecodeError where
  /-- The frame of this length is shorter than a header. -/
  | truncated (length : Nat)
  /-- The first octet opens no kind of response. -/
  | unknownKind (code : UInt8)
  deriving DecidableEq, Repr

/-- What went wrong, in words. -/
def DecodeError.message : DecodeError → String
  | .truncated length =>
    "Frame of " ++ length.repr ++ " octets is shorter than the " ++ headerSize.repr
      ++ "-octet header"
  | .unknownKind code => "Unknown response message type 0x" ++ Hex.upper [code]

/-- A message from the reader to the host. -/
structure Response where
  kind : ResponseKind
  /-- The length that the reader announces, whatever the payload's own. -/
  dataLength : UInt32
  slot : UInt8
  sequence : UInt8
  status : SlotStatus
  error : UInt8
  chainParameter : UInt8
  /-- Every octet after the header. -/
  payload : Octets
  deriving DecidableEq, Repr

namespace Response

/-- The response that the octets of one transfer hold. -/
def decode : Octets → Except DecodeError Response
  | code :: length₀ :: length₁ :: length₂ :: length₃ :: slot :: sequence :: status :: error
      :: chainParameter :: payload =>
    match ResponseKind.ofCode? code with
    | none => .error (.unknownKind code)
    | some kind =>
      .ok
        { kind
          dataLength := UInt32.ofNat (ofLittleEndian [length₀, length₁, length₂, length₃])
          slot, sequence
          status := ⟨status⟩
          error, chainParameter, payload }
  | short => .error (.truncated short.length)

/-- The octets of a response, as a reader would send them. -/
def encode (response : Response) : Octets :=
  response.kind.code :: (littleEndian 4 response.dataLength.toNat
    ++ response.slot :: response.sequence :: response.status.octet :: response.error
    :: response.chainParameter :: response.payload)

/-- The payload as far as the announced length goes. -/
def data (response : Response) : Octets :=
  response.payload.take response.dataLength.toNat

end Response

end Ccid

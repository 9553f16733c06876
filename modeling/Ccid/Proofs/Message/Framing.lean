import Ccid.Message.Response

/-! Commands that fit one packet have a frame, and responses and their frames determine each other. -/

namespace Ccid

/-- Why a payload of this length cannot be framed. -/
def EncodingError.ofLength (length : Nat) : EncodingError :=
  if length < UInt32.size then .packetTooLarge (headerSize + length) maxPacketSize
  else .lengthOverflow length

/-- A payload that fits one packet passes with its own length. -/
theorem checkPayloadLength_of_fits {length : Nat} (fits : length ≤ maxPayloadSize) :
    checkPayloadLength length = .ok (UInt32.ofNat length) := by
  -- The packet's room is far below what the length field can count.
  have counted : ¬ length ≥ UInt32.size :=
    Nat.not_le.mpr (Nat.lt_of_le_of_lt fits (by decide))
  simp only [maxPayloadSize, maxPacketSize, headerSize] at fits
  have room : ¬ headerSize + length > maxPacketSize := by
    simp only [headerSize, maxPacketSize]
    omega
  rw [checkPayloadLength, if_neg counted, if_neg room]

/-- A payload beyond one packet is refused, for the length field's sake where that overflows first. -/
theorem checkPayloadLength_of_large {length : Nat} (large : maxPayloadSize < length) :
    checkPayloadLength length = .error (.ofLength length) := by
  -- Which error it is depends only on whether the length field could count the payload.
  simp only [maxPayloadSize, maxPacketSize, headerSize] at large
  unfold checkPayloadLength EncodingError.ofLength
  by_cases counted : length < UInt32.size
  · have room : headerSize + length > maxPacketSize := by
      simp only [headerSize, maxPacketSize]
      omega
    rw [if_neg (Nat.not_le.mpr counted), if_pos room, if_pos counted]
  · rw [if_pos (Nat.not_lt.mp counted), if_neg counted]

/-- The length field holds the length of a payload that fits one packet unchanged. -/
theorem toNat_length_of_fits {length : Nat} (fits : length ≤ maxPayloadSize) :
    (UInt32.ofNat length).toNat = length := by
  -- A packet is far shorter than 2 ^ 32 octets.
  have small : length < UInt32.size := Nat.lt_of_le_of_lt fits (by decide)
  rw [UInt32.toNat_ofNat', Nat.mod_eq_of_lt small]

namespace Command

/-- The octets of a command whose payload's length fits its field. -/
def frame (command : Command) : Octets :=
  command.kind.code :: (littleEndian 4 command.payload.length
    ++ command.slot :: command.sequence :: command.reserved
    :: (littleEndian 2 command.parameter.toNat ++ command.payload))

/-- A frame is a header and the payload. -/
@[simp] theorem length_frame (command : Command) :
    command.frame.length = headerSize + command.payload.length := by
  -- Kind, slot, number and reserved octet take one place each, the length four, the parameter two.
  simp only [frame, List.length_cons, List.length_append, length_littleEndian, headerSize]
  omega

/-- A command that fits one packet is always framed. -/
theorem encode_of_fits {command : Command} (fits : command.payload.length ≤ maxPayloadSize) :
    command.encode = .ok command.frame := by
  -- What the length field holds is the length that the frame is written with.
  simp only [encode, checkPayloadLength_of_fits fits, toNat_length_of_fits fits, frame, Bind.bind,
    Except.bind, Pure.pure, Except.pure]

end Command

/-- An octet that opens a kind of response is that kind's. -/
theorem ResponseKind.code_of_ofCode? {octet : UInt8} {kind : ResponseKind}
    (opens : ofCode? octet = some kind) : kind.code = octet := by
  -- Only five octets open a kind at all, and each opens the kind it is the code of.
  apply UInt8.toNat_inj.mp
  unfold ofCode? at opens
  split at opens
  case h_6 => simp at opens
  all_goals
    rename_i value
    cases opens
    rw [value]
    rfl

namespace Response

/-- A frame is a header and the payload. -/
@[simp] theorem length_encode (response : Response) :
    response.encode.length = headerSize + response.payload.length := by
  -- Six single octets and the four of the length come before the payload.
  simp only [encode, List.length_cons, List.length_append, length_littleEndian, headerSize]
  omega

/-- The payload as far as the announced length goes is never longer than the payload. -/
theorem data_eq (response : Response) :
    response.data
      = response.payload.take (min response.dataLength.toNat response.payload.length) :=
  List.take_eq_take_min

/-- The number that a response carries stands at the seventh place of its frame. -/
theorem encode_sequence (response : Response) : response.encode[6]? = some response.sequence := by
  -- The kind, four octets of length and the slot come before it.
  simp [encode, littleEndian]

/-- A response's frame is read back as the response. -/
theorem decode_encode (response : Response) : decode response.encode = .ok response := by
  -- The announced length is a 32-bit word, so its four octets hold all of it.
  have length : UInt32.ofNat (ofLittleEndian (littleEndian 4 response.dataLength.toNat))
      = response.dataLength := by
    rw [ofLittleEndian_littleEndian 4 response.dataLength.toNat_lt, UInt32.ofNat_toNat]
  simp only [littleEndian] at length
  simp only [encode, littleEndian, List.cons_append, List.nil_append, decode,
    ResponseKind.ofCode?_code, length]

/-- What a response is read from is its frame. -/
theorem eq_encode_of_decode {raw : Octets} {response : Response}
    (read : decode raw = .ok response) : raw = response.encode := by
  -- Reading succeeds only on ten octets and more, of which the first opens a kind.
  unfold decode at read
  split at read
  · rename_i code length₀ length₁ length₂ length₃ slot sequence status error chainParameter payload
    split at read
    · simp at read
    · rename_i kind opens
      cases read
      -- Four octets denote a 32-bit number, so the announced length is kept as it is.
      let field := [length₀, length₁, length₂, length₃]
      have kept : (UInt32.ofNat (ofLittleEndian field)).toNat = ofLittleEndian field := by
        have bound : ofLittleEndian field < Nat.pow 256 4 := ofLittleEndian_lt field
        rw [UInt32.toNat_ofNat']
        exact Nat.mod_eq_of_lt (by omega)
      have written : littleEndian 4 (ofLittleEndian field) = field :=
        littleEndian_ofLittleEndian field
      show _ = kind.code :: (littleEndian 4 (UInt32.ofNat (ofLittleEndian field)).toNat
        ++ slot :: sequence :: status :: error :: chainParameter :: payload)
      rw [kept, written, ResponseKind.code_of_ofCode? opens]
      rfl
  · simp at read

/-- Octets are read as a response exactly when they are its frame. -/
theorem decode_eq_ok_iff {raw : Octets} {response : Response} :
    decode raw = .ok response ↔ raw = response.encode := by
  constructor
  · exact eq_encode_of_decode
  · rintro rfl
    exact decode_encode response

end Response

end Ccid

import Mathlib.Algebra.Ring.Nat
import Ccid.Proofs.Message.Framing

/-!
When a command has a frame, and what that frame says under the code of a response.

Commands and responses share one header, which they divide into different fields. With a response's
code in front, a command's frame is read as a response with the same octets in every field, so the
frame alone tells the command.
-/

namespace Ccid

/-- Kinds of command have different codes. -/
theorem CommandKind.code_injective {first second : CommandKind}
    (same : first.code = second.code) : first = second := by
  -- Ten kinds against ten, of which only the equal pairs share a code.
  revert same
  cases first <;> cases second <;> decide

/-- Why a payload of this length cannot be framed. -/
inductive Unframeable (length : Nat) : EncodingError → Prop
  /-- The frame would need more than one packet. -/
  | packetTooLarge : 55 ≤ length → length < 2 ^ 32 →
    Unframeable length (.packetTooLarge (length + 10) 64)
  /-- The length field cannot count the payload. -/
  | lengthOverflow : 2 ^ 32 ≤ length → Unframeable length (.lengthOverflow length)

/-- A payload beyond one packet is refused for exactly one reason. -/
theorem unframeable_iff_of_large {length : Nat} (large : maxPayloadSize < length)
    {error : EncodingError} : Unframeable length error ↔ error = .ofLength length := by
  -- The length field counts up to 2 ^ 32, and the two reasons lie on either side of that.
  simp only [maxPayloadSize, maxPacketSize, headerSize] at large
  have size : UInt32.size = 2 ^ 32 := rfl
  rw [EncodingError.ofLength, maxPacketSize, headerSize, size, Nat.add_comm]
  constructor
  · intro refused
    cases refused with
    | packetTooLarge _ counted => rw [if_pos counted]
    | lengthOverflow beyond => rw [if_neg (Nat.not_lt.mpr beyond)]
  · rintro rfl
    split
    · exact .packetTooLarge (by omega) ‹_›
    · exact .lengthOverflow (by omega)

/-- The sum of two 64-bit words, unless it needs more than 64 bits. -/
def wordSum? (first second : UInt64) : Option UInt64 :=
  if first.toNat + second.toNat < UInt64.size then some (first + second) else none

/--
The check of a payload's length as it is made in 64-bit words.

Nothing comes of it if a sum overflows. The sum is made only when the length field can count the
payload.
-/
def checkWordLength? (length : UInt64) : Option (Except EncodingError UInt32) :=
  if length.toNat ≥ UInt32.size then some (.error (.lengthOverflow length.toNat))
  else
    (wordSum? 10 length).map fun total =>
      if total.toNat > 64 then .error (.packetTooLarge total.toNat 64) else .ok length.toUInt32

/-- In 64-bit words no sum overflows, and the check comes to the same. -/
theorem checkWordLength?_eq (length : UInt64) :
    checkWordLength? length = some (checkPayloadLength length.toNat) := by
  -- Once the length is below 2 ^ 32, ten more is far below 2 ^ 64.
  unfold checkWordLength? checkPayloadLength
  by_cases counted : length.toNat ≥ UInt32.size
  · rw [if_pos counted, if_pos counted]
  · have small : length.toNat < 2 ^ 32 := Nat.not_le.mp counted
    have room : (10 : UInt64).toNat + length.toNat < UInt64.size := by
      simp only [UInt64.reduceToNat, UInt64.size]
      omega
    have total : (10 + length).toNat = 10 + length.toNat := by
      rw [UInt64.toNat_add]
      exact Nat.mod_eq_of_lt room
    rw [if_neg counted, if_neg counted, wordSum?, if_pos room, Option.map_some, total]
    rfl

namespace Command

/-- A command is framed if its payload fits one packet, and refused for its length otherwise. -/
theorem encode_eq (command : Command) :
    command.encode =
      if command.payload.length ≤ maxPayloadSize then .ok command.frame
      else .error (.ofLength command.payload.length) := by
  -- The check of the length is all that can fail.
  split
  · exact encode_of_fits ‹_›
  · simp only [encode, checkPayloadLength_of_large (Nat.not_le.mp ‹_›), Bind.bind, Except.bind]

/-- A command has a frame exactly if its payload fits one packet, and then it is this one. -/
theorem encode_eq_ok_iff {command : Command} {frame : Octets} :
    command.encode = .ok frame ↔
      command.payload.length ≤ maxPayloadSize ∧ frame = command.frame := by
  -- A frame and a refusal exclude each other.
  rw [encode_eq]
  split
  · simp [*, eq_comm]
  · simp [*]

/-- A command is refused exactly for what is wrong with its payload's length. -/
theorem encode_eq_error_iff {command : Command} {error : EncodingError} :
    command.encode = .error error ↔ Unframeable command.payload.length error := by
  rw [encode_eq]
  split
  · rename_i fits
    -- There is no reason to refuse a payload that fits.
    simp only [maxPayloadSize, maxPacketSize, headerSize] at fits
    constructor
    · intro impossible
      simp at impossible
    · intro refused
      cases refused <;> omega
  · rename_i large
    rw [unframeable_iff_of_large (Nat.not_le.mp large), Except.error.injEq, eq_comm]

/-- A response that says what a command says, field by field, under a kind of its own. -/
structure Echo (command : Command) (opening : ResponseKind) (response : Response) : Prop where
  kind : response.kind = opening
  dataLength : response.dataLength.toNat = command.payload.length
  slot : response.slot = command.slot
  sequence : response.sequence = command.sequence
  /-- The status is where the kind-specific octet is. -/
  status : response.status = ⟨command.reserved⟩
  /-- The parameter's low octet. -/
  error : response.error.toNat = command.parameter.toNat % 256
  /-- The parameter's high octet. -/
  chainParameter : response.chainParameter.toNat = command.parameter.toNat / 256
  payload : response.payload = command.payload
  data : response.data = command.payload

/-- The response that a command's frame is read as under another code. -/
def echo (command : Command) (opening : ResponseKind) : Response :=
  { kind := opening
    dataLength := UInt32.ofNat command.payload.length
    slot := command.slot
    sequence := command.sequence
    status := ⟨command.reserved⟩
    error := UInt8.ofNat command.parameter.toNat
    chainParameter := UInt8.ofNat (command.parameter.toNat / 256)
    payload := command.payload }

/-- The echo of a command says what the command says. -/
theorem echo_of_fits {command : Command} (fits : command.payload.length ≤ maxPayloadSize)
    (opening : ResponseKind) : command.Echo opening (command.echo opening) := by
  have length := toNat_length_of_fits fits
  -- A parameter is two octets wide, so its quotient by 256 is an octet.
  have wide := command.parameter.toNat_lt
  exact
    { kind := rfl
      dataLength := length
      slot := rfl
      sequence := rfl
      status := rfl
      error := UInt8.toNat_ofNat'
      chainParameter := by
        simp only [echo, UInt8.toNat_ofNat']
        omega
      payload := rfl
      data := by
        simp only [Response.data, echo, length]
        exact List.take_length }

/-- The frame of a command's echo is the command's own under the other code. -/
theorem encode_echo {command : Command} (fits : command.payload.length ≤ maxPayloadSize)
    (opening : ResponseKind) :
    (command.echo opening).encode = command.frame.set 0 opening.code := by
  -- After the first octet the two frames are written from the same values.
  simp only [Response.encode, echo, toNat_length_of_fits fits, frame, littleEndian,
    List.cons_append, List.nil_append, List.set_cons_zero]

/-- Two commands of one kind that a response says both of are the same. -/
theorem eq_of_echo {first second : Command} {opening : ResponseKind} {response : Response}
    (one : first.Echo opening response) (other : second.Echo opening response)
    (kind : first.kind = second.kind) : first = second := by
  have slot := one.slot.symm.trans other.slot
  have sequence := one.sequence.symm.trans other.sequence
  have reserved := congrArg SlotStatus.octet (one.status.symm.trans other.status)
  have payload := one.payload.symm.trans other.payload
  -- The two octets of a parameter determine it.
  have parameter : first.parameter = second.parameter := by
    have low := one.error.symm.trans other.error
    have high := one.chainParameter.symm.trans other.chainParameter
    apply UInt16.toNat_inj.mp
    omega
  cases first
  cases second
  simp only [Command.mk.injEq]
  exact ⟨kind, slot, sequence, reserved, parameter, payload⟩

/-- A frame tells the command that it is the frame of. -/
theorem frame_injective {first second : Command} (fits : first.payload.length ≤ maxPayloadSize)
    (small : second.payload.length ≤ maxPayloadSize) (same : first.frame = second.frame) :
    first = second := by
  -- The first octet tells the kind, and the response read under another code the rest.
  have kind : first.kind = second.kind :=
    CommandKind.code_injective (List.cons.inj same).1
  have echoes : first.echo .dataBlock = second.echo .dataBlock := by
    have frames : (first.echo .dataBlock).encode = (second.echo .dataBlock).encode := by
      rw [encode_echo fits, encode_echo small, same]
    have read := congrArg Response.decode frames
    rw [Response.decode_encode, Response.decode_encode] at read
    exact Except.ok.inj read
  have one := echo_of_fits fits .dataBlock
  rw [echoes] at one
  exact eq_of_echo one (echo_of_fits small .dataBlock) kind

end Command

/--
A command has a frame exactly if its payload fits one packet, and the frame alone tells the command.

Any other payload is refused for its length, where no sum overflows 64-bit words. Under the code of
a response, the frame is read as a response that says the same in every field.
-/
theorem commands_framed_in_one_packet (command : Command) :
    let length := command.payload.length
    ((∃ frame, command.encode = .ok frame) ↔ length ≤ 54) ∧
      (∀ error, command.encode = .error error ↔ Unframeable length error) ∧
      (∀ total limit, (EncodingError.packetTooLarge total limit).message
        = "Frame of " ++ total.repr ++ " octets exceeds the single-packet limit of "
          ++ limit.repr ++ " octets") ∧
      (∀ word : UInt64, word.toNat = length →
        checkWordLength? word = some (checkPayloadLength length)) ∧
      (∀ frame, command.encode = .ok frame →
        frame.length = length + 10 ∧ length + 10 ≤ 64 ∧
          ∀ opening : ResponseKind, ∃ response,
            Response.decode (frame.set 0 opening.code) = .ok response ∧
              command.Echo opening response ∧
              response.encode = frame.set 0 opening.code) ∧
      ∀ (other : Command) (frame : Octets),
        command.encode = .ok frame → other.encode = .ok frame → command = other := by
  intro length
  refine ⟨?_, ?_, ?_, ?_, ?_, ?_⟩
  · -- The room for a payload is what 64 octets leave beside the header.
    simp only [Command.encode_eq_ok_iff, exists_and_left, exists_eq, and_true]
    rfl
  · intro error
    exact Command.encode_eq_error_iff
  · intro total limit
    rfl
  · intro word same
    rw [← same]
    exact checkWordLength?_eq word
  · intro frame framed
    obtain ⟨fits, rfl⟩ := Command.encode_eq_ok_iff.mp framed
    have packet : length + 10 ≤ 64 := Nat.add_le_add_right fits 10
    refine ⟨?_, packet, ?_⟩
    · rw [command.length_frame, headerSize, Nat.add_comm]
    · intro opening
      have echoed := Command.encode_echo fits opening
      refine ⟨command.echo opening, ?_, Command.echo_of_fits fits opening, echoed⟩
      rw [← echoed]
      exact Response.decode_encode _
  · intro other frame framed same
    obtain ⟨fits, rfl⟩ := Command.encode_eq_ok_iff.mp framed
    obtain ⟨small, frames⟩ := Command.encode_eq_ok_iff.mp same
    exact Command.frame_injective fits small frames

/-- A transmission of four octets whose frame is read as a data block, and lengths at the limits. -/
theorem commands_framed_in_one_packet_transmission :
    let command : Command :=
      { kind := .xfrBlock, slot := 1, sequence := 255, reserved := 0x80, parameter := 0x1234
        payload := [0x00, 0xA4, 0x04, 0x00] }
    let frame : Octets := [0x6F, 4, 0, 0, 0, 1, 255, 0x80, 0x34, 0x12, 0x00, 0xA4, 0x04, 0x00]
    let large : Command := { command with payload := List.replicate 55 0 }
    let word : UInt64 := 4
    command.encode = .ok frame ∧ word.toNat = command.payload.length ∧
      checkWordLength? word = some (checkPayloadLength 4) ∧
      (∃ response, Response.decode (0x80 :: frame.tail) = .ok response ∧
        command.Echo .dataBlock response) ∧
      large.encode = .error (.packetTooLarge 65 64) ∧
      ∀ other : Command, other.encode = .ok frame → command = other := by
  intro command frame large word
  obtain ⟨_, _, _, words, echoes, only⟩ := commands_framed_in_one_packet command
  have framed : command.encode = .ok frame := by cbv
  obtain ⟨response, read, echo, _⟩ := (echoes frame framed).2.2 .dataBlock
  have refused := (commands_framed_in_one_packet large).2.1 (.packetTooLarge 65 64)
  refine ⟨framed, rfl, words word rfl, ⟨response, read, echo⟩, ?_, ?_⟩
  · exact refused.mpr (.packetTooLarge (by decide) (by decide))
  · intro other same
    exact only other frame framed same

end Ccid

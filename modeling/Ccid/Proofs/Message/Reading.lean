import Ccid.Proofs.Message.Framing

/-!
Which octets are read as a response, and what is read from them.

Responses and the octets that begin with a full header of a known kind belong together one to one:
a response's frame is read back as the response, and what is read has the octets as its frame. Any
other octets are refused for their length or for their first octet.
-/

namespace Ccid

/-- An octet opens no kind of response exactly if it is outside the five codes in a row. -/
theorem ResponseKind.ofCode?_eq_none_iff {code : UInt8} :
    ofCode? code = none ↔ ¬ (0x80 ≤ code ∧ code ≤ 0x84) := by
  -- Among numbers the codes are 128 to 132, with one branch for each of them.
  rw [UInt8.le_iff_toNat_le, UInt8.le_iff_toNat_le]
  simp only [UInt8.reduceToNat]
  unfold ofCode?
  split
  case h_6 => grind
  all_goals
    rename_i value
    rw [value]
    decide

/-- Kinds of response are told apart by their codes. -/
theorem ResponseKind.code_inj {first second : ResponseKind} :
    first.code = second.code ↔ first = second := by
  constructor
  · intro same
    -- Each code opens its own kind.
    have opened := congrArg ofCode? same
    rw [ofCode?_code, ofCode?_code] at opened
    exact Option.some.inj opened
  · exact congrArg code

/-- Why octets are no frame of a response. -/
inductive Unreadable (raw : Octets) : DecodeError → Prop
  /-- A full header is missing, whatever the octets are. -/
  | truncated : raw.length < headerSize → Unreadable raw (.truncated raw.length)
  /-- A full header is there, but its first octet is the code of no kind of response. -/
  | unknownKind {code : UInt8} : headerSize ≤ raw.length → raw.head? = some code →
    ¬ (0x80 ≤ code ∧ code ≤ 0x84) → Unreadable raw (.unknownKind code)

namespace Response

/-- The octets of a frame after its header are the payload. -/
@[simp] theorem drop_encode (response : Response) :
    response.encode.drop headerSize = response.payload := by
  -- The header is ten octets, four of them the announced length.
  simp [encode, littleEndian, headerSize]

/-- What is read from octets carries those after the header, up to the announced length. -/
theorem data_of_decode {raw : Octets} {response : Response} (read : decode raw = .ok response) :
    response.data
      = (raw.drop headerSize).take (min response.dataLength.toNat (raw.length - headerSize)) := by
  -- The octets are the response's frame, so those after the header are its payload.
  rw [eq_encode_of_decode read, drop_encode, length_encode, Nat.add_sub_cancel_left, data_eq]

/-- Octets without a full header are refused for their length. -/
theorem decode_of_short {raw : Octets} (short : raw.length < headerSize) :
    decode raw = .error (.truncated raw.length) := by
  -- Any octets that match the header are ten at least.
  unfold decode
  split
  · simp only [List.length_cons, headerSize] at short
    omega
  · rfl

/-- With a full header, it is the first octet that decides whether a response is read. -/
theorem decode_of_full {raw : Octets} (full : headerSize ≤ raw.length) :
    ∃ code, raw.head? = some code ∧
      match ResponseKind.ofCode? code with
      | none => decode raw = .error (.unknownKind code)
      | some _ => ∃ response, decode raw = .ok response := by
  -- Ten octets or more are a header and a payload, and the other shapes are too short.
  rcases raw with _ | ⟨code, _ | ⟨length₀, _ | ⟨length₁, _ | ⟨length₂, _ | ⟨length₃,
    _ | ⟨slot, _ | ⟨sequence, _ | ⟨status, _ | ⟨error, _ | ⟨chainParameter, payload⟩⟩⟩⟩⟩⟩⟩⟩⟩⟩
  case cons.cons.cons.cons.cons.cons.cons.cons.cons.cons =>
    refine ⟨code, rfl, ?_⟩
    cases opens : ResponseKind.ofCode? code with
    | none => simp only [decode, opens]
    | some kind => simp only [decode, opens, Except.ok.injEq, exists_eq']
  all_goals simp [headerSize] at full

/-- Octets are refused exactly for what they lack. -/
theorem decode_eq_error_iff {raw : Octets} {error : DecodeError} :
    decode raw = .error error ↔ Unreadable raw error := by
  rcases Nat.lt_or_ge raw.length headerSize with short | full
  · -- Too few octets are refused for that, and for nothing else.
    rw [decode_of_short short]
    constructor
    · intro same
      cases same
      exact .truncated short
    · intro unreadable
      cases unreadable with
      | truncated => rfl
      | unknownKind full => omega
  · obtain ⟨code, first, decided⟩ := decode_of_full full
    cases opens : ResponseKind.ofCode? code with
    | none =>
      -- The octet that opens nothing is the one that is named.
      simp only [opens] at decided
      rw [decided]
      constructor
      · intro same
        cases same
        exact .unknownKind full first (ResponseKind.ofCode?_eq_none_iff.mp opens)
      · intro unreadable
        cases unreadable with
        | truncated short => omega
        | unknownKind _ named =>
          cases first.symm.trans named
          rfl
    | some kind =>
      -- A response is read, so there is no error, and no reason for one either.
      simp only [opens] at decided
      obtain ⟨response, read⟩ := decided
      rw [read]
      constructor
      · intro impossible
        simp at impossible
      · intro unreadable
        cases unreadable with
        | truncated short => omega
        | unknownKind _ named outside =>
          cases first.symm.trans named
          simp [ResponseKind.ofCode?_eq_none_iff.mpr outside] at opens

end Response

/--
Responses and the octets that can be read belong together one to one.

What is read carries the octets after the header as its data, as far as its announced length goes,
and all other octets are refused, for their length first and then for the octet that opens them.
-/
theorem responses_match_frames :
    (∀ response : Response, Response.decode response.encode = .ok response) ∧
      (∀ (raw : Octets) (response : Response), Response.decode raw = .ok response →
        response.encode = raw ∧
          response.data = (raw.drop headerSize).take
            (min response.dataLength.toNat (raw.length - headerSize))) ∧
      ∀ (raw : Octets) (error : DecodeError),
        Response.decode raw = .error error ↔ Unreadable raw error := by
  refine ⟨Response.decode_encode, ?_, ?_⟩
  · intro raw response read
    exact ⟨(Response.eq_encode_of_decode read).symm, Response.data_of_decode read⟩
  · intro raw error
    exact Response.decode_eq_error_iff

/-- A frame of four octets after the header that announces two, and two that cannot be read. -/
theorem responses_match_frames_padded :
    let raw : Octets := [0x80, 2, 0, 0, 0, 0, 7, 0, 0, 0, 0x90, 0x00, 0xAA, 0xBB]
    let response : Response :=
      { kind := .dataBlock, dataLength := 2, slot := 0, sequence := 7, status := ⟨0⟩, error := 0
        chainParameter := 0, payload := [0x90, 0x00, 0xAA, 0xBB] }
    Response.decode raw = .ok response ∧ response.encode = raw ∧
      response.data = [0x90, 0x00] ∧
      Response.decode (raw.take 9) = .error (.truncated 9) ∧
      Response.decode (0x85 :: raw.tail) = .error (.unknownKind 0x85) := by
  intro raw response
  obtain ⟨_, read, refused⟩ := responses_match_frames
  have decoded : Response.decode raw = .ok response := rfl
  obtain ⟨encoded, data⟩ := read raw response decoded
  refine ⟨decoded, encoded, data, ?_, ?_⟩
  · exact (refused _ _).mpr (.truncated (by decide))
  · exact (refused _ _).mpr (.unknownKind (by decide) rfl (by decide))

end Ccid

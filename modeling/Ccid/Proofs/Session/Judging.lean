import Ccid.Proofs.Message.Reading
import Ccid.Proofs.Session.Atomicity

/-!
How the transfers that an exchange reads are judged.

Three octets of a full header decide whether a transfer answers the command: its kind, its slot and
its number. Every other transfer is refused for the first of five reasons that applies to it.
-/

namespace Ccid

/-- Octets with a full header, of which the first is the code of a kind of response. -/
def Headed (raw : Octets) (code : UInt8) : Prop :=
  headerSize ≤ raw.length ∧ raw[0]? = some code ∧ 0x80 ≤ code ∧ code ≤ 0x84

namespace Command

/-- Octets that answer a command: a full header with the kind, the slot and the number for it. -/
structure AnsweredBy (command : Command) (raw : Octets) : Prop where
  full : headerSize ≤ raw.length
  kind : raw[0]? = some command.kind.expected.code
  slot : raw[5]? = some command.slot
  number : raw[6]? = some command.sequence

/-- Why octets are no answer to a command; each reason presupposes that those before it are absent. -/
inductive Refuses (command : Command) (raw : Octets) : ExchangeError → Prop
  | short : raw.length < headerSize → Refuses command raw (.shortRead raw.length)
  | unknownKind {code : UInt8} : headerSize ≤ raw.length → raw[0]? = some code →
    ¬ (0x80 ≤ code ∧ code ≤ 0x84) →
    Refuses command raw (.unexpectedKind command.kind.expected code)
  | otherNumber {code actual : UInt8} : Headed raw code → raw[6]? = some actual →
    actual ≠ command.sequence →
    Refuses command raw (.sequenceMismatch command.sequence actual)
  | otherSlot {code actual : UInt8} : Headed raw code → raw[6]? = some command.sequence →
    raw[5]? = some actual → actual ≠ command.slot →
    Refuses command raw (.slotMismatch command.slot actual)
  | otherKind {code : UInt8} : Headed raw code → raw[6]? = some command.sequence →
    raw[5]? = some command.slot → code ≠ command.kind.expected.code →
    Refuses command raw (.unexpectedKind command.kind.expected code)

end Command

/-- The code of a kind of response is one of the five codes in a row. -/
theorem ResponseKind.code_range (kind : ResponseKind) : 0x80 ≤ kind.code ∧ kind.code ≤ 0x84 := by
  cases kind <;> decide

namespace Response

/-- The kind, the slot and the number of a response stand at fixed places of its frame. -/
theorem encode_places (response : Response) :
    response.encode[0]? = some response.kind.code ∧ response.encode[5]? = some response.slot ∧
      response.encode[6]? = some response.sequence := by
  -- One octet of kind and four of length come before the slot, and the number comes after it.
  simp [encode, littleEndian]

/-- The frame of a response has a full header with the code of its kind. -/
theorem headed_encode (response : Response) :
    Headed response.encode response.kind.code := by
  refine ⟨?_, response.encode_places.1, response.kind.code_range⟩
  rw [length_encode]
  exact Nat.le_add_right ..

end Response

/-- The code of octets that are the frame of a response is that of its kind. -/
theorem Headed.code_eq {response : Response} {code : UInt8}
    (headed : Headed response.encode code) : code = response.kind.code := by
  have first := headed.2.1
  rw [response.encode_places.1] at first
  exact (Option.some.inj first).symm

/-- Octets with a full header of a known kind are the frame of a response. -/
theorem Headed.exists_response {raw : Octets} {code : UInt8}
    (headed : Headed raw code) : ∃ response : Response, raw = response.encode := by
  obtain ⟨full, first, known⟩ := headed
  cases read : Response.decode raw with
  | ok response => exact ⟨response, Response.eq_encode_of_decode read⟩
  | error reason =>
    -- Neither a missing header nor an unknown kind can be the reason.
    cases Response.decode_eq_error_iff.mp read with
    | truncated short => omega
    | unknownKind _ named unknown =>
      rw [List.head?_eq_getElem?, first] at named
      cases named
      exact absurd known unknown

section Verdict

variable {command : Command} {raw : Octets}

/-- A transfer is accepted as what it is read as, exactly if it answers the command. -/
theorem checkResponse_ok_iff {response : Response} :
    checkResponse command command.sequence raw = .ok response ↔
      command.AnsweredBy raw ∧ Response.decode raw = .ok response := by
  rw [checkResponse_eq_ok_iff, Response.decode_eq_ok_iff]
  constructor
  · rintro ⟨rfl, number, slot, kind⟩
    obtain ⟨first, sixth, seventh⟩ := response.encode_places
    refine ⟨?_, rfl⟩
    exact
      { full := response.headed_encode.1
        kind := by rw [first, kind]
        slot := by rw [sixth, slot]
        number := by rw [seventh, number] }
  · rintro ⟨answered, rfl⟩
    -- What the frame has at the three places is what the response has in the three fields.
    obtain ⟨first, sixth, seventh⟩ := response.encode_places
    have kind := answered.kind
    have slot := answered.slot
    have number := answered.number
    rw [first, Option.some.injEq, ResponseKind.code_inj] at kind
    rw [sixth, Option.some.injEq] at slot
    rw [seventh, Option.some.injEq] at number
    exact ⟨rfl, number, slot, kind⟩

/-- Octets that answer a command are read as a response. -/
theorem Command.AnsweredBy.exists_decode (answered : command.AnsweredBy raw) :
    ∃ response, Response.decode raw = .ok response := by
  have headed : Headed raw command.kind.expected.code :=
    ⟨answered.full, answered.kind, command.kind.expected.code_range⟩
  obtain ⟨response, rfl⟩ := headed.exists_response
  exact ⟨response, response.decode_encode⟩

/-- A transfer with a reason to be refused is refused for that reason. -/
theorem Command.Refuses.check_eq {error : ExchangeError} (refuses : command.Refuses raw error) :
    checkResponse command command.sequence raw = .error error := by
  cases refuses with
  | short short => simp only [checkResponse, Response.decode_of_short short]
  | unknownKind full first unknown =>
    rw [← List.head?_eq_getElem?] at first
    have unread := Response.decode_eq_error_iff.mpr (.unknownKind full first unknown)
    simp only [checkResponse, unread]
  | otherNumber headed seventh other =>
    obtain ⟨response, rfl⟩ := headed.exists_response
    rw [response.encode_places.2.2] at seventh
    cases seventh
    exact checkResponse_of_otherNumber command other
  | otherSlot headed seventh sixth other =>
    obtain ⟨response, rfl⟩ := headed.exists_response
    rw [response.encode_places.2.2, Option.some.injEq] at seventh
    rw [response.encode_places.2.1] at sixth
    cases sixth
    rw [checkResponse_encode, if_neg (not_not_intro seventh), if_pos other]
  | otherKind headed seventh sixth other =>
    obtain ⟨response, rfl⟩ := headed.exists_response
    rw [response.encode_places.2.2, Option.some.injEq] at seventh
    rw [response.encode_places.2.1, Option.some.injEq] at sixth
    rw [headed.code_eq, ne_eq, ResponseKind.code_inj] at other
    rw [checkResponse_encode, if_neg (not_not_intro seventh), if_neg (not_not_intro sixth),
      if_pos other, headed.code_eq]

/-- A transfer that is refused has the reason that it is refused for. -/
theorem Command.refuses_of_check {error : ExchangeError}
    (refused : checkResponse command command.sequence raw = .error error) :
    command.Refuses raw error := by
  cases read : Response.decode raw with
  | error reason =>
    simp only [checkResponse, read] at refused
    cases Response.decode_eq_error_iff.mp read with
    | truncated short =>
      cases refused
      exact .short short
    | unknownKind full first unknown =>
      cases refused
      rw [List.head?_eq_getElem?] at first
      exact .unknownKind full first unknown
  | ok response =>
    -- The comparisons come in the order of the reasons, and the first that fails ends the check.
    obtain rfl := Response.eq_encode_of_decode read
    have headed := response.headed_encode
    obtain ⟨_, sixth, seventh⟩ := response.encode_places
    rw [checkResponse_encode] at refused
    by_cases number : response.sequence = command.sequence
    · rw [if_neg (not_not_intro number)] at refused
      rw [number] at seventh
      by_cases slot : response.slot = command.slot
      · rw [if_neg (not_not_intro slot)] at refused
        rw [slot] at sixth
        by_cases kind : response.kind = command.kind.expected
        · simp [kind] at refused
        · rw [if_pos kind] at refused
          cases refused
          exact .otherKind headed seventh sixth (mt ResponseKind.code_inj.mp kind)
      · rw [if_pos slot] at refused
        cases refused
        exact .otherSlot headed seventh sixth slot
    · rw [if_pos number] at refused
      cases refused
      exact .otherNumber headed seventh number

end Verdict

/-- A judgement of transfers that accepts the answers to a command and gives every refusal's reason. -/
structure Command.JudgedBy (command : Command) (check : Octets → Except ExchangeError Response) :
    Prop where
  accepted : ∀ raw, (∃ response, check raw = .ok response) ↔ command.AnsweredBy raw
  yielded : ∀ raw response, check raw = .ok response → Response.decode raw = .ok response
  refused : ∀ raw error, check raw = .error error ↔ command.Refuses raw error

/-- Transfers are judged like this when they are compared with a command's own number. -/
theorem Command.judgedBy_check (command : Command) :
    command.JudgedBy (checkResponse command command.sequence) :=
  { accepted := by
      intro raw
      constructor
      · rintro ⟨response, accepted⟩
        exact (checkResponse_ok_iff.mp accepted).1
      · intro answered
        obtain ⟨response, read⟩ := answered.exists_decode
        exact ⟨response, checkResponse_ok_iff.mpr ⟨answered, read⟩⟩
    yielded := by
      intro raw response accepted
      exact (checkResponse_ok_iff.mp accepted).2
    refused := by
      intro raw error
      exact ⟨command.refuses_of_check, Command.Refuses.check_eq⟩ }

/--
An exchange compares what it reads with the number in the command that it answers, and accepts a
transfer exactly if that has a full header with the kind, the slot and the number for the command.

What is accepted is yielded as it is read; everything else is refused for the first reason that
applies: its length, an unknown kind, its number, its slot, and at last its kind.
-/
theorem transfers_judged_by_header {Fault : Type} [BulkFault Fault] (session : Session Fault)
    (kind : CommandKind) (reserved : UInt8) (payload : Octets) :
    let command := session.command kind reserved payload
    let issued : Session Fault := { session with sequence := session.sequence.advance }
    let step := session.exchange kind reserved payload
    issued.sequence.current = command.sequence ∧
      command.JudgedBy (checkResponse command issued.sequence.current) ∧
      (payload.length ≤ maxPayloadSize →
        step.session.sequence.current = command.sequence ∧
          ∃ frame, step.written = [frame] ∧ frame[6]? = some step.session.sequence.current ∧
            ((session.pipe.write frame).1 = .ok frame.length →
              step.answer = (awaitAnswer (checkResponse command step.session.sequence.current)
                session.config.maxTimeExtensions session.config.timeout 0
                session.pipe.replies).answer)) := by
  intro command issued step
  have exchanged : Exchanged session command step :=
    exchange_exchanged session kind reserved payload
  have current : issued.sequence.current = command.sequence :=
    session.sequence.current_advance
  refine ⟨current, by rw [current]; exact command.judgedBy_check, fun fits => ?_⟩
  have written : step.written = [command.frame] := exchanged.written_eq.trans (if_pos fits)
  -- One frame is written, so the tracker has moved on by one number.
  have advanced : step.session.sequence = session.sequence.advance := by
    have upcoming := exchanged.upcoming_eq
    rw [written] at upcoming
    exact congrArg Sequence.mk upcoming
  have number : step.session.sequence.current = command.sequence := by
    rw [advanced]
    exact current
  refine ⟨number, command.frame, written, ?_, fun whole => ?_⟩
  · rw [number]
    exact command.frame_sequence
  · rw [number]
    exact (exchanged.of_whole fits whole).1

/-- An escape command around the end of the numbers: an answer, a stale frame, and other frames. -/
theorem transfers_judged_by_header_escape :
    let session : Session TransportError :=
      { config := { Config.default with slot := 2 }, sequence := ⟨255⟩, lastAtr := none
        power := .unknown, pipe := { writes := [], replies := [] } }
    let command := session.command .escape 0 [0xAA]
    let current := session.sequence.advance.current
    let raw (code slot number : UInt8) : Octets := [code, 0, 0, 0, 0, slot, number, 0xC0, 1, 2, 3]
    (∃ response, checkResponse command current (raw 0x83 2 255) = .ok response) ∧
      checkResponse command current (raw 0x85 1 254) = .error (.unexpectedKind .escape 0x85) ∧
      checkResponse command current (raw 0x80 1 254) = .error (.sequenceMismatch 255 254) ∧
      checkResponse command current (raw 0x80 1 255) = .error (.slotMismatch 2 1) ∧
      checkResponse command current (raw 0x80 2 255) = .error (.unexpectedKind .escape 0x80) ∧
      checkResponse command current ((raw 0x83 2 255).take 9) = .error (.shortRead 9) ∧
      (session.exchange .escape 0 [0xAA]).session.sequence.current = 255 := by
  intro session command current raw
  obtain ⟨_, judged, written⟩ := transfers_judged_by_header session .escape 0 [0xAA]
  have headed : ∀ slot number, Headed (raw 0x80 slot number) 0x80 := by
    intro slot number
    exact ⟨Nat.le_add_right 10 1, rfl, by decide, by decide⟩
  refine ⟨?_, ?_, ?_, ?_, ?_, ?_, (written (by decide)).1⟩
  · exact (judged.accepted _).mpr ⟨by decide, rfl, rfl, rfl⟩
  · exact (judged.refused _ _).mpr (.unknownKind (by decide) rfl (by decide))
  · exact (judged.refused _ _).mpr (.otherNumber (headed 1 254) rfl (by decide))
  · exact (judged.refused _ _).mpr (.otherSlot (headed 1 255) rfl rfl (by decide))
  · exact (judged.refused _ _).mpr (.otherKind (headed 2 255) rfl rfl (by decide))
  · exact (judged.refused _ _).mpr (.short (by decide))

end Ccid

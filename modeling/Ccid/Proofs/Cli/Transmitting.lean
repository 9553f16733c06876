import Ccid.Proofs.Cli.Reporting
import Ccid.Proofs.Hex.Decoding

/-!
What becomes of the text that a command line gives to be sent to the card.

A text that is no even number of digits is refused before the bus is looked at. Any other text is
the octets that it denotes: they are written in one frame after the power-on, if that succeeds and
they fit. What is printed in the end is the digits of what the card answered to them.
-/

namespace Ccid

/-- A length of one packet takes one octet of the four that it is written in. -/
theorem littleEndian_of_fits {length : Nat} (fits : length ≤ 54) :
    littleEndian 4 length = [UInt8.ofNat length, 0, 0, 0] := by
  have quotient : length / 256 = 0 := by omega
  simp [littleEndian, quotient]

namespace Usb

/-- The frame that something seen on a bus writes, if it is a write. -/
def Event.written? : Event → Option Octets
  | .write _ frame _ _ => some frame
  | _ => none

/-- The frames that are written on a bus, in their order. -/
def written (events : List Event) : List Octets :=
  events.filterMap Event.written?

/-- The frames written in two parts are those of the first and then those of the second. -/
theorem written_append (first second : List Event) :
    written (first ++ second) = written first ++ written second :=
  List.filterMap_append ..

/-- Of what is seen on a bus, only transfers write. -/
theorem written_transfers (events : List Event) : written (transfers events) = written events := by
  have same : (fun event : Event => if event.isTransfer then event.written? else none)
      = Event.written? := by
    funext event
    cases event <;> rfl
  rw [written, transfers, List.filterMap_filter, same, written]

/-- Of what is seen of a session on its reader, the session's own writes are the writes. -/
theorem written_observed (reader : Reader) (events : List (Ccid.Event Fault)) :
    written (reader.observed events) = events.filterMap Ccid.Event.written? := by
  have same : Event.written? ∘ Event.ofSession reader.endpoints = Ccid.Event.written? := by
    funext event
    cases event <;> rfl
  rw [written, Reader.observed, List.filterMap_map, same]

end Usb

namespace Cli

/-- A sending writes the power-on, and then the octets if the power-on succeeds and they fit. -/
theorem Transmitted.written_eq {apdu : Octets} {session : Session Usb.Fault} {use : Use}
    (transmitted : Transmitted apdu session use) (counted : session.HasWritten 0) :
    use.events.filterMap Event.written? =
      Operation.powerOn.octets session.config 0 ::
        if session.powerOn.answer.isOk = true ∧ apdu.length ≤ maxPayloadSize then
          [(Operation.transmit apdu).octets session.config 1]
        else [] := by
  have fits : Operation.powerOn.payload.length ≤ maxPayloadSize := by decide
  have switched : session.powerOn.events.filterMap Event.written?
      = [Operation.powerOn.octets session.config 0] :=
    Session.written_perform_of_count counted .powerOn
  cases transmitted with
  | unpowered failed =>
    -- The power-on failed, so that it is all that was sent.
    rw [switched, failed]
    rfl
  | sent powered =>
    -- The octets go out under the number after the power-on's.
    have next := counted.perform_of_fits fits
    have sent : (session.powerOn.session.transmit apdu).events.filterMap Event.written?
        = if apdu.length ≤ maxPayloadSize then _ else _ :=
      (session.perform .powerOn).session.written_perform (.transmit apdu)
    rw [List.filterMap_append, switched, sent, Session.frame_commandFor next,
      Session.config_perform, powered]
    simp [Except.isOk, Except.toBool]

/-- A command line fails for its text, whatever the bus is, and nothing is seen of it there. -/
def Invocation.Refused (invocation : Invocation) : Prop :=
  ∃ error, ∀ bus, invocation.run bus = { outcome := .error (.hex error), events := [] }

/-- What is written for octets: the power-on, and their block if that succeeds and they fit. -/
def Invocation.sentFrames (invocation : Invocation) (session : Session Usb.Fault)
    (apdu : Octets) : List Octets :=
  [0x62, 0, 0, 0, 0, invocation.slot, 0, 1, 0, 0] ::
    if session.powerOn.answer.isOk = true ∧ apdu.length ≤ 54 then
      [[0x6F, UInt8.ofNat apdu.length, 0, 0, 0, invocation.slot, 1, 0, 0, 0] ++ apdu]
    else []

namespace Invocation

variable {invocation : Invocation} {bus : Usb.Bus} {apdu : Octets}
  {use : Octets → Session Usb.Fault → Use}

/-- The frames for octets are those of a power-on and of a transmission, in one slot. -/
theorem sentFrames_eq (invocation : Invocation) (session : Session Usb.Fault) (apdu : Octets) :
    Operation.powerOn.octets invocation.config 0 ::
        (if session.powerOn.answer.isOk = true ∧ apdu.length ≤ maxPayloadSize then
          [(Operation.transmit apdu).octets invocation.config 1]
        else [])
      = invocation.sentFrames session apdu := by
  have largest : maxPayloadSize = 54 := rfl
  rw [largest, sentFrames]
  by_cases sent : session.powerOn.answer.isOk = true ∧ apdu.length ≤ 54
  · have length := littleEndian_of_fits sent.2
    rw [if_pos sent, if_pos sent]
    simp only [Operation.octets, Operation.payload, length]
    rfl
  · rw [if_neg sent, if_neg sent]
    rfl

/-- Until a command line has its reader, nothing is written. -/
theorem written_arrival (invocation : Invocation) (bus : Usb.Bus) :
    Usb.written (invocation.arrival bus) = [] := by
  rw [← Usb.written_transfers, transfers_arrival]
  rfl

/-- A visit that comes to no session writes nothing. -/
theorem written_of_unopened {use : Session Usb.Fault → Use}
    (unopened : ¬ ∃ session, invocation.Opens bus session) :
    Usb.written (invocation.withSession bus use).events = [] := by
  rcases (invocation.withSession_visited bus use).transfers_eq with silent | visited
  · rw [← Usb.written_transfers, silent]
    rfl
  · obtain ⟨reader, session, claimed, started, _⟩ := visited
    exact absurd ⟨session, reader, claimed, started⟩ unopened

/-- A visit for sending octets writes their frames. -/
theorem written_of_opens {session : Session Usb.Fault} (opened : invocation.Opens bus session) :
    Usb.written (invocation.withSession bus (transmit apdu)).events
      = invocation.sentFrames session apdu := by
  -- The visit is its arrival, the writes of the session, and the reader put away.
  obtain ⟨reader, claimed, started⟩ := opened
  obtain ⟨settings, _, counted⟩ := Session.of_start started
  have sent := (transmit_transmitted apdu session).written_eq counted
  have visit := (invocation.withSession_visited bus (transmit apdu)).eq_of_start claimed started
  have silent : Usb.written reader.putAway = [] := rfl
  rw [visit, Usb.written_append, Usb.written_append, written_arrival, Usb.written_observed, silent,
    sent, settings, sentFrames_eq, List.nil_append, List.append_nil]

/-- A command line that uses what a text denotes is refused if that is not digits in pairs. -/
theorem refused_iff {text : String}
    (uses : ∀ bus, invocation.run bus
      = withOctets text fun octets => invocation.withSession bus (use octets)) :
    invocation.Refused ↔ ¬ Hex.Paired text.toList := by
  rw [← Hex.exists_decode_error_iff]
  -- The octets are asked for before the bus is, so a failure of the text comes first.
  constructor
  · rintro ⟨error, refused⟩
    cases decoded : Hex.decode text with
    | error other => exact ⟨other, rfl⟩
    | ok octets =>
      -- On a bus that cannot be reached, the run would have failed for that.
      have unreachable := (uses ⟨.error .io⟩).symm.trans (refused ⟨.error .io⟩)
      simp [withOctets, decoded, withSession, Usb.Bus.claimReader] at unreachable
  · rintro ⟨error, decoded⟩
    exact ⟨error, fun bus => by rw [uses, withOctets, decoded]⟩

/-- A run that sends what its text denotes is a visit for those octets. -/
theorem run_of_denotes {text : String} (asked : invocation.action = .transmit text)
    (denotes : Hex.Denotes (text.toList.filter (· != ' ')) apdu) :
    invocation.run bus = invocation.withSession bus (transmit apdu) := by
  have spaced : (String.ofList (text.toList.filter (· != ' '))).toList
      = text.toList.filter (· != ' ') := String.toList_ofList
  rw [← spaced, ← Hex.decode_eq_ok_iff] at denotes
  -- The blanks are taken out of the text before it is decoded.
  simp only [run, asked, withOctets, denotes]

/-- A sending that succeeds prints the data of the answer to the octets. -/
theorem exists_reply_of_exitCode {text : String} (asked : invocation.action = .transmit text)
    (denotes : Hex.Denotes (text.toList.filter (· != ' ')) apdu)
    (succeeds : (invocation.outcome bus).exitCode = 0) :
    ∃ session reply, invocation.Opens bus session ∧
      session.powerOn.session.Answered 1 (.transmit apdu) reply ∧
      (invocation.outcome bus).output
        = (Report.answer reply.answer.data).printed invocation.json := by
  obtain ⟨told, reported⟩ := exitCode_outcome_iff.mp succeeds
  have visited := reported
  rw [run_of_denotes asked denotes, outcome_withSession_iff] at visited
  obtain ⟨session, opened, used⟩ := visited
  obtain ⟨atr, octets, _, answered, rfl⟩ := (transmit_transmitted apdu session).outcome_iff.mp used
  obtain ⟨reader, claimed, started⟩ := opened
  obtain ⟨_, _, counted⟩ := Session.of_start started
  have fits : Operation.powerOn.payload.length ≤ maxPayloadSize := by decide
  have next : session.powerOn.session.HasWritten 1 := counted.perform_of_fits fits
  -- The octets that the transmission yields are the data of the reply that answers it.
  have performed : (session.powerOn.session.perform (.transmit apdu)).answer = .ok (.data octets) :=
    (Step.answer_map_eq_ok_iff Answer.data.inj).mpr answered
  obtain ⟨reply, decided, concluded⟩ := (Session.perform_answer_eq_ok_iff next).mp performed
  obtain ⟨_, _, content⟩ := (Operation.conclude_eq_ok_iff rfl).mp concluded
  have data : octets = reply.answer.data :=
    (Answer.data.inj content).trans reply.answer.data_eq.symm
  refine ⟨session, reply, ⟨reader, claimed, started⟩, decided, ?_⟩
  rw [outcome, reported, data]

end Invocation

/-- Octets in digits are what these denote. -/
theorem denotes_upper (octets : Octets) : Hex.Denotes (Hex.upper octets).toList octets :=
  Hex.decode_eq_ok_iff.mp (Hex.decode_digits .upper octets)

/--
What is sent for a text is the octets that it denotes, its blanks passed over, and nothing else.

A text that is no even number of digits is refused before the bus is touched; so is the text that
tells how a card is expected to open, in which blanks are no digits. On success, the digits printed
denote what the card answered to the octets.
-/
theorem transmit_sends_denoted {words : List String} {invocation : Invocation}
    (read : Invocation.ofWords words = .ok invocation) :
    (∀ text, invocation.action = .check text →
      (invocation.Refused ↔ ¬ Hex.Paired text.toList)) ∧
      ∀ text, invocation.action = .transmit text →
        let digits := text.toList.filter (· != ' ')
        (invocation.Refused ↔ ¬ Hex.Paired digits) ∧
          ∀ apdu, Hex.Denotes digits apdu → ∀ bus,
            ((¬ ∃ session, invocation.Opens bus session) →
              Usb.written (invocation.run bus).events = []) ∧
            (∀ session, invocation.Opens bus session →
              Usb.written (invocation.run bus).events = invocation.sentFrames session apdu) ∧
            ((program words bus).exitCode = 0 →
              ∃ session reply printed, invocation.Opens bus session ∧
                session.powerOn.session.Answered 1 (.transmit apdu) reply ∧
                (program words bus).output
                  = (if invocation.json then (Json.obj [("response", .str printed)]).pretty
                      else printed) ++ "\n" ∧
                Hex.Denotes printed.toList
                  (reply.answer.payload.take reply.answer.dataLength.toNat)) := by
  refine ⟨fun text asked => ?_, fun text asked => ?_⟩
  · exact Invocation.refused_iff fun bus => by rw [Invocation.run, asked]
  · intro digits
    refine ⟨?_, fun apdu denotes bus => ?_⟩
    · have spelled : (String.ofList digits).toList = digits := String.toList_ofList
      rw [← spelled]
      exact Invocation.refused_iff fun bus => by rw [Invocation.run, asked]
    · have visit : invocation.run bus = invocation.withSession bus (transmit apdu) :=
        Invocation.run_of_denotes asked denotes
      -- The words can be read, so the program does what its command line asks for.
      have followed : program words bus = invocation.outcome bus := by simp only [program, read]
      rw [visit, followed]
      refine ⟨Invocation.written_of_unopened, fun _ => Invocation.written_of_opens, ?_⟩
      -- What is printed is the data in digits, and these denote it.
      intro succeeds
      obtain ⟨session, reply, opened, decided, output⟩ :=
        Invocation.exists_reply_of_exitCode asked denotes succeeds
      refine ⟨session, reply, Hex.upper reply.answer.data, opened, decided, ?_, denotes_upper _⟩
      rw [output, Report.printed, Report.json, Report.text]

/-- A text in both cases is sent as its octets, and one with an odd digit is refused. -/
theorem transmit_sends_denoted_select :
    let on := plainAnswer .dataBlock 0 [0x3B]
    let answer := plainAnswer .dataBlock 1 [0x90, 0x00]
    let device : Usb.Device :=
      { (plainCycle false).reader.device with
        pipe := { writes := [], replies := [.ok on.encode, .ok answer.encode] } }
    let bus : Usb.Bus := { devices := .ok [device] }
    let selecting : Invocation := { plainCheck with action := .transmit "00 a4 040C" }
    let forProgram : Invocation := { selecting with json := true }
    let odd : Invocation := { plainCheck with action := .transmit "00 A" }
    let words := ["transmit", "00 a4 040C"]
    Invocation.ofWords words = .ok selecting ∧
      Usb.written (selecting.run bus).events
        = [[0x62, 0, 0, 0, 0, 0, 0, 1, 0, 0],
          [0x6F, 4, 0, 0, 0, 0, 1, 0, 0, 0, 0x00, 0xA4, 0x04, 0x0C]] ∧
      (program words bus).exitCode = 0 ∧
      (∃ session reply printed, selecting.Opens bus session ∧
        session.powerOn.session.Answered 1 (.transmit [0x00, 0xA4, 0x04, 0x0C]) reply ∧
        (program words bus).output = printed ++ "\n" ∧
        Hex.Denotes printed.toList (reply.answer.payload.take reply.answer.dataLength.toNat)) ∧
      Invocation.ofWords ("--json" :: words) = .ok forProgram ∧
      (program ("--json" :: words) bus).output = "\x7b\n  \"response\": \"9000\"\n\x7d\n" ∧
      (∃ session reply printed, forProgram.Opens bus session ∧
        session.powerOn.session.Answered 1 (.transmit [0x00, 0xA4, 0x04, 0x0C]) reply ∧
        (program ("--json" :: words) bus).output
          = (Json.obj [("response", .str printed)]).pretty ++ "\n" ∧
        Hex.Denotes printed.toList (reply.answer.payload.take reply.answer.dataLength.toNat)) ∧
      Invocation.ofWords ["transmit", "00 A"] = .ok odd ∧ odd.Refused := by
  intro on answer device bus selecting forProgram odd words
  have read : Invocation.ofWords words = .ok selecting := by cbv
  have readForProgram : Invocation.ofWords ("--json" :: words) = .ok forProgram := by cbv
  have oddRead : Invocation.ofWords ["transmit", "00 A"] = .ok odd := by cbv
  have denotes : Hex.Denotes ("00 a4 040C".toList.filter (· != ' ')) [0x00, 0xA4, 0x04, 0x0C] := by
    have decoded : Hex.decode "00a4040C" = .ok [0x00, 0xA4, 0x04, 0x0C] := rfl
    exact Hex.decode_eq_ok_iff.mp decoded
  obtain ⟨_, sending⟩ := transmit_sends_denoted read
  obtain ⟨_, sent⟩ := sending "00 a4 040C" rfl
  obtain ⟨_, written, printing⟩ := sent _ denotes bus
  obtain ⟨_, sendingForProgram⟩ := transmit_sends_denoted readForProgram
  obtain ⟨_, sentForProgram⟩ := sendingForProgram "00 a4 040C" rfl
  obtain ⟨_, _, printingForProgram⟩ := sentForProgram _ denotes bus
  let session : Session Usb.Fault :=
    { config := selecting.config, sequence := .initial, lastAtr := none, power := .unknown
      pipe := device.pipe }
  have opened : selecting.Opens bus session :=
    ⟨⟨device, ⟨0, 0x81, 0x02⟩⟩, rfl, Session.start_of_valid (by cbv)⟩
  -- The form of the report makes no difference to the run.
  have succeeded : ∀ asJson, (Invocation.run { selecting with json := asJson } bus).outcome
      = .ok (.answer [0x90, 0x00]) := by
    intro asJson
    rw [Invocation.run_of_denotes rfl denotes]
    cbv
  have success : (program words bus).exitCode = 0 := by
    rw [program, read]
    exact Invocation.exitCode_outcome_iff.mpr ⟨_, succeeded false⟩
  have successForProgram : (program ("--json" :: words) bus).exitCode = 0 := by
    rw [program, readForProgram]
    exact Invocation.exitCode_outcome_iff.mpr ⟨_, succeeded true⟩
  have printedForProgram : (program ("--json" :: words) bus).output
      = "\x7b\n  \"response\": \"9000\"\n\x7d\n" := by
    simp only [program, readForProgram, Invocation.outcome, forProgram, succeeded true]
    decide +kernel
  obtain ⟨_, refusing⟩ := transmit_sends_denoted oddRead
  refine ⟨read, (written session opened).trans (by cbv), success, printing success,
    readForProgram, printedForProgram, printingForProgram successForProgram, oddRead, ?_⟩
  exact (refusing "00 A" rfl).1.mpr fun paired => absurd paired.1 (by decide)

end Cli

end Ccid

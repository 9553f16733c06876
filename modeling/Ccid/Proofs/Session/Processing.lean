import Ccid.Proofs.Session.Recovery
import Ccid.Proofs.Session.Transfers

/-!
From which responses data is taken.

A wait takes no request for more time for an answer, and a power-on or a transmission refuses a
response that reports a failure. That leaves two of the four statuses: data is taken from a response
to a command that was processed, but from one with the reserved status as well.
-/

namespace Ccid

/-- The two highest bits of a status octet by which it tells a command's outcome. -/
def CommandStatus.bits : CommandStatus → Nat
  | .processed => 0
  | .failed => 1
  | .timeExtension => 2
  | .reserved => 3

/-- A status tells an outcome exactly by the bits that stand for it. -/
theorem SlotStatus.command_eq_iff {status : SlotStatus} {outcome : CommandStatus} :
    status.command = outcome ↔ status.octet.toNat / 64 = outcome.bits := by
  -- The two bits have four values, one for each outcome.
  have bound := status.octet.toNat_lt
  have quarter : status.octet.toNat / 64 < 4 := by omega
  unfold command
  generalize status.octet.toNat / 64 = value at quarter ⊢
  match value, quarter with
  | 0, _ | 1, _ | 2, _ | 3, _ => cases outcome <;> decide

/-- A status reports a failure exactly if that is the command's outcome. -/
theorem SlotStatus.isFailed_iff {status : SlotStatus} :
    status.isFailed = true ↔ status.command = .failed :=
  beq_iff_eq

/-- A status reports no failure exactly if the command's outcome is another one. -/
theorem SlotStatus.isFailed_eq_false_iff {status : SlotStatus} :
    status.isFailed = false ↔ status.command ≠ .failed :=
  beq_eq_false_iff_ne

namespace Operation

/-- Whether a call takes data from the response to its command. -/
def takesData : Operation → Bool
  | .powerOn | .transmit _ => true
  | .powerOff | .slotStatus => false

/-- A call that takes data takes it from every response that neither failed nor is a part of one. -/
theorem conclude_eq_ok_iff {operation : Operation} (takes : operation.takesData = true)
    {response : Response} {answer : Answer} :
    operation.conclude response = .ok answer ↔
      response.status.command ≠ .failed ∧
        (∀ apdu, operation = .transmit apdu → response.chainParameter = 0) ∧
        answer = operation.content response := by
  -- A response that reports no failure is accepted, and its data is its payload's first octets.
  rw [ne_eq, ← SlotStatus.isFailed_iff]
  cases failed : response.status.isFailed with
  | true =>
    cases operation with
    | powerOn => simp [conclude, Response.accepted, failed, Except.map]
    | transmit apdu => simp [conclude, Response.accepted, failed, Except.bind]
    | powerOff | slotStatus => simp [takesData] at takes
  | false =>
    cases operation with
    | powerOn =>
      simp [conclude, content, Response.accepted, failed, Except.map, ← response.data_eq, eq_comm]
    | transmit apdu =>
      by_cases whole : response.chainParameter = 0
      · simp [conclude, content, Response.accepted, failed, Except.bind, whole,
          ← response.data_eq, eq_comm]
      · simp [conclude, Response.accepted, failed, Except.bind, whole]
    | powerOff | slotStatus => simp [takesData] at takes

/-- A call that takes data has no effect on the card, or that of the Answer-To-Reset it yields. -/
theorem effect?_of_takesData {operation : Operation} (takes : operation.takesData = true)
    (answer : Except ExchangeError Answer) :
    operation.effect? answer = none ∨
      ∃ atr, answer = .ok (.atr atr) ∧ operation.effect? answer = some ⟨.poweredOn, some atr⟩ := by
  unfold effect?
  split
  case h_1 atr => exact .inr ⟨atr, rfl, rfl⟩
  case h_2 => simp [takesData] at takes
  case h_3 => exact .inl rfl

end Operation

variable {Fault : Type} [BulkFault Fault]

namespace Session

variable {session : Session Fault} {number : Nat} {operation : Operation}

/-- Replies that decide one call give it the same answer. -/
theorem Answered.answer_unique (counted : session.HasWritten number) {first second : Reply}
    (one : session.Answered number operation first)
    (other : session.Answered number operation second) : first.answer = second.answer := by
  -- Either one is what the call's exchange yields.
  have yielded := (issue_ok_iff counted).mpr ⟨first, one, rfl⟩
  rw [(issue_ok_iff counted).mpr ⟨second, other, rfl⟩] at yielded
  exact (Except.ok.inj yielded).symm

/-- A call that takes data has it from an answer with one of two statuses, and from every such. -/
theorem perform_ok_iff (counted : session.HasWritten number) (takes : operation.takesData = true)
    {answer : Answer} :
    (session.perform operation).answer = .ok answer ↔
      ∃ reply, session.Answered number operation reply ∧
        (reply.answer.status.command = .processed ∨ reply.answer.status.command = .reserved) ∧
        (∀ apdu, operation = .transmit apdu → reply.answer.chainParameter = 0) ∧
        answer = operation.content reply.answer := by
  rw [perform_answer_eq_ok_iff counted]
  refine exists_congr fun reply => and_congr_right fun decided => ?_
  -- The wait takes no request for more time, and the call takes no failure.
  have decisive := decided.decides.decisive
  have sound : reply.answer.status.command ≠ .failed ↔
      reply.answer.status.command = .processed ∨ reply.answer.status.command = .reserved := by
    cases outcome : reply.answer.status.command <;> simp_all
  rw [Operation.conclude_eq_ok_iff takes, sound]

/-- Data that a call hands on, or keeps, is from the answer to a command that was processed. -/
structure OnlyProcessed (session : Session Fault) (number : Nat) (operation : Operation) :
    Prop where
  handed : ∀ answer, (session.perform operation).answer = .ok answer →
    ∃ reply, session.Answered number operation reply ∧
      reply.answer.status.command = .processed ∧ answer = operation.content reply.answer
  recorded : (session.perform operation).session.card = session.card ∨
    ∃ reply atr, session.Answered number operation reply ∧
      reply.answer.status.command = .processed ∧ .atr atr = operation.content reply.answer ∧
      (session.perform operation).session.card = ⟨.poweredOn, some atr⟩

/-- A call gets an answer with the reserved status that it has no other reason to refuse. -/
def MeetsReserved (session : Session Fault) (number : Nat) (operation : Operation) : Prop :=
  ∃ reply, session.Answered number operation reply ∧ reply.answer.status.command = .reserved ∧
    ∀ apdu, operation = .transmit apdu → reply.answer.chainParameter = 0

/-- A call takes data from processed commands only, unless it meets the reserved status. -/
theorem onlyProcessed_iff (counted : session.HasWritten number)
    (takes : operation.takesData = true) :
    session.OnlyProcessed number operation ↔ ¬ session.MeetsReserved number operation := by
  constructor
  · rintro only ⟨reply, decided, outcome, whole⟩
    -- The call takes data from the answer, which is not that of a processed command.
    obtain ⟨other, also, processed, _⟩ := only.handed _
      ((perform_ok_iff counted takes).mpr ⟨reply, decided, .inr outcome, whole, rfl⟩)
    rw [decided.answer_unique counted also, processed] at outcome
    contradiction
  · intro unmet
    have handed : ∀ answer, (session.perform operation).answer = .ok answer →
        ∃ reply, session.Answered number operation reply ∧
          reply.answer.status.command = .processed ∧ answer = operation.content reply.answer := by
      intro answer answered
      obtain ⟨reply, decided, outcome, whole, content⟩ :=
        (perform_ok_iff counted takes).mp answered
      rcases outcome with processed | reserved
      · exact ⟨reply, decided, processed, content⟩
      · exact absurd ⟨reply, decided, reserved, whole⟩ unmet
    refine { handed, recorded := ?_ }
    -- What is recorded of the card is the effect of what is handed on, if there is any.
    have card := session.card_perform operation
    rcases Operation.effect?_of_takesData takes (session.perform operation).answer with
      idle | ⟨atr, answered, effect⟩
    · rw [idle] at card
      exact .inl card
    · obtain ⟨reply, decided, processed, content⟩ := handed (.atr atr) answered
      rw [effect] at card
      exact .inr ⟨reply, atr, decided, processed, content, card⟩

end Session

/--
A power-on or a transmission takes data from an answer whose two highest status bits are both clear
or both set, and whose data is not a part of more.

So it keeps to processed commands exactly if it meets no answer with both bits set.
-/
theorem data_from_processed_iff {config : Config} {pipe : Pipe Fault} {session : Session Fault}
    (started : Session.start config pipe = .ok session) (earlier : List Operation)
    {operation : Operation} (takes : operation.takesData = true) :
    let reached := session.after earlier
    let number := ((session.run earlier).flatMap Step.written).length
    (∀ answer, (reached.perform operation).answer = .ok answer ↔
      ∃ reply, reached.Answered number operation reply ∧
        (reply.answer.status.octet.toNat / 64 = 0 ∨ reply.answer.status.octet.toNat / 64 = 3) ∧
        (∀ apdu, operation = .transmit apdu → reply.answer.chainParameter = 0) ∧
        answer = operation.content reply.answer) ∧
      (reached.OnlyProcessed number operation ↔ ¬ reached.MeetsReserved number operation) := by
  intro reached number
  obtain ⟨_, _, counted⟩ := Session.of_start started
  have written := counted.after earlier
  rw [Nat.zero_add] at written
  refine ⟨fun answer => ?_, Session.onlyProcessed_iff written takes⟩
  rw [Session.perform_ok_iff written takes]
  simp only [SlotStatus.command_eq_iff, CommandStatus.bits]
  exact Iff.rfl

/-- A transmission gets data from a reader that needed more time and then set both status bits. -/
theorem data_from_processed_iff_reservedTransmission :
    let atr := plainAnswer .dataBlock 0 [0x3B]
    let request : Response := { plainAnswer .dataBlock 1 [] with status := ⟨0x80⟩ }
    let answer : Response := { plainAnswer .dataBlock 1 [0x90, 0x00] with status := ⟨0xC0⟩ }
    let pipe : Pipe TransportError :=
      { writes := [], replies := [.ok atr.encode, .ok request.encode, .ok answer.encode] }
    let session : Session TransportError :=
      { config := .default, sequence := .initial, lastAtr := none, power := .unknown, pipe }
    let reached := session.after [.powerOn]
    let transmission : Operation := .transmit [0x00, 0xA4]
    Session.start .default pipe = .ok session ∧ transmission.takesData = true ∧
      reached.Answered 1 transmission ⟨[request], answer⟩ ∧
      answer.status.octet.toNat / 64 = 3 ∧
      (reached.perform transmission).answer = .ok (.data [0x90, 0x00]) ∧
      ¬ reached.OnlyProcessed 1 transmission := by
  intro atr request answer pipe session reached transmission
  have started : Session.start .default pipe = .ok session :=
    Session.start_of_valid Config.validate_default
  have counted : ((session.run [.powerOn]).flatMap Step.written).length = 1 := by cbv
  have reserved : answer.status.octet.toNat / 64 = 3 := by decide
  have settings : reached.config = .default := session.config_perform .powerOn
  have decided : reached.Answered 1 transmission ⟨[request], answer⟩ := by
    constructor <;> rw [settings]
    · show ((session.after [.powerOn]).perform transmission).transfers = _
      cbv
    · refine ⟨?_, ⟨rfl, rfl, by decide, by decide⟩, by decide⟩
      simp only [List.mem_singleton, forall_eq]
      exact ⟨⟨rfl, rfl, by decide, by decide⟩, by decide⟩
  have unchained : ∀ apdu, transmission = .transmit apdu → answer.chainParameter = 0 :=
    fun _ _ => rfl
  obtain ⟨taken, only⟩ :=
    data_from_processed_iff started [.powerOn] (show transmission.takesData = true from rfl)
  rw [counted] at taken only
  refine ⟨started, rfl, decided, reserved, ?_, ?_⟩
  · exact (taken _).mpr ⟨_, decided, .inr reserved, unchained, by cbv⟩
  · exact fun kept => only.mp kept ⟨_, decided, by decide, unchained⟩

/-- A power-on takes an ATR, and records it, from an answer with the reserved status. -/
theorem reservedStatus_yields_atr :
    let answer : Response := { plainAnswer .dataBlock 0 [0x3B] with status := ⟨0xC0⟩ }
    let pipe : Pipe TransportError := { writes := [], replies := [.ok answer.encode] }
    let session : Session TransportError :=
      { config := .default, sequence := .initial, lastAtr := none, power := .unknown, pipe }
    let step := session.perform .powerOn
    Session.start .default pipe = .ok session ∧ session.Answered 0 .powerOn ⟨[], answer⟩ ∧
      answer.status.command = .reserved ∧ step.answer = .ok (.atr ⟨[0x3B]⟩) ∧
      step.session.card = ⟨.poweredOn, some ⟨[0x3B]⟩⟩ ∧
      ¬ session.OnlyProcessed 0 .powerOn := by
  intro answer pipe session step
  have started : Session.start .default pipe = .ok session :=
    Session.start_of_valid Config.validate_default
  obtain ⟨_, _, counted⟩ := Session.of_start started
  have decided : session.Answered 0 .powerOn ⟨[], answer⟩ :=
    ⟨by cbv, by simp, ⟨rfl, rfl, rfl, by decide⟩, by decide⟩
  refine ⟨started, decided, by decide, by cbv, by cbv, fun only => ?_⟩
  -- The answer is the only one, and its status is not that of a processed command.
  obtain ⟨other, also, processed, _⟩ := only.handed (.atr ⟨[0x3B]⟩) (by cbv)
  have same : answer = other.answer := decided.answer_unique counted also
  rw [← same] at processed
  exact absurd processed (by decide)

end Ccid

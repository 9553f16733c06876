import Ccid.Proofs.Session.Issuing
import Ccid.Session.Operation

/-!
Every call issues one command and concludes from the response alone.

The four calls differ in the command they issue and in what they make of its response; how the
command is framed, written and waited for is the same for all of them.
-/

namespace Ccid

namespace Operation

/-- The kind of command that a call issues. -/
def kind : Operation → CommandKind
  | .powerOn => .iccPowerOn
  | .powerOff => .iccPowerOff
  | .slotStatus => .getSlotStatus
  | .transmit _ => .xfrBlock

/-- The kind-specific octet of a call's command: the voltage of a power-on. -/
def reserved (config : Config) : Operation → UInt8
  | .powerOn => config.voltage.code
  | _ => 0

/-- The payload of a call's command. -/
def payload : Operation → Octets
  | .transmit apdu => apdu
  | _ => []

/-- What a call yields when its command got this response. -/
def conclude (operation : Operation) (response : Response) : Except ExchangeError Answer :=
  match operation with
  | .powerOn => response.accepted.map fun accepted => .atr ⟨accepted.data⟩
  | .powerOff | .slotStatus => .ok (.response response)
  | .transmit _ =>
    response.accepted.bind fun accepted =>
      if accepted.chainParameter ≠ 0 then .error (.chainingUnsupported accepted.chainParameter)
      else .ok (.data accepted.data)

/-- What a call tells the log of this response. -/
def notices (operation : Operation) (response : Response) : List Notice :=
  match operation with
  | .powerOn =>
    if response.status.isFailed then []
    else response.lengthWarning ++ [.poweredOn response.data]
  | .powerOff =>
    if response.status.isFailed then [.powerOffRefused (SlotError.ofOctet response.error)]
    else [.poweredOff]
  | .slotStatus => []
  | .transmit _ =>
    if response.status.isFailed ∨ response.chainParameter ≠ 0 then [] else response.lengthWarning

/-- An entry that a call may add to the log after its exchange. -/
inductive Closing : Notice → Prop
  | paddingDropped (octets : Nat) : Closing (.paddingDropped octets)
  | dataShort (announced : UInt32) (arrived : Nat) : Closing (.dataShort announced arrived)
  | poweredOn (atr : Octets) : Closing (.poweredOn atr)
  | poweredOff : Closing .poweredOff
  | powerOffRefused (error : SlotError) : Closing (.powerOffRefused error)

/-- A warning about a response's length may come after an exchange. -/
theorem closing_of_mem_lengthWarning {response : Response} {entry : Notice}
    (warned : entry ∈ response.lengthWarning) : Closing entry := by
  simp only [Response.lengthWarning] at warned
  split at warned
  · cases List.mem_singleton.mp warned
    exact .paddingDropped _
  · split at warned
    · cases List.mem_singleton.mp warned
      exact .dataShort _ _
    · simp at warned

/-- What a call tells the log of its response is of lengths or of the card's power. -/
theorem closing_of_mem_notices {operation : Operation} {response : Response} {entry : Notice}
    (told : entry ∈ operation.notices response) : Closing entry := by
  cases operation with
  | powerOn =>
    simp only [notices] at told
    split at told
    · simp at told
    · rcases List.mem_append.mp told with warned | on
      · exact closing_of_mem_lengthWarning warned
      · cases List.mem_singleton.mp on
        exact .poweredOn _
  | powerOff =>
    simp only [notices] at told
    split at told
    · cases List.mem_singleton.mp told
      exact .powerOffRefused _
    · cases List.mem_singleton.mp told
      exact .poweredOff
  | slotStatus => simp [notices] at told
  | transmit apdu =>
    simp only [notices] at told
    split at told
    · simp at told
    · exact closing_of_mem_lengthWarning told

/-- Only a power-on yields an Answer-To-Reset: the data of a response that reports no failure. -/
theorem conclude_eq_atr_iff {operation : Operation} {response : Response} {atr : Atr} :
    operation.conclude response = .ok (.atr atr) ↔
      operation = .powerOn ∧ response.status.isFailed = false ∧ atr = ⟨response.data⟩ := by
  -- Power-off and status requests yield the response itself.
  cases operation with
  | powerOn =>
    cases failed : response.status.isFailed with
    | true => simp [conclude, Response.accepted, failed, Except.map]
    | false => simp [conclude, Response.accepted, failed, Except.map, eq_comm]
  | powerOff | slotStatus => simp [conclude]
  | transmit apdu =>
    -- A transmission yields data or fails, whatever its response was.
    cases failed : response.status.isFailed with
    | true => simp [conclude, Response.accepted, failed, Except.bind]
    | false =>
      by_cases whole : response.chainParameter = 0
      · simp [conclude, Response.accepted, failed, whole, Except.bind]
      · simp [conclude, Response.accepted, failed, whole, Except.bind]

end Operation

variable {Fault : Type}

namespace Session

/-- What a call leaves of the card's state when its command got this response. -/
def settle (session : Session Fault) (operation : Operation) (response : Response) :
    Session Fault :=
  match operation with
  | .powerOn =>
    if response.status.isFailed then session
    else { session with lastAtr := some ⟨response.data⟩, power := .poweredOn }
  | .powerOff =>
    if response.status.isFailed then session
    else { session with lastAtr := none, power := .poweredOff }
  | .slotStatus | .transmit _ => session

@[simp] theorem config_settle (session : Session Fault) (operation : Operation)
    (response : Response) : (session.settle operation response).config = session.config := by
  cases operation <;> simp only [settle] <;> split <;> rfl

@[simp] theorem sequence_settle (session : Session Fault) (operation : Operation)
    (response : Response) : (session.settle operation response).sequence = session.sequence := by
  cases operation <;> simp only [settle] <;> split <;> rfl

@[simp] theorem pipe_settle (session : Session Fault) (operation : Operation)
    (response : Response) : (session.settle operation response).pipe = session.pipe := by
  cases operation <;> simp only [settle] <;> split <;> rfl

variable [BulkFault Fault]

/-- The command that a call issues next. -/
def commandFor (session : Session Fault) (operation : Operation) : Command :=
  session.command operation.kind (operation.reserved session.config) operation.payload

/-- The exchange that a call makes. -/
def issue (session : Session Fault) (operation : Operation) : Step Fault Response :=
  session.exchange operation.kind (operation.reserved session.config) operation.payload

/-- A call is its exchange and what it concludes from the response. -/
theorem perform_eq (session : Session Fault) (operation : Operation) :
    session.perform operation =
      match (session.issue operation).answer with
      | .error error =>
        { answer := .error error
          session := (session.issue operation).session
          events := (session.issue operation).events }
      | .ok response =>
        { answer := operation.conclude response
          session := (session.issue operation).session.settle operation response
          events :=
            (session.issue operation).events ++ (operation.notices response).map Event.notice } := by
  -- Each call branches on the same exchange, and then on the response's status.
  cases operation with
  | powerOn =>
    simp only [perform, powerOn, Step.map, issue, Operation.kind, Operation.reserved,
      Operation.payload, Operation.conclude, Operation.notices, settle]
    cases (session.exchange .iccPowerOn session.config.voltage.code []).answer with
    | error error => rfl
    | ok response =>
      simp only [Except.bind, Response.accepted]
      cases response.status.isFailed <;> simp [Except.map]
  | powerOff =>
    simp only [perform, powerOff, Step.map, issue, Operation.kind, Operation.reserved,
      Operation.payload, Operation.conclude, Operation.notices, settle]
    cases (session.exchange .iccPowerOff 0 []).answer with
    | error error => rfl
    | ok response =>
      simp only
      cases response.status.isFailed <;> simp [Except.map]
  | slotStatus =>
    simp only [perform, slotStatus, Step.map, issue, Operation.kind, Operation.reserved,
      Operation.payload, Operation.conclude, Operation.notices, settle]
    cases (session.exchange .getSlotStatus 0 []).answer with
    | error error => rfl
    | ok response => simp [Except.map]
  | transmit apdu =>
    simp only [perform, transmit, Step.map, issue, Operation.kind, Operation.reserved,
      Operation.payload, Operation.conclude, Operation.notices, settle]
    cases (session.exchange .xfrBlock 0 apdu).answer with
    | error error => rfl
    | ok response =>
      simp only [Except.bind, Response.accepted]
      cases failed : response.status.isFailed with
      | true => simp [Except.map]
      | false =>
        by_cases whole : response.chainParameter = 0
        · simp [whole, Except.map]
        · simp [whole, Except.map]

/-- A call makes the exchange of its own command. -/
theorem issue_exchanged (session : Session Fault) (operation : Operation) :
    Exchanged session (session.commandFor operation) (session.issue operation) :=
  exchange_exchanged session operation.kind (operation.reserved session.config) operation.payload

/-- A call's answer is concluded from the answer to its command. -/
theorem perform_answer (session : Session Fault) (operation : Operation) :
    (session.perform operation).answer
      = (session.issue operation).answer.bind operation.conclude := by
  -- A failed exchange passes its error on; a response is all that the call looks at.
  rw [perform_eq]
  cases (session.issue operation).answer <;> rfl

/-- After its exchange a call only adds to the log. -/
theorem perform_events (session : Session Fault) (operation : Operation) :
    ∃ entries : List Notice, (session.perform operation).events
      = (session.issue operation).events ++ entries.map Event.notice := by
  rw [perform_eq]
  cases (session.issue operation).answer with
  | error error => exact ⟨[], by simp⟩
  | ok response => exact ⟨operation.notices response, rfl⟩

/-- A call writes what its exchange writes. -/
theorem perform_written (session : Session Fault) (operation : Operation) :
    (session.perform operation).written = (session.issue operation).written := by
  obtain ⟨entries, events⟩ := session.perform_events operation
  -- Entries of the log hold no transfer.
  have silent : (entries.map Event.notice : List (Event Fault)).filterMap Event.written? = [] := by
    simp [List.filterMap_map, Function.comp_def]
  simp only [Step.written, events, List.filterMap_append, silent, List.append_nil]

/-- A call reads what its exchange reads. -/
theorem perform_reads (session : Session Fault) (operation : Operation) :
    (session.perform operation).reads = (session.issue operation).reads := by
  obtain ⟨entries, events⟩ := session.perform_events operation
  have silent : (entries.map Event.notice : List (Event Fault)).countP Event.isRead = 0 := by
    simp [List.countP_map, Function.comp_def]
  simp only [Step.reads, events, List.countP_append, silent, Nat.add_zero]

/-- A call leaves the settings, the sequence and the pipe as its exchange does. -/
theorem perform_session (session : Session Fault) (operation : Operation) :
    (session.perform operation).session.config = (session.issue operation).session.config ∧
      (session.perform operation).session.sequence = (session.issue operation).session.sequence ∧
      (session.perform operation).session.pipe = (session.issue operation).session.pipe := by
  -- What the response changes is the card's state alone.
  rw [perform_eq]
  cases (session.issue operation).answer with
  | error error => exact ⟨rfl, rfl, rfl⟩
  | ok response =>
    exact ⟨config_settle _ operation response, sequence_settle _ operation response,
      pipe_settle _ operation response⟩

/-- A call whose exchange fails fails with the same error, and the card's state stays as it was. -/
theorem perform_of_error {session : Session Fault} {operation : Operation} {error : ExchangeError}
    (failed : (session.issue operation).answer = .error error) :
    (session.perform operation).answer = .error error ∧
      (session.perform operation).session.lastAtr = session.lastAtr ∧
      (session.perform operation).session.power = session.power := by
  -- Without a response there is nothing to settle.
  rw [perform_eq, failed]
  exact ⟨rfl, (session.issue_exchanged operation).card_eq⟩

/-- A call that yields an answer got a response to conclude it from. -/
theorem issue_of_perform_ok {session : Session Fault} {operation : Operation} {answer : Answer}
    (answered : (session.perform operation).answer = .ok answer) :
    ∃ response, (session.issue operation).answer = .ok response ∧
      operation.conclude response = .ok answer := by
  -- From a failed exchange nothing is concluded.
  rw [perform_answer] at answered
  cases issued : (session.issue operation).answer with
  | error error => simp [issued, Except.bind] at answered
  | ok response => exact ⟨response, rfl, by simpa [issued, Except.bind] using answered⟩

/-- No call changes the settings. -/
@[simp] theorem config_perform (session : Session Fault) (operation : Operation) :
    (session.perform operation).session.config = session.config := by
  rw [(session.perform_session operation).1, (session.issue_exchanged operation).config_eq]

/-- A call writes its frame once if that fits one packet, and nothing otherwise. -/
theorem written_perform (session : Session Fault) (operation : Operation) :
    (session.perform operation).written =
      if operation.payload.length ≤ maxPayloadSize then [(session.commandFor operation).frame]
      else [] := by
  rw [perform_written, (session.issue_exchanged operation).written_eq]
  rfl

/-- A call takes one number for every frame that it writes. -/
theorem upcoming_perform (session : Session Fault) (operation : Operation) :
    (session.perform operation).session.sequence.upcoming = session.sequence.upcoming
      + UInt8.ofNat (session.perform operation).written.length := by
  rw [(session.perform_session operation).2.1, (session.issue_exchanged operation).upcoming_eq,
    perform_written]

/-- A call takes the next replies of the script, one a read. -/
theorem replies_perform (session : Session Fault) (operation : Operation) :
    (session.perform operation).session.pipe.replies
      = session.pipe.replies.drop (session.perform operation).reads := by
  rw [(session.perform_session operation).2.2, (session.issue_exchanged operation).replies_eq,
    perform_reads]

/-- A call whose payload fits uses up the outcome of one write. -/
theorem writes_perform {session : Session Fault} {operation : Operation}
    (fits : operation.payload.length ≤ maxPayloadSize) :
    (session.perform operation).session.pipe.writes = session.pipe.writes.tail := by
  rw [(session.perform_session operation).2.2]
  exact (session.issue_exchanged operation).writes_eq fits

end Session

end Ccid

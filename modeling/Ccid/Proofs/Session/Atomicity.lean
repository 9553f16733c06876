import Ccid.Proofs.Session.Card

/-!
What a call leaves behind that fails.

Settings and card are as before, whatever the failure. A command that cannot be framed fails before
it takes a number or reaches the pipe; every other failure comes after the command was written under
a number of its own.
-/

namespace Ccid

/-- An error that says that a command cannot be framed. -/
def ExchangeError.Unframed (error : ExchangeError) : Prop :=
  ∃ reason, error = .encoding reason

/-- The number that a command carries stands at the seventh place of its frame. -/
theorem Command.frame_sequence (command : Command) : command.frame[6]? = some command.sequence := by
  -- The kind, four octets of length and the slot come before it.
  simp [frame, littleEndian]

/-- A command whose payload's length passes the check is framed. -/
theorem Command.encode_of_checked {command : Command} {length : UInt32}
    (checked : checkPayloadLength command.payload.length = .ok length) :
    command.encode = .ok command.frame := by
  apply encode_of_fits
  -- A payload beyond one packet would have been refused by the check.
  apply Nat.le_of_not_lt
  intro large
  simp [checkPayloadLength_of_large large] at checked

/-- A transfer that is refused as an answer is not refused for the framing of the command. -/
theorem framed_of_checkResponse {command : Command} {current : UInt8} {transfer : Octets}
    {error : ExchangeError} (refused : checkResponse command current transfer = .error error) :
    ¬ error.Unframed := by
  -- Every refusal names a header, a number, a slot or a kind.
  rintro ⟨reason, rfl⟩
  cases found : Response.decode transfer with
  | error error => cases error <;> simp [checkResponse, found] at refused
  | ok response =>
    simp only [checkResponse, found] at refused
    by_cases number : response.sequence = current
    · by_cases slot : response.slot = command.slot
      · by_cases kind : response.kind = command.kind.expected <;>
          simp [number, slot, kind] at refused
      · simp [number, slot] at refused
    · simp [number] at refused

/-- A call does not blame the framing of its command on the response that it got. -/
theorem Operation.framed_of_conclude {operation : Operation} {response : Response}
    {error : ExchangeError} (refused : operation.conclude response = .error error) :
    ¬ error.Unframed := by
  rintro ⟨reason, rfl⟩
  -- What a response may be blamed for is a failed command or a chained answer.
  cases failed : response.status.isFailed with
  | true =>
    cases operation <;>
      simp [conclude, Response.accepted, failed, Except.map, Except.bind] at refused
  | false =>
    cases operation with
    | powerOn | powerOff | slotStatus =>
      simp [conclude, Response.accepted, failed, Except.map] at refused
    | transmit apdu =>
      by_cases whole : response.chainParameter = 0
      · simp [conclude, Response.accepted, failed, whole, Except.bind] at refused
      · simp [conclude, Response.accepted, failed, whole, Except.bind] at refused

variable {Fault : Type} [BulkFault Fault]

/-- A transfer that fails is no failure to frame a command. -/
theorem framed_transferFailure (fault : Fault) : ¬ (transferFailure fault).Unframed := by
  rintro ⟨reason, unframed⟩
  unfold transferFailure at unframed
  split at unframed <;> simp at unframed

/-- A wait that fails does not fail for the framing of the command. -/
theorem Session.framed_of_wait {session : Session Fault} {command : Command}
    {error : ExchangeError} (failed : (session.wait command).answer = .error error) :
    ¬ error.Unframed := by
  obtain ⟨skipped, rest, _, ended⟩ := session.wait_ends command
  have answer := ended.answer
  rw [failed] at answer
  -- It fails for too many requests, or for the reply that decided it.
  split at answer
  · cases answer
    simp [ExchangeError.Unframed]
  · cases head : rest.head? with
    | none =>
      rw [head, judge] at answer
      cases answer
      simp [ExchangeError.Unframed]
    | some reply =>
      rw [head] at answer
      cases reply with
      | error fault =>
        cases answer
        exact framed_transferFailure fault
      | ok sent => exact framed_of_checkResponse answer.symm

namespace Exchanged

variable {session : Session Fault} {command : Command} {step : Step Fault Response}

/-- An exchange fails for the framing of its command only if that is too large. -/
theorem large_of_unframed (exchanged : Exchanged session command step) {error : ExchangeError}
    (failed : step.answer = .error error) (unframed : error.Unframed) :
    maxPayloadSize < command.payload.length := by
  -- The other three ways fail for a transfer, for a count of octets, or for the wait.
  cases exchanged with
  | refused large => exact large
  | @unwritten fault =>
    cases failed
    exact absurd unframed (framed_transferFailure fault)
  | miscounted =>
    cases failed
    simp [ExchangeError.Unframed] at unframed
  | awaited => exact absurd unframed (Session.framed_of_wait failed)

end Exchanged

namespace Session

variable {session : Session Fault} {operation : Operation} {error : ExchangeError}

/-- A call whose command cannot be framed fails and does nothing else. -/
theorem perform_of_large (large : maxPayloadSize < operation.payload.length) :
    session.perform operation
      = { answer := .error (.encoding (.ofLength operation.payload.length)), session,
          events := [] } := by
  have issued := (session.issue_exchanged operation).eq_of_large large
  rw [perform_eq, issued]
  rfl

/-- A call fails for the framing of its command only if that is too large. -/
theorem large_of_unframed (failed : (session.perform operation).answer = .error error)
    (unframed : error.Unframed) : maxPayloadSize < operation.payload.length := by
  rw [perform_answer] at failed
  -- The error is the exchange's own, or it was concluded from the response.
  cases issued : (session.issue operation).answer with
  | error earlier =>
    rw [issued] at failed
    cases failed
    exact (session.issue_exchanged operation).large_of_unframed issued unframed
  | ok response =>
    rw [issued] at failed
    exact absurd unframed (Operation.framed_of_conclude failed)

/-- A call that fails for another reason than its framing was small enough to be framed. -/
theorem fits_of_framed (failed : (session.perform operation).answer = .error error)
    (framed : ¬ error.Unframed) : operation.payload.length ≤ maxPayloadSize := by
  apply Nat.le_of_not_lt
  intro large
  rw [perform_of_large large] at failed
  cases failed
  exact framed ⟨_, rfl⟩

/-- A call whose command is framed writes it under the number that is then the current one. -/
theorem number_of_fits (session : Session Fault)
    (fits : operation.payload.length ≤ maxPayloadSize) :
    (session.perform operation).session.sequence = session.sequence.advance ∧
      (session.perform operation).written = [(session.commandFor operation).frame] ∧
      (session.commandFor operation).frame[6]?
        = some (session.perform operation).session.sequence.current := by
  have written := session.written_perform operation
  rw [if_pos fits] at written
  -- One frame written is one number taken, and the command carries it.
  have advanced : (session.perform operation).session.sequence = session.sequence.advance := by
    have upcoming := session.upcoming_perform operation
    rw [written] at upcoming
    exact congrArg Sequence.mk upcoming
  refine ⟨advanced, written, ?_⟩
  rw [Command.frame_sequence, advanced, Sequence.current_advance]
  rfl

end Session

/-- What a call leaves behind that fails, or that is refused. -/
structure FailsCleanly (session : Session Fault) (operation : Operation)
    (step : Step Fault Answer) : Prop where
  /-- A failed call leaves the settings and the card as they were. -/
  kept : ∀ error, step.answer = .error error →
    step.session.config = session.config ∧ step.session.lastAtr = session.lastAtr ∧
      step.session.power = session.power
  /-- A call that fails for its framing leaves everything as it was, and nothing is transferred. -/
  unspent : ∀ error, step.answer = .error error → error.Unframed →
    step.session = session ∧ step.events = []
  /-- Any other failed call takes one number, which its command was written with. -/
  numbered : ∀ error, step.answer = .error error → ¬ error.Unframed →
    step.session.sequence.upcoming = session.sequence.upcoming + 1 ∧
      ∃ frame, step.written = [frame] ∧ frame[6]? = some step.session.sequence.current
  /-- Once the length of the payload has passed its check, the command is framed. -/
  framed : ∀ length, checkPayloadLength operation.payload.length = .ok length →
    (session.commandFor operation).encode = .ok (session.commandFor operation).frame
  /-- A power-off that the reader refuses leaves the card as it was. -/
  refused : operation = .powerOff → ∀ response, step.answer = .ok (.response response) →
    response.status.command = .failed →
      step.session.lastAtr = session.lastAtr ∧ step.session.power = session.power

/-- Every call fails cleanly, on every session and whatever its transfers come to. -/
theorem perform_failsCleanly (session : Session Fault) (operation : Operation) :
    FailsCleanly session operation (session.perform operation) := by
  -- A call without an effect on the card leaves both parts of what is known of it.
  have idle : operation.Idle (session.perform operation).answer →
      (session.perform operation).session.lastAtr = session.lastAtr ∧
        (session.perform operation).session.power = session.power := by
    intro idle
    have card := session.card_perform operation
    rw [idle.effect?_eq, Option.getD_none] at card
    exact ⟨congrArg Card.atr card, congrArg Card.power card⟩
  exact
    { kept := by
        intro error failed
        exact ⟨session.config_perform operation, idle (failed ▸ .failed)⟩
      unspent := by
        intro error failed unframed
        have large := Session.large_of_unframed failed unframed
        rw [Session.perform_of_large large]
        exact ⟨rfl, rfl⟩
      numbered := by
        intro error failed framed
        have fits := Session.fits_of_framed failed framed
        obtain ⟨advanced, written, number⟩ := session.number_of_fits fits
        exact ⟨congrArg Sequence.upcoming advanced, _, written, number⟩
      framed := by
        intro length checked
        exact Command.encode_of_checked checked
      refused := by
        rintro rfl response answered failed
        exact idle (answered ▸ .refused failed) }

/-- Calls on a powered card: a chained answer, a payload too large, and a refused power-off. -/
theorem perform_failsCleanly_poweredOn :
    let session (reply : Octets) : Session TransportError :=
      { config := .default, sequence := ⟨255⟩, lastAtr := some ⟨[0x3B]⟩, power := .poweredOn
        pipe := { writes := [], replies := [.ok reply] } }
    let refusal : Response :=
      { kind := .slotStatus, dataLength := 0, slot := 0, sequence := 255, status := ⟨0x40⟩
        error := 0xFE, chainParameter := 0, payload := [] }
    let chained :=
      (session [0x80, 0, 0, 0, 0, 0, 255, 0, 0, 1]).perform (.transmit [0x00])
    let large := (session []).perform (.transmit (List.replicate 55 0))
    let refused := (session [0x81, 0, 0, 0, 0, 0, 255, 0x40, 0xFE, 0]).perform .powerOff
    (chained.answer = .error (.chainingUnsupported 1) ∧
        chained.session.sequence.upcoming = 0 ∧ chained.session.power = .poweredOn) ∧
      (large.answer = .error (.encoding (.packetTooLarge 65 64)) ∧
        large.session.sequence.upcoming = 255 ∧ large.events = []) ∧
      refused.answer = .ok (.response refusal) ∧ refused.session.power = .poweredOn := by
  intro session refusal chained large refused
  have chaining : chained.answer = .error (.chainingUnsupported 1) := by cbv
  have framing : large.answer = .error (.encoding (.packetTooLarge 65 64)) := by cbv
  have refusing : refused.answer = .ok (.response refusal) := by cbv
  refine ⟨⟨chaining, ?_, ?_⟩, ⟨framing, ?_, ?_⟩, refusing, ?_⟩
  · have framed : ¬ (ExchangeError.chainingUnsupported 1).Unframed := by
      simp [ExchangeError.Unframed]
    have round : (255 : UInt8) + 1 = 0 := by decide
    exact ((perform_failsCleanly _ _).numbered _ chaining framed).1.trans round
  · exact ((perform_failsCleanly _ _).kept _ chaining).2.2
  · exact congrArg (fun left : Session TransportError => left.sequence.upcoming)
      ((perform_failsCleanly _ _).unspent _ framing ⟨_, rfl⟩).1
  · exact ((perform_failsCleanly _ _).unspent _ framing ⟨_, rfl⟩).2
  · exact ((perform_failsCleanly _ _).refused rfl _ refusing (by decide)).2

end Ccid

import Ccid.Proofs.Message.Reading
import Ccid.Proofs.Session.Card

/-!
The same exchanges in other octets.

A recoding moves the numbers of all commands by a fixed amount, and it puts other transfers in the
place of those that are read. It keeps from every response what the exchange looks at, so that an
exchange on the recoded session is the original exchange, recoded event by event.
-/

namespace Ccid

/-- Octets with their seventh one, which is the number in a frame, moved on by an amount. -/
def renumbered (shift : UInt8) (octets : Octets) : Octets :=
  octets.modify 6 (· + shift)

/-- Only an octet is changed, so there are as many as before. -/
@[simp] theorem length_renumbered (shift : UInt8) (octets : Octets) :
    (renumbered shift octets).length = octets.length :=
  List.length_modify ..

/-- Moving the number on by nothing changes nothing. -/
@[simp] theorem renumbered_zero (octets : Octets) : renumbered 0 octets = octets := by
  have still : (fun number : UInt8 => number + 0) = id := by
    funext number
    exact UInt8.add_zero number
  rw [renumbered, still, List.modify_id]

/-- A command under a number that is moved on by an amount. -/
def Command.renumbered (shift : UInt8) (command : Command) : Command :=
  { command with sequence := command.sequence + shift }

/-- The frame of a command under another number has the other number in its place. -/
theorem Command.frame_renumbered (shift : UInt8) (command : Command) :
    (command.renumbered shift).frame = Ccid.renumbered shift command.frame := by
  -- Before the number there are the kind, four octets of length, and the slot.
  simp [Command.renumbered, Ccid.renumbered, frame, littleEndian]

/-- A failure as it is told under other numbers. -/
def ExchangeError.renumbered (shift : UInt8) : ExchangeError → ExchangeError
  | .sequenceMismatch expected actual => .sequenceMismatch (expected + shift) (actual + shift)
  | error => error

/-- A failed transfer is told without a number. -/
@[simp] theorem ExchangeError.renumbered_ofTransport (shift : UInt8) (cause : TransportError) :
    (ofTransport cause).renumbered shift = ofTransport cause := by
  cases cause <;> rfl

/-- Under the same numbers a failure is told the same. -/
@[simp] theorem ExchangeError.renumbered_zero (error : ExchangeError) :
    error.renumbered 0 = error := by
  cases error <;> simp [renumbered]

/-- What a call comes to under other numbers, if it yields something else as well. -/
def retold {Old New : Type} (shift : UInt8) (change : Old → New) :
    Except ExchangeError Old → Except ExchangeError New
  | .ok value => .ok (change value)
  | .error error => .error (error.renumbered shift)

@[simp] theorem retold_ok {Old New : Type} (shift : UInt8) (change : Old → New) (value : Old) :
    retold shift change (.ok value) = .ok (change value) := rfl

@[simp] theorem retold_error {Old New : Type} (shift : UInt8) (change : Old → New)
    (error : ExchangeError) :
    retold shift change (.error error) = .error (error.renumbered shift) := rfl

@[simp] theorem ExchangeError.renumbered_tooManyTimeExtensions (shift : UInt8) (limit : UInt32) :
    (tooManyTimeExtensions limit).renumbered shift = tooManyTimeExtensions limit := rfl

/--
Other numbers for commands, and other transfers in the place of those that are read.

A transfer is known by the response that is read from it, if it is the frame of one.
-/
structure Recoding where
  shift : UInt8
  transfer : Octets → Octets
  response : Response → Response
  take_transfer : ∀ sent, (transfer sent).take readLimit = transfer (sent.take readLimit)
  transfer_encode : ∀ original : Response, original.encode.length ≤ readLimit →
    transfer original.encode = (response original).encode
  /-- What cannot be read as a response cannot be read as one in its other form either. -/
  transfer_unreadable : ∀ {raw error}, Unreadable raw error → Unreadable (transfer raw) error
  sequence_response : ∀ original, (response original).sequence = original.sequence + shift
  slot_response : ∀ original, (response original).slot = original.slot
  kind_response : ∀ original, (response original).kind = original.kind
  status_response : ∀ original, (response original).status = original.status

/-- The transfers of a recoding are judged as those in whose place they are. -/
theorem Recoding.check_transfer (recoding : Recoding) (command : Command) {raw : Octets}
    (readable : raw.length ≤ readLimit) :
    checkResponse (command.renumbered recoding.shift) (command.sequence + recoding.shift)
        (recoding.transfer raw)
      = retold recoding.shift recoding.response
          (checkResponse command command.sequence raw) := by
  cases read : Response.decode raw with
  | error reason =>
    -- What keeps the octets from being read is told without a number.
    have unread := recoding.transfer_unreadable (Response.decode_eq_error_iff.mp read)
    rw [← Response.decode_eq_error_iff] at unread
    cases reason <;> simp only [checkResponse, read, unread] <;> rfl
  | ok response =>
    obtain rfl := Response.eq_encode_of_decode read
    rw [recoding.transfer_encode response readable, checkResponse_encode, checkResponse_encode]
    -- Two numbers differ exactly if they still do after the same shift.
    have number : response.sequence + recoding.shift = command.sequence + recoding.shift ↔
        response.sequence = command.sequence := UInt8.add_left_inj recoding.shift
    rw [recoding.sequence_response, recoding.slot_response, recoding.kind_response]
    by_cases same : response.sequence = command.sequence
    · by_cases slot : response.slot = command.slot
      · by_cases kind : response.kind = command.kind.expected <;>
          simp [same, slot, kind, Command.renumbered, ExchangeError.renumbered]
      · simp [same, slot, Command.renumbered, ExchangeError.renumbered]
    · simp [same, number, ExchangeError.renumbered]

variable {Fault : Type} (recoding : Recoding)

/-- What is seen in the place of something. -/
def Event.recoded : Event Fault → Event Fault
  | .notice (.sending frame) => .notice (.sending (renumbered recoding.shift frame))
  | .notice (.received transfer) => .notice (.received (recoding.transfer transfer))
  | .notice entry => .notice entry
  | .write frame timeout outcome => .write (renumbered recoding.shift frame) timeout outcome
  | .read limit timeout outcome => .read limit timeout (outcome.map recoding.transfer)

@[simp] theorem Event.recoded_received (transfer : Octets) :
    (Event.notice (.received transfer) : Event Fault).recoded recoding
      = .notice (.received (recoding.transfer transfer)) := rfl

@[simp] theorem Event.recoded_timeExtension (count : UInt32) :
    (Event.notice (.timeExtension count) : Event Fault).recoded recoding
      = .notice (.timeExtension count) := rfl

@[simp] theorem Event.recoded_read (limit : Nat) (timeout : Duration)
    (outcome : Except Fault Octets) :
    (Event.read limit timeout outcome).recoded recoding
      = .read limit timeout (outcome.map recoding.transfer) := rfl

/-- The entries that a call adds to its exchange are the same in other octets. -/
theorem Operation.recoded_notices (operation : Operation) (response : Response) :
    ((operation.notices response).map Event.notice : List (Event Fault)).map
        (Event.recoded recoding)
      = (operation.notices response).map Event.notice := by
  rw [List.map_map]
  -- Such an entry holds no frame and no transfer.
  apply List.map_congr_left
  intro entry told
  cases closing_of_mem_notices told <;> rfl

/-- A script of replies with other transfers. -/
def recodedReplies (replies : List (Except Fault Octets)) : List (Except Fault Octets) :=
  replies.map (Except.map recoding.transfer)

@[simp] theorem recodedReplies_nil : recodedReplies recoding ([] : List (Except Fault Octets)) = [] :=
  rfl

@[simp] theorem recodedReplies_error (fault : Fault) (rest : List (Except Fault Octets)) :
    recodedReplies recoding (.error fault :: rest) = .error fault :: recodedReplies recoding rest :=
  rfl

@[simp] theorem recodedReplies_ok (sent : Octets) (rest : List (Except Fault Octets)) :
    recodedReplies recoding (.ok sent :: rest)
      = .ok (recoding.transfer sent) :: recodedReplies recoding rest :=
  rfl

/-- A wait that reads other transfers. -/
def Wait.recoded (wait : Wait Fault) : Wait Fault :=
  { answer := retold recoding.shift recoding.response wait.answer
    unread := recodedReplies recoding wait.unread
    events := wait.events.map (Event.recoded recoding) }

/-- A session with other numbers and other replies, and with anything known of the card. -/
def Session.recoded (card : Card) (session : Session Fault) : Session Fault :=
  { config := session.config
    sequence := ⟨session.sequence.upcoming + recoding.shift⟩
    lastAtr := card.atr
    power := card.power
    pipe := { session.pipe with replies := recodedReplies recoding session.pipe.replies } }

/-- An exchange with other numbers and other replies. -/
def Step.recoded (card : Card) (step : Step Fault Response) : Step Fault Response :=
  { answer := retold recoding.shift recoding.response step.answer
    session := step.session.recoded recoding card
    events := step.events.map (Event.recoded recoding) }

/-- A read is recoded to a read, and nothing else is. -/
@[simp] theorem Event.isRead_recoded (event : Event Fault) :
    (event.recoded recoding).isRead = event.isRead := by
  rcases event with entry | _ | _
  · cases entry <;> rfl
  · rfl
  · rfl

/-- A recoded exchange reads as often as the original one. -/
@[simp] theorem Step.reads_recoded (card : Card) (step : Step Fault Response) :
    (step.recoded recoding card).reads = step.reads := by
  simp [reads, recoded, List.countP_map, Function.comp_def]

/-- What a write comes to does not depend on the number in its frame. -/
theorem Session.write_recoded (card : Card) (session : Session Fault) (frame : Octets) :
    (session.recoded recoding card).pipe.write (renumbered recoding.shift frame)
      = ((session.pipe.write frame).1,
          { (session.pipe.write frame).2 with
            replies := recodedReplies recoding (session.pipe.write frame).2.replies }) := by
  -- An outcome of its own is the same, and a write in full takes the same count of octets.
  cases outcomes : session.pipe.writes with
  | nil => simp [recoded, Pipe.write, outcomes]
  | cons outcome rest =>
    cases outcome <;> simp [recoded, Pipe.write, outcomes, WriteOutcome.result]

/-- What is seen of a written frame is recoded with the frame. -/
theorem Session.departure_recoded (card : Card) (session : Session Fault) (frame : Octets)
    (outcome : Except Fault Nat) :
    (session.departure frame outcome).map (Event.recoded recoding)
      = (session.recoded recoding card).departure (renumbered recoding.shift frame) outcome := rfl

/-- A session that has written a frame is recoded with the frame. -/
theorem Session.afterWrite_recoded (card : Card) (session : Session Fault) (frame : Octets) :
    (session.afterWrite frame).recoded recoding card
      = (session.recoded recoding card).afterWrite (renumbered recoding.shift frame) := by
  -- One more number is issued either way, and its shift may come before or after it.
  have next : session.sequence.upcoming + 1 + recoding.shift
      = session.sequence.upcoming + recoding.shift + 1 := by grind
  simp only [afterWrite, write_recoded]
  simp only [recoded, Sequence.advance, next]

variable [BulkFault Fault]

/-- A wait on other replies is the wait on the original ones, recoded. -/
theorem awaitAnswer_recoded (command : Command) (limit : UInt32) (timeout : Duration)
    (granted : UInt32) (replies : List (Except Fault Octets)) :
    awaitAnswer
        (checkResponse (command.renumbered recoding.shift) (command.sequence + recoding.shift))
        limit timeout granted (recodedReplies recoding replies)
      = (awaitAnswer (checkResponse command command.sequence) limit timeout granted replies).recoded
          recoding := by
  -- The wait branches on what a transfer is judged to be, and that is recoded with the transfer.
  induction replies generalizing granted with
  | nil => simp [awaitAnswer, Wait.recoded, Except.map]
  | cons reply rest ih =>
    cases reply with
    | error fault => simp [awaitAnswer, Wait.recoded, Except.map]
    | ok sent =>
      have judged := recoding.check_transfer command (List.length_take_le readLimit sent)
      have cut := recoding.take_transfer sent
      cases verdict : checkResponse command command.sequence (sent.take readLimit) with
      | error error =>
        rw [verdict, retold_error] at judged
        simp [awaitAnswer, Wait.recoded, Except.map, cut, judged, verdict]
      | ok response =>
        rw [verdict, retold_ok] at judged
        have status := recoding.status_response response
        by_cases asks : response.status.isTimeExtension = true
        · -- The requests are counted alike, so both waits go on or neither does.
          by_cases beyond : granted + 1 > limit
          · simp [awaitAnswer, Wait.recoded, Except.map, cut, judged, verdict, status, asks, beyond]
          · simp [awaitAnswer, Wait.recoded, Wait.after, Except.map, cut, judged, verdict, status,
              asks, beyond, ih]
        · simp [awaitAnswer, Wait.recoded, Except.map, cut, judged, verdict, status, asks]

/-- The wait of a recoded session for the answer to a recoded command is the original one, recoded. -/
theorem Session.wait_recoded (card : Card) (session : Session Fault) (command : Command) :
    (session.recoded recoding card).wait (command.renumbered recoding.shift)
      = (session.wait command).recoded recoding :=
  awaitAnswer_recoded recoding command _ _ _ _

namespace Exchanged

variable {recoding} {session : Session Fault} {command : Command} {step : Step Fault Response}

/-- An exchange goes the same way in other octets. -/
theorem recoded (exchanged : Exchanged session command step) (card : Card) :
    Exchanged (session.recoded recoding card) (command.renumbered recoding.shift)
      (step.recoded recoding card) := by
  have write : ((session.recoded recoding card).pipe.write
      (command.renumbered recoding.shift).frame).1 = (session.pipe.write command.frame).1 := by
    rw [Command.frame_renumbered, Session.write_recoded]
  have length : (command.renumbered recoding.shift).frame.length = command.frame.length := by
    rw [Command.frame_renumbered, length_renumbered]
  cases exchanged with
  | refused large => exact .refused large
  | @unwritten fault fits failed =>
    have way : Exchanged (session.recoded recoding card) (command.renumbered recoding.shift) _ :=
      .unwritten fits (write.trans failed)
    simpa only [Step.recoded, retold, ← ofTransport_cause, ExchangeError.renumbered_ofTransport,
      Session.afterWrite_recoded, Session.departure_recoded recoding card,
      Command.frame_renumbered] using way
  | @miscounted count fits taken short =>
    have way : Exchanged (session.recoded recoding card) (command.renumbered recoding.shift) _ :=
      .miscounted fits (write.trans taken) (length ▸ short)
    simpa only [Step.recoded, retold, ExchangeError.renumbered, length,
      Session.afterWrite_recoded, Session.departure_recoded recoding card,
      Command.frame_renumbered, length_renumbered] using way
  | awaited fits whole =>
    have way : Exchanged (session.recoded recoding card) (command.renumbered recoding.shift) _ :=
      .awaited fits (write.trans (length ▸ whole))
    -- The replies that are left unread are those that the original wait leaves, recoded.
    have left : { session.afterWrite command.frame with
          pipe :=
            { (session.pipe.write command.frame).2 with
              replies := (session.wait command).unread } }.recoded recoding card
        = { (session.recoded recoding card).afterWrite (command.renumbered recoding.shift).frame with
            pipe :=
              { ((session.recoded recoding card).pipe.write
                  (command.renumbered recoding.shift).frame).2 with
                replies := recodedReplies recoding (session.wait command).unread } } := by
      rw [Command.frame_renumbered, ← Session.afterWrite_recoded, Session.write_recoded]
      rfl
    simp only [Session.wait_recoded, Wait.recoded, ← left] at way
    simpa only [Step.recoded, List.map_append, Session.departure_recoded recoding card,
      Command.frame_renumbered, length_renumbered] using way

end Exchanged

/-- An exchange on a recoded session is the original exchange, recoded. -/
theorem Session.exchange_recoded (card : Card) (session : Session Fault) (kind : CommandKind)
    (reserved : UInt8) (payload : Octets) :
    (session.recoded recoding card).exchange kind reserved payload
      = (session.exchange kind reserved payload).recoded recoding card :=
  -- The next command of the recoded session is the next one of the original, renumbered.
  (exchange_exchanged (session.recoded recoding card) kind reserved payload).unique
    ((exchange_exchanged session kind reserved payload).recoded card)

end Ccid

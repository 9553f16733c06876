import Ccid.Proofs.Session.Waiting

/-!
What one exchange does: the four ways it may go, and what all of them have in common.

A command is refused before anything is written, or it is written once. Its answer is waited for
only when the write took every octet.
-/

namespace Ccid

variable {Fault : Type}

namespace Step

variable {Reply : Type}

/-- The frames that a call wrote. -/
def written (step : Step Fault Reply) : List Octets :=
  step.events.filterMap Event.written?

/-- How many reads a call made. -/
def reads (step : Step Fault Reply) : Nat :=
  step.events.countP Event.isRead

end Step

/-- Writing takes nothing from what reads will yield. -/
@[simp] theorem Pipe.replies_write (pipe : Pipe Fault) (frame : Octets) :
    (pipe.write frame).2.replies = pipe.replies := by
  -- The outcome of a write is taken from the other list.
  unfold Pipe.write
  split <;> rfl

/-- Writing uses up one outcome, if one is left. -/
@[simp] theorem Pipe.writes_write (pipe : Pipe Fault) (frame : Octets) :
    (pipe.write frame).2.writes = pipe.writes.tail := by
  unfold Pipe.write
  split
  · rename_i used
    rw [used]
    rfl
  · rename_i used
    rw [used]
    rfl

/-- A reply that is a valid answer to a command, and by which the card asks for more time. -/
def Requests (command : Command) (reply : Except Fault Octets) : Prop :=
  ∃ sent request, reply = .ok sent ∧
    checkResponse command command.sequence (sent.take readLimit) = .ok request ∧
    request.status.isTimeExtension = true

namespace Session

/-- A session that has issued a command and written its frame. -/
def afterWrite (session : Session Fault) (frame : Octets) : Session Fault :=
  { session with sequence := session.sequence.advance, pipe := (session.pipe.write frame).2 }

/-- What is seen of a frame that is written. -/
def departure (session : Session Fault) (frame : Octets) (outcome : Except Fault Nat) :
    List (Event Fault) :=
  [.notice (.sending frame), .write frame session.config.timeout outcome]

/-- Only the wait of an exchange reads. -/
theorem reads_awaited {Reply : Type} (session after : Session Fault) (frame : Octets)
    (outcome : Except Fault Nat) (wait : Wait Fault) (answer : Except ExchangeError Reply) :
    Step.reads
        { answer, session := after, events := session.departure frame outcome ++ wait.events }
      = wait.reads := by
  simp [Step.reads, departure, Wait.reads]

variable [BulkFault Fault]

/-- The wait for the answer to a command that was written in full. -/
def wait (session : Session Fault) (command : Command) : Wait Fault :=
  awaitAnswer (checkResponse command command.sequence) session.config.maxTimeExtensions
    session.config.timeout 0 session.pipe.replies

end Session

variable [BulkFault Fault]

/-- The ways in which the exchange of a command may go. -/
inductive Exchanged (session : Session Fault) (command : Command) : Step Fault Response → Prop
  /-- The payload needs more than one packet: nothing is written, and no number is spent. -/
  | refused : maxPayloadSize < command.payload.length →
    Exchanged session command
      { answer := .error (.encoding (.ofLength command.payload.length)), session, events := [] }
  /-- The write fails. -/
  | unwritten {fault : Fault} : command.payload.length ≤ maxPayloadSize →
    (session.pipe.write command.frame).1 = .error fault →
    Exchanged session command
      { answer := .error (transferFailure fault)
        session := session.afterWrite command.frame
        events := session.departure command.frame (.error fault) }
  /-- The write takes another number of octets than the frame has. -/
  | miscounted {count : Nat} : command.payload.length ≤ maxPayloadSize →
    (session.pipe.write command.frame).1 = .ok count → count ≠ command.frame.length →
    Exchanged session command
      { answer := .error (.shortWrite count command.frame.length)
        session := session.afterWrite command.frame
        events := session.departure command.frame (.ok count) }
  /-- The write takes the frame, and the answer is waited for. -/
  | awaited : command.payload.length ≤ maxPayloadSize →
    (session.pipe.write command.frame).1 = .ok command.frame.length →
    Exchanged session command
      { answer := (session.wait command).answer
        session :=
          { session.afterWrite command.frame with
            pipe :=
              { (session.pipe.write command.frame).2 with
                replies := (session.wait command).unread } }
        events :=
          session.departure command.frame (.ok command.frame.length)
            ++ (session.wait command).events }

/-- A framed command under the session's next number is written, and perhaps waited for. -/
theorem send_exchanged {session : Session Fault} {command : Command}
    (fits : command.payload.length ≤ maxPayloadSize)
    (numbered : command.sequence = session.sequence.upcoming) :
    Exchanged session command
      (({ session with sequence := session.sequence.advance }).send command command.frame) := by
  -- What the write comes to decides how the exchange goes on.
  cases outcome : (session.pipe.write command.frame).1 with
  | error fault =>
    have step := Exchanged.unwritten fits outcome
    simpa only [Session.send, outcome, ofTransport_cause, Session.afterWrite, Session.departure]
      using step
  | ok count =>
    by_cases whole : count = command.frame.length
    · rw [whole] at outcome
      have step := Exchanged.awaited fits outcome
      simp only [Session.wait, numbered] at step
      -- The number that answers are compared with is the one just issued.
      simpa only [Session.send, outcome, Session.afterWrite, Session.departure,
        Sequence.current_advance, ne_eq, not_true_eq_false, if_false, Pipe.replies_write]
        using step
    · have step := Exchanged.miscounted fits outcome whole
      simpa only [Session.send, outcome, Session.afterWrite, Session.departure, ne_eq, whole,
        not_false_eq_true, if_true] using step

/-- Every exchange goes one of these ways. -/
theorem exchange_exchanged (session : Session Fault) (kind : CommandKind) (reserved : UInt8)
    (payload : Octets) :
    Exchanged session (session.command kind reserved payload)
      (session.exchange kind reserved payload) := by
  -- The length alone decides whether the command is written at all.
  unfold Session.exchange
  rcases Nat.lt_or_ge maxPayloadSize payload.length with large | fits
  · rw [checkPayloadLength_of_large large]
    exact .refused large
  · -- A payload that passes the check is always framed, so no number is lost on a failed framing.
    have framed : (session.command kind reserved payload).encode
        = .ok (session.command kind reserved payload).frame := Command.encode_of_fits fits
    rw [checkPayloadLength_of_fits fits]
    simp only [framed]
    exact send_exchanged fits rfl

/-- The wait of an exchange grants requests and is decided by the reply after them. -/
theorem Session.wait_ends (session : Session Fault) (command : Command) :
    ∃ skipped rest, session.pipe.replies = skipped ++ rest ∧
      Ended (checkResponse command command.sequence) session.config.maxTimeExtensions 0
        skipped rest (session.wait command) :=
  awaitAnswer_ends _ _ _ _ _

namespace Exchanged

variable {session : Session Fault} {command : Command} {step : Step Fault Response}

/-- An exchange leaves the settings as they were. -/
theorem config_eq (exchanged : Exchanged session command step) :
    step.session.config = session.config := by
  -- None of the four ways touches them.
  cases exchanged <;> rfl

/-- An exchange alone changes nothing of what is known of the card. -/
theorem card_eq (exchanged : Exchanged session command step) :
    step.session.lastAtr = session.lastAtr ∧ step.session.power = session.power := by
  cases exchanged <;> exact ⟨rfl, rfl⟩

/-- A command that fits is written once, and no other command is written at all. -/
theorem written_eq (exchanged : Exchanged session command step) :
    step.written =
      if command.payload.length ≤ maxPayloadSize then [command.frame] else [] := by
  cases exchanged with
  | refused large =>
    rw [if_neg (Nat.not_le.mpr large)]
    rfl
  | unwritten fits | miscounted fits =>
    rw [if_pos fits]
    rfl
  | awaited fits =>
    -- The wait after the write makes no write of its own.
    obtain ⟨skipped, rest, _, ended⟩ := session.wait_ends command
    rw [if_pos fits]
    simp only [Step.written, List.filterMap_append]
    rw [ended.unwritten]
    rfl

/-- Every frame written takes one number of the session's sequence. -/
theorem upcoming_eq (exchanged : Exchanged session command step) :
    step.session.sequence.upcoming
      = session.sequence.upcoming + UInt8.ofNat step.written.length := by
  -- A number is spent exactly where a frame is written, whatever the write comes to.
  have written := exchanged.written_eq
  cases exchanged with
  | refused large => simp [Step.written]
  | unwritten fits | miscounted fits | awaited fits =>
    rw [written, if_pos fits]
    rfl

/-- The reads of an exchange take the script's next replies. -/
theorem replies_eq (exchanged : Exchanged session command step) :
    step.session.pipe.replies = session.pipe.replies.drop step.reads := by
  -- Without a wait nothing is read, and a write takes nothing from the replies.
  cases exchanged with
  | refused => rfl
  | unwritten | miscounted => exact Pipe.replies_write session.pipe command.frame
  | awaited =>
    -- The wait leaves the replies behind the deciding one.
    obtain ⟨skipped, rest, split, ended⟩ := session.wait_ends command
    rw [Session.reads_awaited, split]
    exact ended.unread_eq_drop

/-- A command that fits uses up the outcome of one write. -/
theorem writes_eq (exchanged : Exchanged session command step)
    (fits : command.payload.length ≤ maxPayloadSize) :
    step.session.pipe.writes = session.pipe.writes.tail := by
  -- All ways but the refusal write once.
  cases exchanged with
  | refused large => omega
  | unwritten | miscounted | awaited => exact Pipe.writes_write session.pipe command.frame

/-- A transfer that is refused ends its exchange with the refusal, after granted requests only. -/
theorem of_refused (exchanged : Exchanged session command step) {sent : Octets}
    {error : ExchangeError} (member : .ok sent ∈ session.pipe.replies.take step.reads)
    (refused : checkResponse command command.sequence (sent.take readLimit) = .error error) :
    step.answer = .error error ∧
      ∃ skipped, session.pipe.replies.take step.reads = skipped ++ [.ok sent] ∧
        ∀ reply ∈ skipped, Requests command reply := by
  cases exchanged with
  | refused | unwritten | miscounted =>
    -- Without a wait there is no read that could have met the transfer.
    simp [Step.reads, Session.departure] at member
  | awaited =>
    obtain ⟨skipped, rest, split, ended⟩ := session.wait_ends command
    rw [Session.reads_awaited, split] at member ⊢
    obtain ⟨answer, read⟩ := ended.of_refused member refused
    exact ⟨answer, skipped, read, fun _ => ended.accepted_of_granted⟩

/-- An exchange that yields a response read requests for more time and then that response. -/
theorem of_ok (exchanged : Exchanged session command step) {response : Response}
    (answered : step.answer = .ok response) :
    ∃ skipped final, session.pipe.replies.take step.reads = skipped ++ [.ok final] ∧
      (∀ reply ∈ skipped, Requests command reply) ∧
      checkResponse command command.sequence (final.take readLimit) = .ok response := by
  -- The other three ways end in an error.
  cases exchanged with
  | refused | unwritten | miscounted => simp at answered
  | awaited =>
    obtain ⟨skipped, rest, split, ended⟩ := session.wait_ends command
    rw [Session.reads_awaited, split]
    obtain ⟨final, read, accepted, _⟩ := ended.of_ok answered
    exact ⟨skipped, final, read, fun _ => ended.accepted_of_granted, accepted⟩

/-- An exchange of a command that cannot be framed is over before it begins. -/
theorem eq_of_large (exchanged : Exchanged session command step)
    (large : maxPayloadSize < command.payload.length) :
    step = { answer := .error (.encoding (.ofLength command.payload.length)), session,
             events := [] } := by
  cases exchanged with
  | refused => rfl
  | unwritten fits | miscounted fits | awaited fits => omega

/-- A payload beyond one packet is refused without a transfer. -/
theorem of_large (exchanged : Exchanged session command step)
    (large : maxPayloadSize < command.payload.length) :
    step.answer = .error (.encoding (.ofLength command.payload.length)) ∧
      step.reads = 0 ∧ step.session = session := by
  rw [exchanged.eq_of_large large]
  exact ⟨rfl, rfl, rfl⟩

/-- A write that fails is the failure of the exchange. -/
theorem of_fault (exchanged : Exchanged session command step)
    (fits : command.payload.length ≤ maxPayloadSize) {fault : Fault}
    (failed : (session.pipe.write command.frame).1 = .error fault) :
    step.answer = .error (transferFailure fault) ∧ step.reads = 0 := by
  -- The outcome of the write tells the ways of an exchange apart.
  cases exchanged with
  | refused large => omega
  | unwritten _ outcome =>
    cases failed.symm.trans outcome
    exact ⟨rfl, rfl⟩
  | miscounted _ outcome | awaited _ outcome => simp [failed] at outcome

/-- A write that takes another number of octets is refused by that number. -/
theorem of_miscount (exchanged : Exchanged session command step)
    (fits : command.payload.length ≤ maxPayloadSize) {count : Nat}
    (taken : (session.pipe.write command.frame).1 = .ok count)
    (other : count ≠ command.frame.length) :
    step.answer = .error (.shortWrite count command.frame.length) ∧ step.reads = 0 := by
  -- The count is neither a fault nor the frame's length, which leaves one way.
  cases exchanged with
  | refused large => omega
  | unwritten _ outcome => simp [taken] at outcome
  | miscounted _ outcome =>
    cases taken.symm.trans outcome
    exact ⟨rfl, rfl⟩
  | awaited _ outcome =>
    cases taken.symm.trans outcome
    exact absurd rfl other

/-- After a write in full, the exchange is its wait. -/
theorem of_whole (exchanged : Exchanged session command step)
    (fits : command.payload.length ≤ maxPayloadSize)
    (whole : (session.pipe.write command.frame).1 = .ok command.frame.length) :
    step.answer = (session.wait command).answer ∧ step.reads = (session.wait command).reads := by
  -- A write in full excludes the other three ways.
  cases exchanged with
  | refused large => omega
  | unwritten _ outcome => simp [whole] at outcome
  | miscounted _ outcome other =>
    cases whole.symm.trans outcome
    exact absurd rfl other
  | awaited => exact ⟨rfl, Session.reads_awaited ..⟩

/-- An exchange goes only one way. -/
theorem unique {other : Step Fault Response} (first : Exchanged session command step)
    (second : Exchanged session command other) : step = other := by
  -- The length of the payload and the outcome of the write tell the ways apart.
  cases first with
  | refused large => exact (second.eq_of_large large).symm
  | unwritten fits failed =>
    cases second with
    | refused large => omega
    | unwritten _ again =>
      cases failed.symm.trans again
      rfl
    | miscounted _ taken | awaited _ taken => simp [failed] at taken
  | miscounted fits taken short =>
    cases second with
    | refused large => omega
    | unwritten _ failed => simp [taken] at failed
    | miscounted _ again =>
      cases taken.symm.trans again
      rfl
    | awaited _ whole =>
      cases taken.symm.trans whole
      exact absurd rfl short
  | awaited fits whole =>
    cases second with
    | refused large => omega
    | unwritten _ failed => simp [whole] at failed
    | miscounted _ taken short =>
      cases taken.symm.trans whole
      exact absurd rfl short
    | awaited => rfl

end Exchanged

end Ccid

import Ccid.Proofs.Session.Calls

/-! What a call does, prescribed case by case from the outcomes of its transfers. -/

namespace Ccid

variable {Fault : Type} [BulkFault Fault]

namespace Session

/-- What a session makes of a transfer that arrives while it waits for a call's answer. -/
def verdict (session : Session Fault) (operation : Operation) (transfer : Octets) :
    Except ExchangeError Response :=
  checkResponse (session.commandFor operation) session.sequence.upcoming transfer

/-- How many valid requests for more time the script holds in answer to a call. -/
def requests (session : Session Fault) (operation : Operation) : Nat :=
  openingExtensions (session.verdict operation) session.pipe.replies

/-- What the write of a call's frame will report. -/
def writeOutcome (session : Session Fault) (operation : Operation) : Except Fault Nat :=
  (session.pipe.write (session.commandFor operation).frame).1

/-- A call that may grant all requests it meets is decided by the reply after them. -/
theorem perform_of_few {session : Session Fault} {operation : Operation}
    (fits : operation.payload.length ≤ maxPayloadSize)
    (whole : session.writeOutcome operation = .ok (session.commandFor operation).frame.length)
    (few : session.requests operation ≤ session.config.maxTimeExtensions.toNat) :
    (session.perform operation).answer =
        (judge (session.verdict operation)
          session.pipe.replies[session.requests operation]?).bind operation.conclude ∧
      (session.perform operation).reads = session.requests operation + 1 ∧
      (session.perform operation).session.pipe.replies
        = session.pipe.replies.drop (session.requests operation + 1) := by
  -- The call is its wait, and the wait is decided by the reply after the requests.
  obtain ⟨waited, read⟩ := (session.issue_exchanged operation).of_whole fits whole
  obtain ⟨judged, _, count⟩ :=
    awaitAnswer_within (session.verdict operation) session.config.timeout few
  have total := (session.perform_reads operation).trans (read.trans count)
  refine ⟨?_, total, ?_⟩
  · rw [session.perform_answer, waited]
    exact congrArg (·.bind operation.conclude) judged
  · rw [session.replies_perform, total]
    rfl

/-- A call that meets more requests than the limit allows gives up at the first excess one. -/
theorem perform_of_many {session : Session Fault} {operation : Operation}
    (fits : operation.payload.length ≤ maxPayloadSize)
    (whole : session.writeOutcome operation = .ok (session.commandFor operation).frame.length)
    (small : session.config.maxTimeExtensions.toNat + 1 < UInt32.size)
    (many : session.config.maxTimeExtensions.toNat < session.requests operation) :
    (session.perform operation).answer
        = .error (.tooManyTimeExtensions session.config.maxTimeExtensions) ∧
      (session.perform operation).reads = session.config.maxTimeExtensions.toNat + 1 ∧
      (session.perform operation).session.pipe.replies
        = session.pipe.replies.drop (session.config.maxTimeExtensions.toNat + 1) := by
  -- One request beyond the limit was read before the wait gave up.
  obtain ⟨waited, read⟩ := (session.issue_exchanged operation).of_whole fits whole
  obtain ⟨failure, _, count⟩ :=
    awaitAnswer_beyond (session.verdict operation) session.config.timeout small many
  have total := (session.perform_reads operation).trans (read.trans count)
  refine ⟨?_, total, by rw [session.replies_perform, total]⟩
  rw [session.perform_answer, waited]
  exact congrArg (·.bind operation.conclude) failure

/-- A call whose first reply is a failure fails with it, and reads no further. -/
theorem perform_of_failure {session : Session Fault} {operation : Operation}
    (fits : operation.payload.length ≤ maxPayloadSize)
    (whole : session.writeOutcome operation = .ok (session.commandFor operation).frame.length)
    {error : ExchangeError}
    (failure : judge (session.verdict operation) session.pipe.replies.head? = .error error) :
    (session.perform operation).answer = .error error ∧
      (session.perform operation).session.pipe.replies = session.pipe.replies.tail := by
  -- A failure asks for no time, so no request comes before it.
  have decisive : asksForTime (session.verdict operation) session.pipe.replies.head? = false := by
    rw [asksForTime, failure]
  have none : session.requests operation = 0 := openingExtensions_of_decisive decisive
  have few : session.requests operation ≤ session.config.maxTimeExtensions.toNat := by omega
  obtain ⟨answer, _, left⟩ := perform_of_few fits whole few
  rw [none] at answer left
  rw [List.head?_eq_getElem?] at failure
  rw [failure] at answer
  exact ⟨answer, by rw [left, List.drop_one]⟩

end Session

/--
What a call does, said without the loop in which it waits.

The cases exclude each other and leave none out, so they determine the answer and the transfers.
-/
structure Prescribed (session : Session Fault) (operation : Operation)
    (step : Step Fault Answer) : Prop where
  /-- A payload beyond one packet is refused, and no transfer is made. -/
  oversized : maxPayloadSize < operation.payload.length →
    step.answer = .error (.encoding (.ofLength operation.payload.length)) ∧
      step.written = [] ∧ step.reads = 0 ∧ step.session.pipe = session.pipe
  /-- Any other command is written once. -/
  writtenOnce : operation.payload.length ≤ maxPayloadSize →
    step.written = [(session.commandFor operation).frame]
  /-- A write that fails is the failure of the call, and nothing is read. -/
  failedWrite : operation.payload.length ≤ maxPayloadSize →
    ∀ fault, session.writeOutcome operation = .error fault →
      step.answer = .error (transferFailure fault) ∧
        step.reads = 0 ∧ step.session.pipe.replies = session.pipe.replies
  /-- A write that takes fewer or more octets than the frame has is refused unread. -/
  miscountedWrite : operation.payload.length ≤ maxPayloadSize →
    ∀ count, session.writeOutcome operation = .ok count →
      count ≠ (session.commandFor operation).frame.length →
      step.answer = .error (.shortWrite count (session.commandFor operation).frame.length) ∧
        step.reads = 0 ∧ step.session.pipe.replies = session.pipe.replies
  /-- One request for more time than the limit allows ends the call. -/
  tooManyRequests : operation.payload.length ≤ maxPayloadSize →
    session.writeOutcome operation = .ok (session.commandFor operation).frame.length →
    session.config.maxTimeExtensions.toNat < session.requests operation →
      step.answer = .error (.tooManyTimeExtensions session.config.maxTimeExtensions) ∧
        step.reads = session.config.maxTimeExtensions.toNat + 1 ∧
        step.session.pipe.replies
          = session.pipe.replies.drop (session.config.maxTimeExtensions.toNat + 1)
  /-- Otherwise the reply after the requests alone decides. -/
  decided : operation.payload.length ≤ maxPayloadSize →
    session.writeOutcome operation = .ok (session.commandFor operation).frame.length →
    session.requests operation ≤ session.config.maxTimeExtensions.toNat →
      step.answer =
          (judge (session.verdict operation)
            session.pipe.replies[session.requests operation]?).bind operation.conclude ∧
        step.reads = session.requests operation + 1 ∧
        step.session.pipe.replies = session.pipe.replies.drop (session.requests operation + 1)

/-- Every call does what is prescribed, if requests for more time are counted without a wrap. -/
theorem perform_prescribed (session : Session Fault) (operation : Operation)
    (small : session.config.maxTimeExtensions.toNat + 1 < UInt32.size) :
    Prescribed session operation (session.perform operation) := by
  -- The call answers from its exchange, and the script is left after the replies that it read.
  have exchanged := session.issue_exchanged operation
  have answer := session.perform_answer operation
  have reads := session.perform_reads operation
  have left := session.replies_perform operation
  exact
    { oversized := by
        intro large
        -- The refusal comes before anything is written, so the pipe is untouched.
        obtain ⟨refused, unread, same⟩ := exchanged.of_large large
        refine ⟨?_, ?_, ?_, ?_⟩
        · rw [answer, refused]
          rfl
        · rw [session.written_perform, if_neg (Nat.not_le.mpr large)]
        · rw [reads, unread]
        · rw [(session.perform_session operation).2.2, same]
      writtenOnce := by
        intro fits
        rw [session.written_perform, if_pos fits]
      failedWrite := by
        intro fits fault failed
        -- The number is spent, but no read follows.
        obtain ⟨failure, unread⟩ := exchanged.of_fault fits failed
        rw [reads, unread] at left
        refine ⟨?_, by rw [reads, unread], left⟩
        rw [answer, failure]
        rfl
      miscountedWrite := by
        intro fits count taken other
        -- The comparison is for equality, so too many octets are refused like too few.
        obtain ⟨failure, unread⟩ := exchanged.of_miscount fits taken other
        rw [reads, unread] at left
        refine ⟨?_, by rw [reads, unread], left⟩
        rw [answer, failure]
        rfl
      tooManyRequests := by
        intro fits whole many
        exact Session.perform_of_many fits whole small many
      decided := by
        intro fits whole few
        exact Session.perform_of_few fits whole few }

/-- A status request that is granted more time once, with the usual settings. -/
theorem perform_prescribed_extended :
    let answer (status : UInt8) : Octets := [0x81, 0, 0, 0, 0, 0, 0, status, 0, 0]
    let session : Session TransportError :=
      { config := .default, sequence := .initial, lastAtr := none, power := .unknown
        pipe := { writes := [], replies := [.ok (answer 0x80), .ok (answer 0x01)] } }
    session.config.maxTimeExtensions.toNat + 1 < UInt32.size ∧ session.requests .slotStatus = 1 ∧
      Prescribed session .slotStatus (session.perform .slotStatus) := by
  intro answer session
  have small : session.config.maxTimeExtensions.toNat + 1 < UInt32.size := by decide
  exact ⟨small, by decide, perform_prescribed session .slotStatus small⟩

end Ccid

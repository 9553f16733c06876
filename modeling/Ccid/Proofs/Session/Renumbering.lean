import Ccid.Proofs.Session.Power
import Ccid.Proofs.Session.Recoding

/-!
What happened in a session before, and the number that it is at, make no difference to its calls.

Two sessions with the same settings may know different things of the card and be at different
numbers. If the frames that they read carry their own numbers in the same distance, their calls do
the same and come to the same, up to that distance.
-/

namespace Ccid

/-- A response under a number that is moved on by an amount. -/
def Response.renumbered (shift : UInt8) (response : Response) : Response :=
  { response with sequence := response.sequence + shift }

/-- The frame of a response under another number has the other number in its place. -/
theorem Response.encode_renumbered (shift : UInt8) (response : Response) :
    Ccid.renumbered shift response.encode = (response.renumbered shift).encode := by
  -- As in a command, the kind, the length and the slot come before the number.
  simp [Response.renumbered, Ccid.renumbered, encode, littleEndian]

/-- Octets that cannot be read as a response cannot be read under another number either. -/
theorem Unreadable.renumbered {raw : Octets} {error : DecodeError} (unreadable : Unreadable raw error)
    (shift : UInt8) : Unreadable (Ccid.renumbered shift raw) error := by
  cases unreadable with
  | truncated short =>
    rw [← length_renumbered shift raw] at short ⊢
    exact .truncated short
  | unknownKind full first unknown =>
    -- The number does not come first.
    refine .unknownKind ?_ ?_ unknown
    · rwa [length_renumbered]
    · cases raw with
      | nil => simp at first
      | cons code rest => simpa [Ccid.renumbered] using first

/-- The recoding that moves every number on by an amount, in commands and in transfers. -/
def Recoding.ofShift (shift : UInt8) : Recoding :=
  { shift
    transfer := renumbered shift
    response := Response.renumbered shift
    take_transfer := fun sent => List.take_modify _ 6 readLimit sent
    transfer_encode := fun original _ => original.encode_renumbered shift
    transfer_unreadable := fun unreadable => unreadable.renumbered shift
    sequence_response := fun _ => rfl
    slot_response := fun _ => rfl
    kind_response := fun _ => rfl
    status_response := fun _ => rfl }

/-- What a call yields as it is told under other numbers; only a response has one. -/
def Answer.renumbered (shift : UInt8) : Answer → Answer
  | .response received => .response (received.renumbered shift)
  | other => other

/-- Whether a command failed is told without a number. -/
theorem Response.accepted_renumbered (shift : UInt8) (response : Response) :
    (response.renumbered shift).accepted
      = retold shift (Response.renumbered shift) response.accepted := by
  have status : (response.renumbered shift).status = response.status := rfl
  unfold accepted
  rw [status]
  split <;> rfl

namespace Operation

/-- What a call concludes from a response, it concludes from it under another number. -/
theorem conclude_renumbered (shift : UInt8) (operation : Operation) (response : Response) :
    operation.conclude (response.renumbered shift)
      = retold shift (Answer.renumbered shift) (operation.conclude response) := by
  -- Only the response itself has a number; data have none, and neither have the failures.
  cases operation with
  | powerOn =>
    simp only [conclude, Response.accepted_renumbered]
    cases response.accepted <;> rfl
  | powerOff | slotStatus => rfl
  | transmit apdu =>
    simp only [conclude, Response.accepted_renumbered]
    cases response.accepted with
    | error error => rfl
    | ok accepted =>
      have chain : (accepted.renumbered shift).chainParameter = accepted.chainParameter := rfl
      simp only [retold_ok, Except.bind, chain]
      split <;> rfl

/-- A call tells the log the same of a response under another number. -/
theorem notices_renumbered (shift : UInt8) (operation : Operation) (response : Response) :
    operation.notices (response.renumbered shift) = operation.notices response := by
  cases operation <;> rfl

/-- What a call makes of the card does not depend on numbers. -/
theorem effect?_retold (shift : UInt8) (operation : Operation)
    (answer : Except ExchangeError Answer) :
    operation.effect? (retold shift (Answer.renumbered shift) answer) = operation.effect? answer := by
  cases answer with
  | error error => cases operation <;> rfl
  | ok answer => cases operation <;> cases answer <;> rfl

end Operation

variable {Fault : Type}

namespace Session

/--
Two sessions that differ in their past and in their number.

The replies to the second one carry other numbers, in the same distance.
-/
structure Apart (shift : UInt8) (first second : Session Fault) : Prop where
  config : second.config = first.config
  upcoming : second.sequence.upcoming = first.sequence.upcoming + shift
  writes : second.pipe.writes = first.pipe.writes
  replies : second.pipe.replies = first.pipe.replies.map (Except.map (renumbered shift))

/-- The second of two such sessions is the first one in other octets, with its own card. -/
theorem Apart.eq_recoded {shift : UInt8} {first second : Session Fault}
    (apart : first.Apart shift second) :
    second = first.recoded (.ofShift shift) second.card := by
  -- The relation says of every part but the card what the other session has there.
  obtain ⟨config, ⟨upcoming⟩, atr, power, ⟨writes, replies⟩⟩ := second
  obtain ⟨rfl, rfl, rfl, rfl⟩ := apart
  rfl

variable [BulkFault Fault] {shift : UInt8} {first second : Session Fault}

/-- The exchanges of two such sessions are the same in other octets. -/
theorem Apart.issue_eq (apart : first.Apart shift second) (operation : Operation) :
    second.issue operation = (first.issue operation).recoded (.ofShift shift) second.card := by
  rw [issue, issue, apart.config]
  exact (congrArg (exchange · _ _ _) apart.eq_recoded).trans (exchange_recoded ..)

/-- A call comes to the same on both sessions, up to the distance of their numbers. -/
theorem Apart.answer_perform (apart : first.Apart shift second) (operation : Operation) :
    (second.perform operation).answer
      = retold shift (Answer.renumbered shift) (first.perform operation).answer := by
  -- A failed exchange is retold as it is, and from a response the call concludes the same.
  rw [perform_answer, perform_answer, apart.issue_eq]
  cases issued : (first.issue operation).answer with
  | error error => simp only [Step.recoded, issued]; rfl
  | ok response =>
    simp only [Step.recoded, issued]
    exact operation.conclude_renumbered shift response

/-- What is seen of a call on the second session is the same in other octets. -/
theorem Apart.events_perform (apart : first.Apart shift second) (operation : Operation) :
    (second.perform operation).events
      = (first.perform operation).events.map (Event.recoded (.ofShift shift)) := by
  rw [second.perform_eq, first.perform_eq, apart.issue_eq]
  cases issued : (first.issue operation).answer with
  | error error => simp only [Step.recoded, issued, retold_error]
  | ok response =>
    -- The entries that the call adds to its exchange hold no number.
    have entries : operation.notices ((Recoding.ofShift shift).response response)
        = operation.notices response := operation.notices_renumbered shift response
    simp only [Step.recoded, issued, retold_ok, entries, List.map_append,
      operation.recoded_notices]

/-- A call has the same effect on both cards, or none on either. -/
theorem Apart.card_perform (apart : first.Apart shift second) (operation : Operation) :
    ∃ effect : Option Card,
      (first.perform operation).session.card = effect.getD first.card ∧
        (second.perform operation).session.card = effect.getD second.card := by
  -- The effect is read off the answer, and numbers play no part in it.
  refine ⟨operation.effect? (first.perform operation).answer, first.card_perform operation, ?_⟩
  rw [second.card_perform, apart.answer_perform, operation.effect?_retold]

/-- After a call the sessions are as far apart as before. -/
theorem Apart.perform (apart : first.Apart shift second) (operation : Operation) :
    (first.perform operation).session.Apart shift (second.perform operation).session := by
  -- What a call leaves apart from the card, its exchange leaves, and that is the same recoded.
  obtain ⟨config, sequence, pipe⟩ := first.perform_session operation
  obtain ⟨otherConfig, otherSequence, otherPipe⟩ := second.perform_session operation
  rw [apart.issue_eq] at otherConfig otherSequence otherPipe
  exact
    { config := by rw [config, otherConfig]; rfl
      upcoming := by rw [sequence, otherSequence]; rfl
      writes := by rw [pipe, otherPipe]; rfl
      replies := by rw [pipe, otherPipe]; rfl }

/-- After any calls the sessions are as far apart as before. -/
theorem Apart.after (apart : first.Apart shift second) (operations : List Operation) :
    (first.after operations).Apart shift (second.after operations) := by
  induction operations generalizing first second with
  | nil => exact apart
  | cons operation rest ih => exact ih (apart.perform operation)

/-- What every two calls on such sessions show alike, two runs on them show alike. -/
theorem Apart.map_run {Shown : Type} {view told : Step Fault Answer → Shown}
    (single : ∀ {first second : Session Fault}, first.Apart shift second → ∀ operation : Operation,
      view (second.perform operation) = told (first.perform operation))
    (apart : first.Apart shift second) (operations : List Operation) :
    (second.run operations).map view = (first.run operations).map told := by
  -- Each call is made on what the calls before it left, and that is as far apart.
  induction operations generalizing first second with
  | nil => rfl
  | cons operation rest ih =>
    rw [run, run, List.map_cons, List.map_cons, single apart, ih (apart.perform operation)]

end Session

/--
What happened before and the number that a session is at make no difference to its calls.

On two sessions that differ in these alone, any calls come to the same, up to the distance of the
numbers, and they write and read the same in the same order. Each call switches both cards alike, or
it leaves both as they are.
-/
theorem outcomes_independent_of_history {Fault : Type} [BulkFault Fault] {shift : UInt8}
    {first second : Session Fault} (apart : first.Apart shift second)
    (operations : List Operation) :
    (second.run operations).map Step.answer
        = (first.run operations).map
            (fun step => retold shift (Answer.renumbered shift) step.answer) ∧
      (second.run operations).map Step.events
        = (first.run operations).map
            (fun step => step.events.map (Event.recoded (.ofShift shift))) ∧
      ∀ (earlier : List Operation) (operation : Operation), ∃ effect : Option Card,
        ((first.after earlier).perform operation).session.card
            = effect.getD (first.after earlier).card ∧
          ((second.after earlier).perform operation).session.card
            = effect.getD (second.after earlier).card := by
  refine ⟨?_, ?_, ?_⟩
  · exact apart.map_run Session.Apart.answer_perform operations
  · exact apart.map_run Session.Apart.events_perform operations
  · intro earlier operation
    exact (apart.after earlier).card_perform operation

/--
Numbers that pass 255, on a new card and on one that is on.

A power-on is answered, a status request reads another number, and a power-off reads too few octets.
-/
theorem outcomes_independent_of_history_wrapped :
    let first : Session TransportError :=
      { config := .default
        sequence := ⟨254⟩
        lastAtr := none
        power := .unknown
        pipe :=
          { writes := []
            replies :=
              [.ok [0x80, 1, 0, 0, 0, 0, 254, 0, 0, 0, 0x3B], .ok [0x81, 0, 0, 0, 0, 0, 7, 0, 0, 0],
                .ok [0x81, 0, 0]] } }
    let second : Session TransportError :=
      { config := .default
        sequence := ⟨1⟩
        lastAtr := some ⟨[0x3F]⟩
        power := .poweredOn
        pipe :=
          { writes := []
            replies :=
              [.ok [0x80, 1, 0, 0, 0, 0, 1, 0, 0, 0, 0x3B], .ok [0x81, 0, 0, 0, 0, 0, 10, 0, 0, 0],
                .ok [0x81, 0, 0]] } }
    let operations : List Operation := [.powerOn, .slotStatus, .powerOff]
    first.Apart 3 second ∧
      (second.run operations).map Step.answer
        = [.ok (.atr ⟨[0x3B]⟩), .error (.sequenceMismatch 2 10), .error (.shortRead 3)] := by
  intro first second operations
  have apart : first.Apart 3 second :=
    { config := rfl
      upcoming := by decide
      writes := rfl
      replies := rfl }
  refine ⟨apart, ?_⟩
  rw [(outcomes_independent_of_history apart operations).1]
  cbv

end Ccid

import Ccid.Proofs.Session.Conformance

/-!
What a timeout leaves behind.

The next command has a fresh number, so the answer that comes late is refused. But the refusal is
the end of that call too, and its own answer is then what the call after it finds: the calls stay
one answer behind the reader.
-/

namespace Ccid

/-- A final answer alone, as a reply without requests for more time. -/
def Response.alone (response : Response) : Reply :=
  { requests := [], answer := response }

/-- What calls yield that get their own answers. -/
def ownAnswers (operations : List Operation) (answers : List Response) :
    List (Except ExchangeError Answer) :=
  List.zipWith (fun operation answer => .ok (operation.content answer)) operations answers

/-- What so many calls yield that get the answers to the commands before theirs. -/
def mismatches (number count : Nat) : List (Except ExchangeError Answer) :=
  (List.range' number count).map fun earlier =>
    .error (.sequenceMismatch (UInt8.ofNat (earlier + 1)) (UInt8.ofNat earlier))

/-- What is left of the mismatches after the first. -/
theorem mismatches_drop (number count : Nat) :
    (mismatches number (count + 1)).drop 1 = mismatches (number + 1) count := rfl

/-- Calls that get the answers to the commands before theirs do not get their own. -/
theorem mismatches_ne_ownAnswers (number : Nat) {count : Nat} (some : 0 < count)
    (operations : List Operation) (answers : List Response) :
    mismatches number count ≠ ownAnswers operations answers := by
  obtain ⟨fewer, rfl⟩ := Nat.exists_eq_succ_of_ne_zero (Nat.ne_of_gt some)
  -- The first result is a failure on the one side and a success on the other.
  cases operations with
  | nil => simp [mismatches, ownAnswers]
  | cons operation operations =>
    cases answers with
    | nil => simp [mismatches, ownAnswers]
    | cons answer answers => simp [mismatches, ownAnswers, List.range'_succ]

namespace Session

variable {Fault : Type} [BulkFault Fault] {session : Session Fault}

/-- A call whose first read times out fails with a timeout, and reads no further. -/
theorem perform_of_timeout {operation : Operation}
    (fits : operation.payload.length ≤ maxPayloadSize)
    (whole : session.writeOutcome operation = .ok (session.commandFor operation).frame.length)
    {fault : Fault} (timedOut : BulkFault.cause fault = .timeout)
    {further : List (Except Fault Octets)}
    (scripted : session.pipe.replies = .error fault :: further) :
    (session.perform operation).answer = .error .timeout ∧
      (session.perform operation).session.pipe.replies = further := by
  -- The fault is the first reply, so no request comes before it.
  have failure : judge (session.verdict operation) session.pipe.replies.head?
      = .error .timeout := by
    rw [scripted, List.head?_cons, judge, transferFailure, if_pos timedOut]
  obtain ⟨answer, left⟩ := perform_of_failure fits whole failure
  exact ⟨answer, by rw [left, scripted, List.tail_cons]⟩

/-- A call that finds the answer to the command before its own is refused, and reads no further. -/
theorem perform_of_late {number : Nat} (counted : session.HasWritten (number + 1))
    {operation : Operation} (fits : operation.payload.length ≤ maxPayloadSize)
    (whole : session.writeOutcome operation = .ok (session.commandFor operation).frame.length)
    {late : Response} (earlier : late.sequence = UInt8.ofNat number)
    (readable : headerSize + late.payload.length ≤ readLimit)
    {further : List (Except Fault Octets)}
    (scripted : session.pipe.replies = .ok late.encode :: further) :
    (session.perform operation).answer
        = .error (.sequenceMismatch (UInt8.ofNat (number + 1)) (UInt8.ofNat number)) ∧
      (session.perform operation).session.pipe.replies = further := by
  have upcoming : session.sequence.upcoming = UInt8.ofNat (number + 1) := counted
  -- Numbers that follow each other differ, around the octet's end too.
  have other : late.sequence ≠ session.sequence.upcoming := by
    rw [earlier, upcoming]
    intro same
    have := eq_of_ofNat_eq same (by omega) (by omega)
    omega
  have failure : judge (session.verdict operation) session.pipe.replies.head?
      = .error (.sequenceMismatch (UInt8.ofNat (number + 1)) (UInt8.ofNat number)) := by
    rw [scripted, List.head?_cons, judge, Response.take_encode readable, verdict,
      checkResponse_of_otherNumber _ other, earlier, upcoming]
  obtain ⟨answer, left⟩ := perform_of_failure fits whole failure
  exact ⟨answer, by rw [left, scripted, List.tail_cons]⟩

/-- After a first call that times out, a run goes on with one number more and one write less. -/
theorem run_of_timeout {number : Nat} (counted : session.HasWritten number) {first : Operation}
    {rest : List Operation} (fits : first.payload.length ≤ maxPayloadSize)
    (whole : TakenWhole session.pipe.writes (first :: rest)) {fault : Fault}
    (timedOut : BulkFault.cause fault = .timeout) {further : List (Except Fault Octets)}
    (scripted : session.pipe.replies = .error fault :: further) :
    ∃ next : Session Fault, next.config = session.config ∧ next.HasWritten (number + 1) ∧
      TakenWhole next.pipe.writes rest ∧ next.pipe.replies = further ∧
      (session.run (first :: rest)).map Step.answer
        = .error .timeout :: (next.run rest).map Step.answer ∧
      session.after (first :: rest) = next.after rest := by
  -- The timeout spends the number and the write, and takes only the fault off the script.
  obtain ⟨timeout, left⟩ :=
    perform_of_timeout fits (writeOutcome_of_whole whole) timedOut scripted
  refine ⟨(session.perform first).session, session.config_perform first,
    counted.perform_of_fits fits, ?_, left, ?_, rfl⟩
  · rw [writes_perform fits]
    exact whole.tail
  · rw [run, List.map_cons, timeout]

/-- Calls that start one answer behind stay one answer behind, and none of them succeeds. -/
theorem run_of_late {config : Config} {number : Nat} {operations : List Operation}
    {late : Response} {answers : List Response}
    (conversation : Conversation config (number + 1) operations (answers.map Response.alone))
    (settings : session.config = config) (counted : session.HasWritten (number + 1))
    (whole : TakenWhole session.pipe.writes operations)
    (earlier : late.sequence = UInt8.ofNat number)
    (readable : headerSize + late.payload.length ≤ readLimit)
    (scripted : session.pipe.replies = script Fault ((late :: answers).map Response.alone)) :
    (session.run operations).map Step.answer = mismatches number operations.length ∧
      (session.after operations).pipe.replies
        = (late :: answers).getLast?.toList.map fun last => .ok last.encode := by
  -- Each call takes the answer before its own, and leaves its own in the place of that.
  induction operations generalizing session number late answers with
  | nil =>
    cases answers with
    | nil => exact ⟨rfl, scripted⟩
    | cons answer answers => cases conversation
  | cons operation operations ih =>
    cases answers with
    | nil => cases conversation
    | cons own answers =>
      rw [List.map_cons] at conversation
      cases conversation with
      | cons fits conforms rest =>
        subst settings
        obtain ⟨answer, left⟩ :=
          perform_of_late counted fits (writeOutcome_of_whole whole) earlier readable scripted
        have writes : TakenWhole (session.perform operation).session.pipe.writes operations := by
          rw [writes_perform fits]
          exact whole.tail
        obtain ⟨refusals, remaining⟩ :=
          ih rest (session.config_perform operation) (counted.perform_of_fits fits) writes
            conforms.addressed.sequence conforms.addressed.readable left
        refine ⟨?_, ?_⟩
        · rw [run, List.map_cons, answer, refusals]
          rfl
        · rw [List.getLast?_cons_cons]
          exact remaining

end Session

variable {Fault : Type} [BulkFault Fault]

/--
After one timeout, a session gets its own answers again exactly when the late answer never arrives.

If it does arrive, then every later call fails with the answer before its own, however many calls
follow, and the answer to the last call is left unread.
-/
theorem recovers_iff_lost {config : Config} {pipe : Pipe Fault} {session : Session Fault}
    (started : Session.start config pipe = .ok session) {first : Operation}
    {rest : List Operation} {late : Response} {answers : List Response}
    (conversation :
      Conversation config 0 (first :: rest) ((late :: answers).map Response.alone))
    (several : 2 ≤ rest.length) (whole : TakenWhole pipe.writes (first :: rest)) {fault : Fault}
    (timedOut : BulkFault.cause fault = .timeout) (arrives : Bool)
    (scripted : pipe.replies = .error fault
      :: script Fault (((if arrives then [late] else []) ++ answers).map Response.alone)) :
    let results := (session.run (first :: rest)).map Step.answer
    let unread := (session.after (first :: rest)).pipe.replies
    (results.drop 2 = ownAnswers (rest.drop 1) (answers.drop 1) ↔ arrives = false) ∧
      (arrives = true →
        results = .error .timeout :: mismatches 0 rest.length ∧
          unread = (late :: answers).getLast?.toList.map fun last => .ok last.encode) ∧
      (arrives = false →
        results = .error .timeout :: ownAnswers rest answers ∧ unread = []) := by
  intro results unread
  obtain ⟨settings, piped, counted⟩ := Session.of_start started
  subst piped settings
  rw [List.map_cons] at conversation
  cases conversation with
  | cons fits conforms others =>
    -- The first call is over; what is left of the script decides how the others go.
    obtain ⟨next, same, counted, writes, left, split, ends⟩ :=
      Session.run_of_timeout counted fits whole timedOut scripted
    -- With the late answer in front, the other calls stay one answer behind.
    have shifted : arrives = true →
        results = .error .timeout :: mismatches 0 rest.length ∧
          unread = (late :: answers).getLast?.toList.map fun last => .ok last.encode := by
      rintro rfl
      obtain ⟨refusals, remaining⟩ :=
        Session.run_of_late others same counted writes conforms.addressed.sequence
          conforms.addressed.readable left
      refine ⟨split.trans (by rw [refusals]), ?_⟩
      show (session.after (first :: rest)).pipe.replies = _
      rw [ends]
      exact remaining
    -- Without it, the other calls are a conversation of their own.
    have matched : arrives = false →
        results = .error .timeout :: ownAnswers rest answers ∧ unread = [] := by
      rintro rfl
      obtain ⟨own, remaining⟩ :=
        Session.run_of_conversation others same counted writes
          (left.trans (List.append_nil _).symm)
      rw [List.zipWith_map_right] at own
      refine ⟨split.trans (by rw [own]; rfl), ?_⟩
      show (session.after (first :: rest)).pipe.replies = _
      rw [ends, remaining]
    refine ⟨⟨?_, ?_⟩, shifted, matched⟩
    · intro own
      cases arrives with
      | false => rfl
      | true =>
        -- The third call and those after it fail as well, and there is a third call.
        obtain ⟨more, count⟩ := Nat.exists_eq_add_of_le' several
        rw [(shifted rfl).1, count, List.drop_succ_cons, mismatches_drop] at own
        exact absurd own (mismatches_ne_ownAnswers 1 (Nat.succ_pos more) _ _)
    · intro lost
      rw [(matched lost).1, List.drop_succ_cons, ownAnswers, List.drop_zipWith]
      rfl

/-- A final answer from slot 0 that announces the length of its payload. -/
def plainAnswer (kind : ResponseKind) (number : UInt8) (payload : Octets) : Response :=
  { kind
    dataLength := UInt32.ofNat payload.length
    slot := 0
    sequence := number
    status := ⟨0⟩
    error := 0
    chainParameter := 0
    payload }

/-- Final answers from slot 0 to a power-on and to two status requests after it. -/
theorem conversation_plain :
    Conversation .default 0 [.powerOn, .slotStatus, .slotStatus]
      ([plainAnswer .dataBlock 0 [0x3B], plainAnswer .slotStatus 1 [],
        plainAnswer .slotStatus 2 []].map Response.alone) := by
  refine .cons (by decide) ?_ (.cons (by decide) ?_ (.cons (by decide) ?_ .nil))
  · exact ⟨by decide, by simp [Response.alone], ⟨rfl, rfl, rfl, by decide⟩, by decide, by simp⟩
  · exact ⟨by decide, by simp [Response.alone], ⟨rfl, rfl, rfl, by decide⟩, by decide, by simp⟩
  · exact ⟨by decide, by simp [Response.alone], ⟨rfl, rfl, rfl, by decide⟩, by decide, by simp⟩

/-- A power-on that times out, and two status requests that its late answer and the next one meet. -/
theorem recovers_iff_lost_lateAtr :
    let answers := [plainAnswer .dataBlock 0 [0x3B], plainAnswer .slotStatus 1 [],
      plainAnswer .slotStatus 2 []]
    let operations : List Operation := [.powerOn, .slotStatus, .slotStatus]
    let pipe : Pipe TransportError :=
      { writes := []
        replies := .error .timeout :: script TransportError (answers.map Response.alone) }
    let session : Session TransportError :=
      { config := .default, sequence := .initial, lastAtr := none, power := .unknown, pipe }
    Session.start .default pipe = .ok session ∧
      Conversation .default 0 operations (answers.map Response.alone) ∧
      TakenWhole pipe.writes operations ∧
      (session.run operations).map Step.answer
        = [.error .timeout, .error (.sequenceMismatch 1 0), .error (.sequenceMismatch 2 1)] ∧
      (session.after operations).pipe.replies = [.ok (plainAnswer .slotStatus 2 []).encode] := by
  intro answers operations pipe session
  have started : Session.start .default pipe = .ok session :=
    Session.start_of_valid Config.validate_default
  have whole : TakenWhole pipe.writes operations := by simp [TakenWhole, pipe]
  obtain ⟨_, shifted, _⟩ :=
    recovers_iff_lost started conversation_plain (by decide) whole rfl true rfl
  exact ⟨started, conversation_plain, whole, shifted rfl⟩

/-- Calls after a timeout do not always get their own answers from the third call on. -/
theorem lateAnswer_spoils_thirdCall :
    ¬ ∀ (config : Config) (pipe : Pipe TransportError) (session : Session TransportError)
        (operations : List Operation) (answers : List Response),
        Session.start config pipe = .ok session → 3 ≤ operations.length →
        Conversation config 0 operations (answers.map Response.alone) →
        (∀ answer ∈ answers, answer.dataLength.toNat = answer.payload.length) →
        TakenWhole pipe.writes operations →
        pipe.replies = .error .timeout :: script TransportError (answers.map Response.alone) →
        ((session.run operations).map Step.answer).drop 2
          = ownAnswers (operations.drop 2) (answers.drop 2) := by
  intro claimed
  let pipe : Pipe TransportError :=
    { writes := []
      replies := .error .timeout :: script TransportError
        ([plainAnswer .dataBlock 0 [0x3B], plainAnswer .slotStatus 1 [],
          plainAnswer .slotStatus 2 []].map Response.alone) }
  have own := claimed .default pipe _ _ _ (Session.start_of_valid Config.validate_default)
    (by decide) conversation_plain (by decide) (by simp [TakenWhole, pipe]) rfl
  -- The third call fails, and its own answer would have been a success.
  exact absurd (congrArg (List.map Except.isOk) own) (by decide)

end Ccid

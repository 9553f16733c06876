import Ccid.Proofs.Session.Refinement
import Ccid.Proofs.Session.Runs

/-!
How far a call counts the requests for more time, for every limit.

The count is a word as wide as the limit. Below the largest limit it never starts over, and a call
gives up at the first request beyond its limit. No count is beyond the largest limit: there a call
grants every request, and its count starts over when the words are used up.
-/

namespace Ccid

variable {Fault : Type}

/-- The count of granted requests that something seen tells. -/
def Event.extensions? : Event Fault → Option UInt32
  | .notice (.timeExtension count) => some count
  | _ => none

/-- The counts of granted requests that a wait tells. -/
def Wait.extensions (wait : Wait Fault) : List UInt32 :=
  wait.events.filterMap Event.extensions?

/-- The counts of granted requests that a call tells. -/
def Step.extensions {Reply : Type} (step : Step Fault Reply) : List UInt32 :=
  step.events.filterMap Event.extensions?

/-- So many numbers in words, from the one after the given number on. -/
def countsFrom (number length : Nat) : List UInt32 :=
  (List.range' (number + 1) length).map UInt32.ofNat

/-- The first of some numbers stands before the others, which go on from it. -/
theorem countsFrom_succ (number length : Nat) :
    countsFrom number (length + 1)
      = UInt32.ofNat (number + 1) :: countsFrom (number + 1) length := by
  simp only [countsFrom, List.range'_succ, List.map_cons]

/-- As long as there are fewer numbers than words, the words tell the numbers. -/
theorem toNat_countsFrom {length : Nat} (few : length < UInt32.size) :
    (countsFrom 0 length).map UInt32.toNat = List.range' 1 length := by
  rw [countsFrom, List.map_map, Nat.zero_add]
  apply (List.map_congr_left fun number member => ?_).trans (List.map_id _)
  -- Every number up to the last one is its own remainder by the number of words.
  have bound : number < 1 + length := (List.mem_range'_1.mp member).2
  have room : length < 2 ^ 32 := few
  rw [Function.comp_apply, UInt32.toNat_ofNat', Nat.mod_eq_of_lt (by omega), id]

/-- What a call tells of its response are no counts of granted requests. -/
theorem Operation.notices_silent (operation : Operation) (response : Response) :
    ((operation.notices response).map Event.notice : List (Event Fault)).filterMap
      Event.extensions? = [] := by
  -- Granted requests are counted within the exchange, and not after it.
  rw [List.filterMap_map, List.filterMap_eq_nil_iff]
  intro entry told
  cases closing_of_mem_notices told <;> rfl

variable [BulkFault Fault]

section Wait

variable (check : Octets → Except ExchangeError Response) (limit : UInt32) (timeout : Duration)

/-- A wait whose first reply asks for no time is decided by that reply. -/
theorem awaitAnswer_at_once (granted : UInt32) {replies : List (Except Fault Octets)}
    (decisive : asksForTime check replies.head? = false) :
    let wait := awaitAnswer check limit timeout granted replies
    let asked := openingExtensions check replies
    wait.answer = judge check replies[asked]? ∧ wait.reads = asked + 1 := by
  have ended := awaitAnswer_of_decisive check limit timeout granted decisive
  simp only [openingExtensions_of_decisive decisive]
  refine ⟨?_, ended.reads⟩
  rw [ended.answer, decisive, if_neg (by decide), List.head?_eq_getElem?]

/-- A wait whose first reply asks for no time makes one read and tells no count. -/
theorem extensions_at_once (granted : UInt32) {replies : List (Except Fault Octets)}
    (decisive : asksForTime check replies.head? = false) :
    let wait := awaitAnswer check limit timeout granted replies
    wait.reads = 1 ∧ wait.extensions = [] := by
  refine ⟨(awaitAnswer_of_decisive check limit timeout granted decisive).reads, ?_⟩
  -- Of that read, at most the arrival of a transfer is told.
  cases replies with
  | nil => rfl
  | cons reply unread =>
    cases reply with
    | error fault => rfl
    | ok sent =>
      simp only [List.head?_cons, asksForTime, judge] at decisive
      cases accepted : check (sent.take readLimit) with
      | error error => simp [awaitAnswer, accepted, Wait.extensions, Event.extensions?]
      | ok response =>
        simp only [accepted] at decisive
        simp [awaitAnswer, accepted, decisive, Wait.extensions, Event.extensions?]

/-- At the largest limit every request is granted, and the reply after all of them decides. -/
theorem awaitAnswer_unlimited (largest : limit.toNat + 1 = UInt32.size) (granted : UInt32)
    (replies : List (Except Fault Octets)) :
    let wait := awaitAnswer check limit timeout granted replies
    let asked := openingExtensions check replies
    wait.answer = judge check replies[asked]? ∧ wait.reads = asked + 1 := by
  -- The induction follows the reads; whatever the count is by then, it is not beyond the limit.
  induction replies generalizing granted with
  | nil =>
    have decisive : asksForTime check ([] : List (Except Fault Octets)).head? = false := rfl
    exact awaitAnswer_at_once check limit timeout granted decisive
  | cons reply unread ih =>
    cases asks : asksForTime check (some reply) with
    | false =>
      have decisive : asksForTime check (reply :: unread).head? = false := asks
      exact awaitAnswer_at_once check limit timeout granted decisive
    | true =>
      obtain ⟨sent, rfl⟩ := exists_sent_of_asks asks
      have within : ¬ granted + 1 > limit := by
        intro beyond
        have excess : limit.toNat < (granted + 1).toNat := UInt32.lt_iff_toNat_lt.mp beyond
        have word : (granted + 1).toNat < UInt32.size := UInt32.toNat_lt_size _
        omega
      have count : openingExtensions check (.ok sent :: unread)
          = openingExtensions check unread + 1 := by
        rw [← List.singleton_append, openingExtensions_append unread (by simpa using asks)]
        exact Nat.add_comm 1 _
      obtain ⟨answer, reads⟩ := ih (granted + 1)
      simp only [Wait.reads] at reads
      rw [awaitAnswer_of_asks check limit timeout granted unread asks, if_neg within]
      simp only [count, List.getElem?_cons_succ]
      refine ⟨answer, ?_⟩
      simp [Wait.reads, Wait.after, arrival, List.countP_cons, reads]

/-- A wait tells one count for every read but the last, each one more than the count before. -/
theorem extensions_awaitAnswer (number : Nat) (replies : List (Except Fault Octets)) :
    let wait := awaitAnswer check limit timeout (UInt32.ofNat number) replies
    ∃ granted, wait.reads = granted + 1 ∧ wait.extensions = countsFrom number granted := by
  -- The induction follows the reads, and the count goes on from the number reached by then.
  induction replies generalizing number with
  | nil => exact ⟨0, rfl, rfl⟩
  | cons reply unread ih =>
    cases asks : asksForTime check (some reply) with
    | false =>
      have decisive : asksForTime check (reply :: unread).head? = false := asks
      exact ⟨0, extensions_at_once check limit timeout _ decisive⟩
    | true =>
      obtain ⟨sent, rfl⟩ := exists_sent_of_asks asks
      rw [awaitAnswer_of_asks check limit timeout _ unread asks]
      split
      · exact ⟨0, rfl, rfl⟩
      · -- One more request is granted, and the rest of the wait counts on from there.
        have next : UInt32.ofNat (number + 1) = UInt32.ofNat number + 1 :=
          UInt32.ofNat_add number 1
        obtain ⟨granted, reads, told⟩ := ih (number + 1)
        rw [next] at reads told
        simp only [Wait.reads] at reads
        refine ⟨granted + 1, ?_, ?_⟩
        · simp [Wait.reads, Wait.after, arrival, List.countP_cons, reads]
        · rw [countsFrom_succ, next, ← told]
          rfl

end Wait

/-- An exchange tells one count for every read but the last. -/
theorem Exchanged.extensions_eq {session : Session Fault} {command : Command}
    {step : Step Fault Response} (exchanged : Exchanged session command step) :
    step.extensions = countsFrom 0 (step.reads - 1) := by
  -- Without a wait there are neither reads nor counts.
  cases exchanged with
  | refused | unwritten | miscounted => rfl
  | awaited =>
    obtain ⟨granted, reads, told⟩ :=
      extensions_awaitAnswer (checkResponse command command.sequence)
        session.config.maxTimeExtensions session.config.timeout 0 session.pipe.replies
    have waited : (session.wait command).reads = granted + 1 := reads
    rw [Session.reads_awaited, waited, Nat.add_sub_cancel, ← told]
    simp only [Step.extensions, Session.departure, List.filterMap_append]
    rfl

namespace Session

/-- A call tells one count for every read but the last. -/
theorem extensions_perform (session : Session Fault) (operation : Operation) :
    (session.perform operation).extensions
      = countsFrom 0 ((session.perform operation).reads - 1) := by
  -- What the call adds to its exchange holds no count.
  rw [perform_reads, ← (session.issue_exchanged operation).extensions_eq, perform_eq]
  cases (session.issue operation).answer with
  | error error => rfl
  | ok response =>
    simp only [Step.extensions, List.filterMap_append, operation.notices_silent, List.append_nil]

/-- A call that does not come to wait for an answer reads nothing. -/
theorem reads_of_unsent {session : Session Fault} {operation : Operation}
    (unsent : ¬ (operation.payload.length ≤ maxPayloadSize ∧
      session.writeOutcome operation = .ok (session.commandFor operation).frame.length)) :
    (session.perform operation).reads = 0 := by
  -- Only the last way of an exchange comes to a wait, and its command is written in full.
  rw [perform_reads]
  have exchanged := session.issue_exchanged operation
  generalize session.issue operation = step at exchanged
  cases exchanged with
  | refused | unwritten | miscounted => rfl
  | awaited fits whole => exact absurd ⟨fits, whole⟩ unsent

end Session

/-- A call that grants no more time than its limit allows, and that counts what it grants. -/
structure Bounded (session : Session Fault) (operation : Operation)
    (step : Step Fault Answer) : Prop where
  /-- The counts that are told go up from one, so the count never starts over. -/
  counted : step.extensions.map UInt32.toNat = List.range' 1 step.extensions.length
  /-- No call makes more reads than one beyond the limit. -/
  reads_le : step.reads ≤ session.config.maxTimeExtensions.toNat + 1
  /-- If as many reads as that deliver valid requests, the call is given up. -/
  refused : operation.payload.length ≤ maxPayloadSize →
    session.writeOutcome operation = .ok (session.commandFor operation).frame.length →
    session.config.maxTimeExtensions.toNat + 1 ≤ session.requests operation →
      step.answer = .error (.tooManyTimeExtensions session.config.maxTimeExtensions)

/-- A call at the largest limit that meets at least as many valid requests as there are words. -/
structure Overrun (session : Session Fault) (operation : Operation) : Prop where
  fits : operation.payload.length ≤ maxPayloadSize
  whole : session.writeOutcome operation = .ok (session.commandFor operation).frame.length
  largest : session.config.maxTimeExtensions.toNat + 1 = UInt32.size
  asked : UInt32.size ≤ session.requests operation

/-- A call that is overrun grants every request, and what comes after them decides it. -/
theorem Overrun.perform_eq {session : Session Fault} {operation : Operation}
    (overrun : Overrun session operation) :
    (session.perform operation).answer =
        (judge (session.verdict operation)
          session.pipe.replies[session.requests operation]?).bind operation.conclude ∧
      (session.perform operation).reads = session.requests operation + 1 := by
  -- The command is written in full, so its wait decides, and that wait gives up at nothing.
  obtain ⟨waited, read⟩ :=
    (session.issue_exchanged operation).of_whole overrun.fits overrun.whole
  obtain ⟨judged, count⟩ :=
    awaitAnswer_unlimited (session.verdict operation) session.config.maxTimeExtensions
      session.config.timeout overrun.largest 0 session.pipe.replies
  refine ⟨?_, (session.perform_reads operation).trans (read.trans count)⟩
  rw [session.perform_answer, waited]
  exact congrArg (·.bind operation.conclude) judged

/-- A call that makes no read too many counts well, so it is bounded if it also gives up in time. -/
theorem Bounded.of_reads_le {session : Session Fault} {operation : Operation}
    (few : (session.perform operation).reads ≤ session.config.maxTimeExtensions.toNat + 1)
    (refused : operation.payload.length ≤ maxPayloadSize →
      session.writeOutcome operation = .ok (session.commandFor operation).frame.length →
      session.config.maxTimeExtensions.toNat + 1 ≤ session.requests operation →
        (session.perform operation).answer
          = .error (.tooManyTimeExtensions session.config.maxTimeExtensions)) :
    Bounded session operation (session.perform operation) := by
  -- There is a count for every read but the last, and those are fewer than the words.
  have counts : (session.perform operation).reads - 1 < UInt32.size :=
    Nat.lt_of_le_of_lt (Nat.sub_le_of_le_add few) session.config.maxTimeExtensions.toNat_lt
  refine { counted := ?_, reads_le := few, refused }
  rw [session.extensions_perform operation, toNat_countsFrom counts]
  simp [countsFrom]

/-- A call is bounded by its limit, whatever that is, unless it is overrun. -/
theorem bounded_iff_not_overrun (session : Session Fault) (operation : Operation) :
    Bounded session operation (session.perform operation) ↔ ¬ Overrun session operation := by
  constructor
  · -- A call that is overrun reads more often than its limit allows.
    intro bounded overrun
    have reads := overrun.perform_eq.2
    have bound := bounded.reads_le
    have largest := overrun.largest
    have asked := overrun.asked
    omega
  · intro running
    by_cases sent : operation.payload.length ≤ maxPayloadSize ∧
        session.writeOutcome operation = .ok (session.commandFor operation).frame.length
    · obtain ⟨fits, whole⟩ := sent
      rcases Nat.lt_or_ge session.config.maxTimeExtensions.toNat (session.requests operation)
        with many | few
      · -- Below the largest limit, the first excess request is refused.
        have word := session.config.maxTimeExtensions.toNat_lt_size
        have small : session.config.maxTimeExtensions.toNat + 1 < UInt32.size := by
          apply Nat.lt_of_not_le
          intro largest
          exact running ⟨fits, whole, by omega, by omega⟩
        obtain ⟨answer, reads, _⟩ := session.perform_of_many fits whole small many
        exact .of_reads_le (Nat.le_of_eq reads) fun _ _ _ => answer
      · -- All requests are granted, and there is one read more than requests.
        obtain ⟨_, reads, _⟩ := session.perform_of_few fits whole few
        exact .of_reads_le (by omega) fun _ _ many => by omega
    · -- Nothing is read, so nothing is counted either.
      have unread := session.reads_of_unsent sent
      exact .of_reads_le (by omega) fun fits whole _ => absurd ⟨fits, whole⟩ sent

/-- A script that opens with the same valid request over and over opens with so many requests. -/
theorem openingExtensions_replicate {check : Octets → Except ExchangeError Response}
    (count : Nat) {request : Except Fault Octets} {rest : List (Except Fault Octets)}
    (asks : asksForTime check (some request) = true)
    (decisive : asksForTime check rest.head? = false) :
    openingExtensions check (List.replicate count request ++ rest) = count := by
  -- The requests stand in front of the first reply that is none.
  rw [openingExtensions_append rest, List.length_replicate, openingExtensions_of_decisive decisive,
    Nat.add_zero]
  intro reply member
  rw [List.eq_of_mem_replicate member]
  exact asks

/--
At the largest limit no count is beyond the limit, so a card may ask for more time without end.

Here it asks once more than allowed: the last request is granted under the count zero, and the
answer after it is taken.
-/
theorem largestLimit_never_refuses :
    let request : Octets := [0x81, 0, 0, 0, 0, 0, 0, 0x80, 0, 0]
    let response : Response :=
      { kind := .slotStatus, dataLength := 0, slot := 0, sequence := 0, status := ⟨0⟩, error := 0
        chainParameter := 0, payload := [] }
    let config : Config := { Config.default with maxTimeExtensions := 4294967295 }
    let pipe : Pipe TransportError :=
      { writes := []
        replies := List.replicate 4294967296 (.ok request) ++ [.ok response.encode] }
    let session : Session TransportError :=
      { config, sequence := .initial, lastAtr := none, power := .unknown, pipe }
    let step := session.perform .slotStatus
    Session.start config pipe = .ok session ∧
      session.requests .slotStatus = config.maxTimeExtensions.toNat + 1 ∧
      step.answer = .ok (.response response) ∧
      step.reads = config.maxTimeExtensions.toNat + 2 ∧
      step.extensions[4294967295]? = some 0 ∧
      ¬ Bounded session .slotStatus step := by
  intro request response config pipe session step
  have started : Session.start config pipe = .ok session :=
    Session.start_of_valid Config.validate_default
  have accepted : session.verdict .slotStatus (response.encode.take readLimit) = .ok response := by
    cbv
  have asked : session.requests .slotStatus = 4294967296 :=
    openingExtensions_replicate 4294967296 rfl (by decide)
  have overrun : Overrun session .slotStatus :=
    { fits := by decide
      whole := rfl
      largest := rfl
      asked := Nat.le_of_eq asked.symm }
  obtain ⟨answer, reads⟩ := overrun.perform_eq
  rw [asked] at answer reads
  -- The reply after all the requests is the answer.
  have final : session.pipe.replies[4294967296]? = some (.ok response.encode) := by
    show (List.replicate 4294967296 _ ++ [_])[4294967296]? = _
    rw [List.getElem?_append_right (Nat.le_of_eq List.length_replicate), List.length_replicate,
      Nat.sub_self]
    rfl
  have told : step.extensions[4294967295]? = some 0 := by
    rw [session.extensions_perform .slotStatus, reads, countsFrom, List.getElem?_map,
      List.getElem?_range' (by decide)]
    rfl
  refine ⟨started, asked, ?_, reads, told, ?_⟩
  · rw [final, judge, accepted] at answer
    exact answer
  · intro bounded
    have bound := bounded.reads_le
    rw [reads] at bound
    exact absurd bound (by decide)

end Ccid

import Ccid.Proofs.Session.Checking

/-!
How a wait for an answer ends.

A wait grants valid requests for more time, and the first reply that is none of them decides it,
unless one request more than the limit allows comes first.
-/

namespace Ccid

variable {Fault : Type}

/-- Whether something seen is a read. -/
def Event.isRead : Event Fault → Bool
  | .read .. => true
  | _ => false

@[simp] theorem Event.isRead_read (limit : Nat) (timeout : Duration)
    (outcome : Except Fault Octets) : (Event.read limit timeout outcome).isRead = true := rfl

@[simp] theorem Event.isRead_write (frame : Octets) (timeout : Duration)
    (outcome : Except Fault Nat) : (Event.write frame timeout outcome).isRead = false := rfl

@[simp] theorem Event.isRead_notice (entry : Notice) :
    (Event.notice entry : Event Fault).isRead = false := rfl

/-- The frame that is written, if something seen is a write. -/
def Event.written? : Event Fault → Option Octets
  | .write frame _ _ => some frame
  | _ => none

@[simp] theorem Event.written?_read (limit : Nat) (timeout : Duration)
    (outcome : Except Fault Octets) : (Event.read limit timeout outcome).written? = none := rfl

@[simp] theorem Event.written?_write (frame : Octets) (timeout : Duration)
    (outcome : Except Fault Nat) : (Event.write frame timeout outcome).written? = some frame := rfl

@[simp] theorem Event.written?_notice (entry : Notice) :
    (Event.notice entry : Event Fault).written? = none := rfl

/-- How many reads a wait made. -/
def Wait.reads (wait : Wait Fault) : Nat :=
  wait.events.countP Event.isRead

variable [BulkFault Fault]

/-- A failed transfer as the failure of a call: a timeout is one, whatever was transferred. -/
def transferFailure (fault : Fault) : ExchangeError :=
  if BulkFault.cause fault = .timeout then .timeout else .transport (BulkFault.cause fault)

/-- The failure of a call is told from its transfer's by whether that timed out. -/
theorem ofTransport_cause (fault : Fault) :
    ExchangeError.ofTransport (BulkFault.cause fault) = transferFailure fault := by
  -- Of the causes, only a timeout has a failure of its own.
  unfold transferFailure
  cases BulkFault.cause fault <;> rfl

/-- What the read that ends a wait comes to, where a read that nothing answers times out. -/
def judge (check : Octets → Except ExchangeError Response) :
    Option (Except Fault Octets) → Except ExchangeError Response
  | none => .error .timeout
  | some (.error fault) => .error (transferFailure fault)
  | some (.ok sent) => check (sent.take readLimit)

/-- Whether a read yields a valid answer by which the card asks for more time. -/
def asksForTime (check : Octets → Except ExchangeError Response)
    (reply : Option (Except Fault Octets)) : Bool :=
  match judge check reply with
  | .ok response => response.status.isTimeExtension
  | .error _ => false

/-- How many valid requests for more time a script opens with. -/
def openingExtensions (check : Octets → Except ExchangeError Response)
    (replies : List (Except Fault Octets)) : Nat :=
  (replies.takeWhile fun reply => asksForTime check (some reply)).length

/-- Requests that a script opens with are counted together with those that follow them. -/
theorem openingExtensions_append {check : Octets → Except ExchangeError Response}
    {skipped : List (Except Fault Octets)} (rest : List (Except Fault Octets))
    (extensions : ∀ reply ∈ skipped, asksForTime check (some reply) = true) :
    openingExtensions check (skipped ++ rest) = skipped.length + openingExtensions check rest := by
  -- The count runs through the first part without a stop.
  simp only [openingExtensions]
  rw [List.takeWhile_append_of_pos extensions, List.length_append]

/--
How a wait ended that granted the skipped replies their requests.

The next reply decided it, which is one of the rest or, where none is left, a timeout.
-/
structure Ended (check : Octets → Except ExchangeError Response) (limit granted : UInt32)
    (skipped rest : List (Except Fault Octets)) (wait : Wait Fault) : Prop where
  extensions : ∀ reply ∈ skipped, asksForTime check (some reply) = true
  answer : wait.answer =
    if asksForTime check rest.head? then .error (.tooManyTimeExtensions limit)
    else judge check rest.head?
  unread : wait.unread = rest.tail
  reads : wait.reads = skipped.length + 1
  unwritten : wait.events.filterMap Event.written? = []
  /-- A request is refused only beyond the limit. -/
  exceeded : asksForTime check rest.head? = true →
    limit.toNat < granted.toNat + skipped.length + 1
  /-- Below the largest count, no more requests than the limit are granted. -/
  counted : limit.toNat + 1 < UInt32.size → granted.toNat ≤ limit.toNat →
    granted.toNat + skipped.length ≤ limit.toNat

/-- A reply that asks for no time ends a wait at once. -/
theorem awaitAnswer_of_decisive (check : Octets → Except ExchangeError Response)
    (limit : UInt32) (timeout : Duration) (granted : UInt32)
    {replies : List (Except Fault Octets)} (decisive : asksForTime check replies.head? = false) :
    Ended check limit granted [] replies (awaitAnswer check limit timeout granted replies) := by
  -- One read is made, and the wait ends with whatever that comes to.
  have outcome : (awaitAnswer check limit timeout granted replies).answer
      = judge check replies.head? ∧
      (awaitAnswer check limit timeout granted replies).unread = replies.tail ∧
      (awaitAnswer check limit timeout granted replies).reads = 1 ∧
      (awaitAnswer check limit timeout granted replies).events.filterMap Event.written? = [] := by
    cases replies with
    | nil =>
      simp [awaitAnswer, judge, Wait.reads, BulkFault.cause_timeout, ExchangeError.ofTransport]
    | cons reply unread =>
      cases reply with
      | error fault => simp [awaitAnswer, judge, Wait.reads, ofTransport_cause]
      | ok sent =>
        simp only [List.head?_cons, asksForTime, judge] at decisive
        cases accepted : check (sent.take readLimit) with
        | error error => simp [awaitAnswer, judge, accepted, Wait.reads, List.countP_cons]
        | ok response =>
          simp only [accepted] at decisive
          simp [awaitAnswer, judge, accepted, decisive, Wait.reads, List.countP_cons]
  obtain ⟨answer, unread, reads, unwritten⟩ := outcome
  exact
    { extensions := by simp
      answer := by rw [answer, decisive, if_neg (by decide)]
      unread
      reads
      unwritten
      exceeded := by simp [decisive]
      counted := by simp }

/-- What is seen of a transfer that arrives. -/
def arrival (timeout : Duration) (sent : Octets) : List (Event Fault) :=
  [.read readLimit timeout (.ok (sent.take readLimit)),
    .notice (.received (sent.take readLimit))]

/-- Only a transfer that arrives asks for time. -/
theorem exists_sent_of_asks {check : Octets → Except ExchangeError Response}
    {reply : Except Fault Octets} (asks : asksForTime check (some reply) = true) :
    ∃ sent, reply = .ok sent := by
  cases reply with
  | error fault => simp [asksForTime, judge] at asks
  | ok sent => exact ⟨sent, rfl⟩

/-- A valid request for more time is refused beyond the limit, and the wait goes on otherwise. -/
theorem awaitAnswer_of_asks (check : Octets → Except ExchangeError Response)
    (limit : UInt32) (timeout : Duration) (granted : UInt32) {sent : Octets}
    (unread : List (Except Fault Octets))
    (asks : asksForTime check (some (.ok sent : Except Fault Octets)) = true) :
    awaitAnswer check limit timeout granted (.ok sent :: unread) =
      if granted + 1 > limit then
        { answer := .error (.tooManyTimeExtensions limit), unread, events := arrival timeout sent }
      else
        (awaitAnswer check limit timeout (granted + 1) unread).after
          (arrival timeout sent ++ [.notice (.timeExtension (granted + 1))]) := by
  -- A transfer that asks for time was accepted first, so the other branches are closed.
  simp only [asksForTime, judge] at asks
  cases accepted : check (sent.take readLimit) with
  | error error => simp [accepted] at asks
  | ok response =>
    simp only [accepted] at asks
    simp only [awaitAnswer, accepted, asks, if_true, arrival]

/-- Every wait grants some requests for more time and is decided by the reply after them. -/
theorem awaitAnswer_ends (check : Octets → Except ExchangeError Response) (limit : UInt32)
    (timeout : Duration) (granted : UInt32) (replies : List (Except Fault Octets)) :
    ∃ skipped rest, replies = skipped ++ rest ∧
      Ended check limit granted skipped rest
        (awaitAnswer check limit timeout granted replies) := by
  -- The induction follows the reads; the count of granted requests moves with it.
  induction replies generalizing granted with
  | nil => exact ⟨[], [], rfl, awaitAnswer_of_decisive check limit timeout granted rfl⟩
  | cons reply unread ih =>
    cases asks : asksForTime check (some reply) with
    | false =>
      exact ⟨[], reply :: unread, rfl, awaitAnswer_of_decisive check limit timeout granted asks⟩
    | true =>
      obtain ⟨sent, rfl⟩ := exists_sent_of_asks asks
      rw [awaitAnswer_of_asks check limit timeout granted unread asks]
      -- The count is a 32-bit word, so it may be smaller than its predecessor but never larger.
      have next : (granted + 1).toNat = (granted.toNat + 1) % 2 ^ 32 := UInt32.toNat_add granted 1
      by_cases beyond : granted + 1 > limit
      · -- The request is the deciding reply, and it is refused.
        rw [if_pos beyond]
        have excess : limit.toNat < (granted + 1).toNat := UInt32.lt_iff_toNat_lt.mp beyond
        refine ⟨[], .ok sent :: unread, rfl, ?_⟩
        exact
          { extensions := by simp
            answer := by simp [asks]
            unread := rfl
            reads := by simp [Wait.reads, arrival, List.countP_cons]
            unwritten := by simp [arrival]
            exceeded := by
              intro _
              simp only [List.length_nil]
              omega
            counted := by simp }
      · -- The request is granted, and the rest of the wait is the same with one more granted.
        rw [if_neg beyond]
        have allowed : (granted + 1).toNat ≤ limit.toNat :=
          Nat.not_lt.mp fun excess => beyond (UInt32.lt_iff_toNat_lt.mpr excess)
        obtain ⟨skipped, rest, split, ended⟩ := ih (granted + 1)
        refine ⟨.ok sent :: skipped, rest, by rw [split, List.cons_append], ?_⟩
        exact
          { extensions := by
              intro other member
              rcases List.mem_cons.mp member with rfl | member
              · exact asks
              · exact ended.extensions other member
            answer := ended.answer
            unread := ended.unread
            reads := by
              have reads := ended.reads
              simp only [Wait.reads] at reads
              simp [Wait.reads, Wait.after, arrival, List.countP_cons, reads]
            unwritten := by
              show List.filterMap Event.written? (_ ++ _) = []
              rw [List.filterMap_append, ended.unwritten]
              rfl
            exceeded := by
              intro refused
              have exceeded := ended.exceeded refused
              simp only [List.length_cons]
              omega
            counted := by
              intro small below
              have room : limit.toNat + 1 < 2 ^ 32 := small
              have counted := ended.counted small allowed
              simp only [List.length_cons]
              omega }

namespace Ended

variable {check : Octets → Except ExchangeError Response} {limit granted : UInt32}
  {skipped rest : List (Except Fault Octets)} {wait : Wait Fault}

/-- A wait leaves the script after the replies it read. -/
theorem unread_eq_drop (ended : Ended check limit granted skipped rest wait) :
    wait.unread = (skipped ++ rest).drop wait.reads := by
  -- The requests granted and the deciding reply are what was read.
  rw [ended.unread, ended.reads, List.drop_append, List.drop_of_length_le (by omega)]
  simp

/-- A wait read the requests that it granted and the deciding reply. -/
theorem take_reads (ended : Ended check limit granted skipped rest wait) :
    (skipped ++ rest).take wait.reads = skipped ++ rest.take 1 := by
  -- There may be no deciding reply, where the last read ran into the end of the script.
  rw [ended.reads, List.take_append, List.take_of_length_le (by omega)]
  simp

/-- A transfer that is refused ends the wait with its refusal. -/
theorem of_refused (ended : Ended check limit granted skipped rest wait) {sent : Octets}
    {error : ExchangeError} (member : .ok sent ∈ (skipped ++ rest).take wait.reads)
    (refused : check (sent.take readLimit) = .error error) :
    wait.answer = .error error ∧ (skipped ++ rest).take wait.reads = skipped ++ [.ok sent] := by
  -- A refused transfer asks for nothing, so it can only be the deciding reply.
  have asks : asksForTime check (some (.ok sent : Except Fault Octets)) = false := by
    simp [asksForTime, judge, refused]
  rw [ended.take_reads] at member ⊢
  rcases List.mem_append.mp member with granted | decisive
  · -- A refused transfer is no request that was granted.
    have request := ended.extensions _ granted
    rw [asks] at request
    simp at request
  · cases rest with
    | nil => simp at decisive
    | cons reply unread =>
      simp only [List.take_succ_cons, List.take_zero, List.mem_singleton] at decisive
      subst decisive
      have answer := ended.answer
      rw [List.head?_cons, asks, if_neg (by decide)] at answer
      exact ⟨by rw [answer, judge, refused], rfl⟩

/-- A wait that yields a response read requests for more time and then the response. -/
theorem of_ok (ended : Ended check limit granted skipped rest wait) {response : Response}
    (answered : wait.answer = .ok response) :
    ∃ final, (skipped ++ rest).take wait.reads = skipped ++ [.ok final] ∧
      check (final.take readLimit) = .ok response ∧ response.status.isTimeExtension = false := by
  have answer := ended.answer
  rw [answered] at answer
  rw [ended.take_reads]
  -- The deciding reply asks for no time, or the wait had ended with an error.
  cases asks : asksForTime check rest.head? with
  | true => simp [asks] at answer
  | false =>
    rw [asks, if_neg (by decide)] at answer
    cases rest with
    | nil => simp [judge] at answer
    | cons reply unread =>
      cases reply with
      | error fault => simp [judge] at answer
      | ok final =>
        have accepted : check (final.take readLimit) = .ok response := answer.symm
        simp only [List.head?_cons, asksForTime, judge, accepted] at asks
        exact ⟨final, rfl, accepted, asks⟩

/-- Every request that a wait granted is a transfer that was accepted. -/
theorem accepted_of_granted (ended : Ended check limit granted skipped rest wait)
    {reply : Except Fault Octets} (member : reply ∈ skipped) :
    ∃ sent response, reply = .ok sent ∧ check (sent.take readLimit) = .ok response ∧
      response.status.isTimeExtension = true := by
  -- A granted reply asked for time, and only an accepted transfer does.
  have asks := ended.extensions reply member
  obtain ⟨sent, rfl⟩ := exists_sent_of_asks asks
  simp only [asksForTime, judge] at asks
  cases accepted : check (sent.take readLimit) with
  | error error => simp [accepted] at asks
  | ok response => exact ⟨sent, response, rfl, accepted, by simpa [accepted] using asks⟩

end Ended

/-- A script whose first reply asks for no time opens with no request. -/
theorem openingExtensions_of_decisive {check : Octets → Except ExchangeError Response}
    {replies : List (Except Fault Octets)} (decisive : asksForTime check replies.head? = false) :
    openingExtensions check replies = 0 := by
  cases replies with
  | nil => rfl
  | cons reply unread =>
    rw [List.head?_cons] at decisive
    simp [openingExtensions, decisive]

/-- A script whose first reply asks for time opens with a request. -/
theorem openingExtensions_of_asks {check : Octets → Except ExchangeError Response}
    {replies : List (Except Fault Octets)} (asks : asksForTime check replies.head? = true) :
    0 < openingExtensions check replies := by
  cases replies with
  | nil => simp [asksForTime, judge] at asks
  | cons reply unread =>
    rw [List.head?_cons] at asks
    simp [openingExtensions, asks]

/-- A wait that may grant all requests of the script is decided by the reply after them. -/
theorem awaitAnswer_within (check : Octets → Except ExchangeError Response) {limit : UInt32}
    (timeout : Duration) {replies : List (Except Fault Octets)}
    (few : openingExtensions check replies ≤ limit.toNat) :
    let wait := awaitAnswer check limit timeout 0 replies
    let asked := openingExtensions check replies
    wait.answer = judge check replies[asked]? ∧ wait.unread = replies.drop (asked + 1) ∧
      wait.reads = asked + 1 := by
  -- The requests that were granted are all of the script's, since nothing stopped the wait before.
  obtain ⟨skipped, rest, split, ended⟩ := awaitAnswer_ends check limit timeout 0 replies
  have count := openingExtensions_append rest ended.extensions
  rw [← split] at count
  cases asks : asksForTime check rest.head? with
  | true =>
    -- One more request beyond the limit would make the script's requests too many.
    have exceeded := ended.exceeded asks
    have more := openingExtensions_of_asks asks
    rw [UInt32.toNat_zero] at exceeded
    omega
  | false =>
    rw [openingExtensions_of_decisive asks, Nat.add_zero] at count
    simp only [count]
    refine ⟨?_, ?_, ended.reads⟩
    · rw [ended.answer, asks, if_neg (by decide), split, List.getElem?_append_right (by omega),
        Nat.sub_self, List.head?_eq_getElem?]
    · rw [ended.unread_eq_drop, ← split, ended.reads]

/-- A wait that is asked for more time than the limit allows ends with the first excess request. -/
theorem awaitAnswer_beyond (check : Octets → Except ExchangeError Response) {limit : UInt32}
    (timeout : Duration) {replies : List (Except Fault Octets)}
    (small : limit.toNat + 1 < UInt32.size) (many : limit.toNat < openingExtensions check replies) :
    let wait := awaitAnswer check limit timeout 0 replies
    wait.answer = .error (.tooManyTimeExtensions limit) ∧
      wait.unread = replies.drop (limit.toNat + 1) ∧ wait.reads = limit.toNat + 1 := by
  -- As many requests are granted as the limit allows, and the next one decides.
  obtain ⟨skipped, rest, split, ended⟩ := awaitAnswer_ends check limit timeout 0 replies
  have count := openingExtensions_append rest ended.extensions
  rw [← split] at count
  have counted := ended.counted small (Nat.zero_le _)
  rw [UInt32.toNat_zero] at counted
  cases asks : asksForTime check rest.head? with
  | false =>
    -- All requests of the script were granted, which the limit does not allow.
    rw [openingExtensions_of_decisive asks] at count
    omega
  | true =>
    have exceeded := ended.exceeded asks
    rw [UInt32.toNat_zero] at exceeded
    have all : limit.toNat = skipped.length := by omega
    simp only [all]
    refine ⟨?_, ?_, ended.reads⟩
    · rw [ended.answer, asks, if_pos rfl]
    · rw [ended.unread_eq_drop, ← split, ended.reads]

end Ccid

import Ccid.Proofs.Session.Counting
import Ccid.Proofs.Session.Padding
import Mathlib.Data.List.Chain

/-!
What is seen while a session waits for an answer.

Every read is on record, and what it yields is told to the log before anything else happens. A valid
request for more time is told of by its count if it is granted, and it ends the wait if it is not.
-/

namespace Ccid

namespace Notice

/-- Whether an entry tells of a frame that is about to be written. -/
def isSending : Notice → Bool
  | .sending _ => true
  | _ => false

/-- Whether an entry tells of a transfer that was read. -/
def isReceived : Notice → Bool
  | .received _ => true
  | _ => false

/-- Whether an entry counts a request for more time. -/
def isTimeExtension : Notice → Bool
  | .timeExtension _ => true
  | _ => false

/-- Whether an entry tells that the card was powered on. -/
def isPoweredOn : Notice → Bool
  | .poweredOn _ => true
  | _ => false

/-- Whether an entry tells what became of a power-off. -/
def isPowerOff : Notice → Bool
  | .poweredOff | .powerOffRefused _ => true
  | _ => false

end Notice

variable {Fault : Type}

/-- The entry of the log that something seen is, if it is one. -/
def Event.entry? : Event Fault → Option Notice
  | .notice entry => some entry
  | _ => none

/-- The octets that something seen reads, if it is a read that yields any. -/
def Event.delivered? : Event Fault → Option Octets
  | .read _ _ (.ok octets) => some octets
  | _ => none

/-- An entry as a line: its level, and what it says. -/
def Notice.logLine (entry : Notice) : LogLevel × String :=
  (entry.level, entry.text)

/-- The lines of one kind that are in the log, in their order. -/
def lines (kind : Notice → Bool) (events : List (Event Fault)) : List (LogLevel × String) :=
  ((events.filterMap Event.entry?).filter kind).map Notice.logLine

/-- What the reads yield, in their order. -/
def deliveries (events : List (Event Fault)) : List Octets :=
  events.filterMap Event.delivered?

/-- What replies bring, in their order, each as far as one read goes. -/
def arrivals (replies : List (Except Fault Octets)) : List Octets :=
  replies.filterMap fun
    | .ok sent => some (sent.take readLimit)
    | .error _ => none

/-- The lines of two parts are those of the first and then those of the second. -/
theorem lines_append (kind : Notice → Bool) (first second : List (Event Fault)) :
    lines kind (first ++ second) = lines kind first ++ lines kind second := by
  simp only [lines, List.filterMap_append, List.filter_append, List.map_append]

/-- The reads of two parts yield what those of the first do, then what those of the second do. -/
theorem deliveries_append (first second : List (Event Fault)) :
    deliveries (first ++ second) = deliveries first ++ deliveries second :=
  List.filterMap_append ..

@[simp] theorem lines_nil (kind : Notice → Bool) : lines kind ([] : List (Event Fault)) = [] := rfl

/-- An entry of the kind is a line, and any other entry is none. -/
@[simp] theorem lines_notice (kind : Notice → Bool) (entry : Notice) (rest : List (Event Fault)) :
    lines kind (.notice entry :: rest)
      = (if kind entry then [entry.logLine] else []) ++ lines kind rest := by
  cases of : kind entry <;> simp [lines, Event.entry?, of]

/-- A read is no line. -/
@[simp] theorem lines_read (kind : Notice → Bool) (limit : Nat) (timeout : Duration)
    (outcome : Except Fault Octets) (rest : List (Event Fault)) :
    lines kind (.read limit timeout outcome :: rest) = lines kind rest := rfl

/-- The lines of entries that come in a row are those of the kind among them. -/
theorem lines_entries (kind : Notice → Bool) (entries : List Notice) :
    lines kind (entries.map Event.notice : List (Event Fault))
      = (entries.filter kind).map Notice.logLine := by
  induction entries with
  -- Each entry in front is a line of its own if it is of the kind.
  | nil => rfl
  | cons entry rest ih =>
    rw [List.map_cons, lines_notice, ih]
    cases of : kind entry <;> simp [of]

/-- Entries of the log read nothing. -/
theorem deliveries_entries (entries : List Notice) :
    deliveries (entries.map Event.notice : List (Event Fault)) = [] := by
  simp [deliveries, List.filterMap_map, Function.comp_def, Event.delivered?]

/-- Whether octets are a valid answer by which the card asks for more time. -/
def asks (check : Octets → Except ExchangeError Response) (octets : Octets) : Bool :=
  match check octets with
  | .ok response => response.status.isTimeExtension
  | .error _ => false

/-- Octets that are refused ask for nothing. -/
theorem asks_of_error {check : Octets → Except ExchangeError Response} {octets : Octets}
    {error : ExchangeError} (refused : check octets = .error error) :
    asks check octets = false := by
  rw [asks, refused]

/-- Octets that are accepted ask for time by their status. -/
theorem asks_of_ok {check : Octets → Except ExchangeError Response} {octets : Octets}
    {response : Response} (accepted : check octets = .ok response) :
    asks check octets = response.status.isTimeExtension := by
  rw [asks, accepted]

/-- How many valid requests for more time are read. -/
def requestsRead (check : Octets → Except ExchangeError Response) (events : List (Event Fault)) :
    Nat :=
  (deliveries events).countP (asks check)

/-- The line by which a request for more time is counted. -/
def extensionLine (count : Nat) : LogLevel × String :=
  (.debug, "Card requested a time extension (" ++ count.repr ++ " so far)")

/-- What is seen of a transfer that is read. -/
def heard (timeout : Duration) (octets : Octets) : List (Event Fault) :=
  [.read readLimit timeout (.ok octets), .notice (.received octets)]

/-- A transfer that is read yields its octets. -/
@[simp] theorem deliveries_heard (timeout : Duration) (octets : Octets)
    (rest : List (Event Fault)) :
    deliveries (heard timeout octets ++ rest) = octets :: deliveries rest := rfl

/-- An entry of the log reads nothing. -/
@[simp] theorem deliveries_notice (entry : Notice) (rest : List (Event Fault)) :
    deliveries (.notice entry :: rest) = deliveries rest := rfl

/-- A transfer that is read counts if it is a request. -/
theorem requestsRead_heard (check : Octets → Except ExchangeError Response) (timeout : Duration)
    (octets : Octets) (rest : List (Event Fault)) :
    requestsRead check (heard timeout octets ++ rest)
      = requestsRead check rest + if asks check octets then 1 else 0 := by
  rw [requestsRead, deliveries_heard, List.countP_cons, requestsRead]

/-- A transfer that is read last counts by itself. -/
theorem requestsRead_last (check : Octets → Except ExchangeError Response) (timeout : Duration)
    (octets : Octets) :
    requestsRead check (heard timeout octets : List (Event Fault))
      = if asks check octets then 1 else 0 := by
  have counted : requestsRead check (heard timeout octets ++ [] : List (Event Fault)) = _ :=
    requestsRead_heard check timeout octets []
  rw [List.append_nil] at counted
  exact counted.trans (Nat.zero_add _)

/-- The read of a request counts whether or not its arrival has been told yet. -/
theorem requestsRead_read {check : Octets → Except ExchangeError Response} {timeout : Duration}
    {octets : Octets} (requests : asks check octets = true) :
    requestsRead check ([.read readLimit timeout (.ok octets)] : List (Event Fault)) = 1 := by
  have counted : requestsRead check (heard timeout octets : List (Event Fault)) = _ :=
    requestsRead_last check timeout octets
  rwa [if_pos requests] at counted

/-- Below the largest limit, one more request makes the count one more. -/
theorem toNat_next {limit granted : UInt32} (small : limit.toNat + 1 < UInt32.size)
    (below : granted.toNat ≤ limit.toNat) : (granted + 1).toNat = granted.toNat + 1 := by
  -- Adding one wraps around only at the last number of 32 bits.
  have room : limit.toNat + 1 < 2 ^ 32 := small
  have next : (granted + 1).toNat = (granted.toNat + 1) % 2 ^ 32 := UInt32.toNat_add granted 1
  omega

/-- Of a transfer that is read, its arrival is told. -/
@[simp] theorem lines_heard (kind : Notice → Bool) (timeout : Duration) (octets : Octets)
    (rest : List (Event Fault)) :
    lines kind (heard timeout octets ++ rest)
      = (if kind (.received octets) then [(.debug, "RX: " ++ Hex.lower octets)] else [])
        ++ lines kind rest :=
  lines_notice ..

/-- The ways in which a wait may go, with what it comes to and what is seen of it. -/
inductive Listened (check : Octets → Except ExchangeError Response) (limit : UInt32)
    (timeout : Duration) : UInt32 → Except ExchangeError Response → List (Event Fault) → Prop
  /-- Nothing arrives. -/
  | failed {granted : UInt32} {fault : Fault} {error : ExchangeError} :
    Listened check limit timeout granted (.error error)
      [.read readLimit timeout (.error fault)]
  /-- What arrives is no valid answer. -/
  | rejected {granted : UInt32} {octets : Octets} {error : ExchangeError} :
    check octets = .error error →
    Listened check limit timeout granted (.error error) (heard timeout octets)
  /-- The card asks for more time once more than the limit allows. -/
  | exceeded {granted : UInt32} {octets : Octets} {error : ExchangeError} :
    asks check octets = true → limit < granted + 1 →
    Listened check limit timeout granted (.error error) (heard timeout octets)
  /-- The card is granted more time, and the wait goes on. -/
  | extended {granted : UInt32} {octets : Octets} {answer : Except ExchangeError Response}
    {events : List (Event Fault)} : asks check octets = true → granted + 1 ≤ limit →
    Listened check limit timeout (granted + 1) answer events →
    Listened check limit timeout granted answer
      (heard timeout octets ++ .notice (.timeExtension (granted + 1)) :: events)
  /-- What arrives is a valid answer that asks for no time. -/
  | answered {granted : UInt32} {octets : Octets} {response : Response} :
    check octets = .ok response → response.status.isTimeExtension = false →
    Listened check limit timeout granted (.ok response) (heard timeout octets)

/-- Every wait goes one of these ways. -/
theorem awaitAnswer_listened [BulkFault Fault] (check : Octets → Except ExchangeError Response)
    (limit : UInt32) (timeout : Duration) (granted : UInt32)
    (replies : List (Except Fault Octets)) :
    Listened check limit timeout granted
      (awaitAnswer check limit timeout granted replies).answer
      (awaitAnswer check limit timeout granted replies).events := by
  fun_induction awaitAnswer check limit timeout granted replies with
  -- A read that nothing answers and one that fails are the same to the log.
  | case1 => exact .failed
  | case2 => exact .failed
  | case3 granted sent unread transfer seen error refused => exact .rejected refused
  | case4 granted sent unread transfer seen response accepted requests count beyond =>
    exact .exceeded (by rw [asks_of_ok accepted, requests]) beyond
  | case5 granted sent unread transfer seen response accepted requests count within ih =>
    have allowed : granted + 1 ≤ limit := UInt32.not_lt.mp within
    have asked : asks check transfer = true := by rw [asks_of_ok accepted, requests]
    have step : Listened check limit timeout granted _ (heard timeout transfer ++ _) :=
      .extended asked allowed ih
    simpa [heard, Wait.after, seen] using step
  | case6 granted sent unread transfer seen response accepted decisive =>
    exact .answered accepted (by simpa using decisive)

/-- The reads of a wait yield what the replies bring that they use up. -/
theorem deliveries_awaitAnswer [BulkFault Fault] (check : Octets → Except ExchangeError Response)
    (limit : UInt32) (timeout : Duration) (granted : UInt32)
    (replies : List (Except Fault Octets)) :
    deliveries (awaitAnswer check limit timeout granted replies).events
      = arrivals (replies.take (awaitAnswer check limit timeout granted replies).reads) := by
  fun_induction awaitAnswer check limit timeout granted replies with
  | case1 | case2 | case3 | case4 | case6 => rfl
  | case5 granted sent unread transfer seen response accepted requests count within ih =>
    -- The first reply is read, and the rest of the wait reads the others.
    generalize awaitAnswer check limit timeout count unread = wait at ih
    have reads :
        (wait.after (seen ++ [.notice (.timeExtension count)])).reads = wait.reads + 1 := by
      simp [Wait.reads, Wait.after, seen, List.countP_cons]
    rw [reads, List.take_succ_cons]
    exact congrArg (transfer :: ·) ih

/-- The arrival of a transfer is told right after it is read, or it is that of a later one. -/
theorem arrival_of_heard {timeout : Duration} {first octets : Octets}
    {tail before after : List (Event Fault)}
    (split : heard timeout first ++ tail = before ++ .notice (.received octets) :: after) :
    (before = [.read readLimit timeout (.ok first)] ∧ octets = first ∧ after = tail) ∨
      ∃ later, before = heard timeout first ++ later ∧
        tail = later ++ .notice (.received octets) :: after := by
  -- The first thing is the read, so the arrival is the second or one of those after it.
  rcases before with _ | ⟨read, _ | ⟨entry, later⟩⟩
  · simp [heard] at split
  · left
    simpa [heard, eq_comm] using split
  · right
    refine ⟨later, ?_⟩
    simpa [heard, eq_comm, and_assoc] using split

/--
Two things that are seen right after each other.

Nothing stands for what is before the first of them and after the last.
-/
structure Adjacent (check : Octets → Except ExchangeError Response)
    (earlier later : Option (Event Fault)) : Prop where
  /-- A frame is written right after it is told of, and every frame that is written is told of. -/
  sending : ∀ frame, earlier = some (.notice (.sending frame)) →
    ∃ timeout outcome, later = some (.write frame timeout outcome)
  written : ∀ frame timeout outcome, later = some (.write frame timeout outcome) →
    earlier = some (.notice (.sending frame))
  /-- What is read is told of right after it, and nothing else is told of as read. -/
  arriving : ∀ limit timeout octets, earlier = some (.read limit timeout (.ok octets)) →
    later = some (.notice (.received octets))
  received : ∀ octets, later = some (.notice (.received octets)) →
    ∃ limit timeout, earlier = some (.read limit timeout (.ok octets))
  /-- A request for more time is counted right after it is told of. -/
  extended : ∀ count, later = some (.notice (.timeExtension count)) →
    ∃ octets, earlier = some (.notice (.received octets)) ∧ asks check octets = true
  /-- A warning of an answer's length stands right after the answer. -/
  warned : ∀ entry, later = some (.notice entry) → entry.isLengthWarning = true →
    ∃ octets, earlier = some (.notice (.received octets))
  /-- Nothing comes after what is told of the card's power. -/
  last : ∀ entry, earlier = some (.notice entry) →
    (entry.isPoweredOn || entry.isPowerOff) = true → later = none

/-- Whether the thing after something seen, or that there is none, depends on it. -/
def Event.claimsNext : Event Fault → Bool
  | .notice (.sending _) | .read _ _ (.ok _) => true
  | .notice entry => entry.isPoweredOn || entry.isPowerOff
  | _ => false

/-- Whether something seen depends on the thing before it. -/
def Event.needsFormer : Event Fault → Bool
  | .write .. | .notice (.received _) | .notice (.timeExtension _) => true
  | .notice entry => entry.isLengthWarning
  | _ => false

/-- Two things of which neither depends on the other may follow each other. -/
theorem Adjacent.of_independent {check : Octets → Except ExchangeError Response}
    {earlier later : Option (Event Fault)} (free : earlier.any Event.claimsNext = false)
    (unbound : later.any Event.needsFormer = false) : Adjacent check earlier later := by
  constructor
  · rintro frame rfl
    simp [Event.claimsNext] at free
  · rintro frame timeout outcome rfl
    simp [Event.needsFormer] at unbound
  · rintro limit timeout octets rfl
    simp [Event.claimsNext] at free
  · rintro octets rfl
    simp [Event.needsFormer] at unbound
  · rintro count rfl
    simp [Event.needsFormer] at unbound
  · rintro entry rfl warning
    cases entry <;> simp_all [Event.needsFormer, Notice.isLengthWarning]
  · rintro entry rfl switched
    cases entry <;> simp_all [Event.claimsNext, Notice.isPoweredOn, Notice.isPowerOff]

/-- The arrival of a transfer is told of right after it is read. -/
theorem Adjacent.of_arrival (check : Octets → Except ExchangeError Response) (timeout : Duration)
    (octets : Octets) :
    Adjacent check (some (.read readLimit timeout (.ok octets) : Event Fault))
      (some (.notice (.received octets))) := by
  constructor <;> simp [Notice.isLengthWarning]

/-- A request is counted right after its arrival is told of. -/
theorem Adjacent.of_request {check : Octets → Except ExchangeError Response} {octets : Octets}
    (requests : asks check octets = true) (count : UInt32) :
    Adjacent check (some (.notice (.received octets) : Event Fault))
      (some (.notice (.timeExtension count))) := by
  constructor <;> simp [requests, Notice.isLengthWarning, Notice.isPoweredOn, Notice.isPowerOff]

namespace Listened

variable {check : Octets → Except ExchangeError Response} {limit granted : UInt32}
  {timeout : Duration} {answer : Except ExchangeError Response} {events : List (Event Fault)}

/-- A wait tells the log of what it reads and of the requests that it grants alone. -/
theorem lines_of_other (listened : Listened check limit timeout granted answer events)
    (kind : Notice → Bool) (unread : ∀ octets, kind (.received octets) = false)
    (ungranted : ∀ count, kind (.timeExtension count) = false) : lines kind events = [] := by
  induction listened with
  | failed => rfl
  | rejected | exceeded | answered => simp [heard, unread]
  | extended _ _ _ ih => simp [unread, ungranted, ih]

/-- Each read of a wait that yields octets is told of by a line with them. -/
theorem lines_received (listened : Listened check limit timeout granted answer events) :
    lines Notice.isReceived events
      = (deliveries events).map fun octets => (.debug, "RX: " ++ Hex.lower octets) := by
  induction listened with
  | failed => rfl
  | rejected | exceeded | answered => rfl
  | extended _ _ _ ih => simp [Notice.isReceived, ih]

/-- The lines that count requests go on from the count so far, up to the limit. -/
theorem lines_extensions (listened : Listened check limit timeout granted answer events)
    (small : limit.toNat + 1 < UInt32.size) (below : granted.toNat ≤ limit.toNat) :
    lines Notice.isTimeExtension events
      = (List.range' (granted.toNat + 1)
          (min (requestsRead check events) (limit.toNat - granted.toNat))).map extensionLine := by
  induction listened with
  | failed => rfl
  | rejected refused =>
    -- No request is read, so none is counted.
    rw [requestsRead_last, asks_of_error refused]
    simp [heard, Notice.isTimeExtension]
  | @exceeded granted octets error requests beyond =>
    -- The count has come to the limit.
    have reached : limit.toNat < (granted + 1).toNat := UInt32.lt_iff_toNat_lt.mp beyond
    rw [toNat_next small below] at reached
    have spent : limit.toNat - granted.toNat = 0 := by omega
    rw [spent, Nat.min_zero]
    rfl
  | @extended granted octets answer events requests within _ ih =>
    have next := toNat_next small below
    have allowed : (granted + 1).toNat ≤ limit.toNat := UInt32.le_iff_toNat_le.mp within
    have counted : requestsRead check
        (heard timeout octets ++ .notice (.timeExtension (granted + 1)) :: events)
        = requestsRead check events + 1 := by
      rw [requestsRead_heard, requests]
      rfl
    have left : limit.toNat - granted.toNat = limit.toNat - (granted.toNat + 1) + 1 := by omega
    have later := ih allowed
    rw [next] at later
    -- This request has the first number of the row, and the rest of the wait has the others.
    rw [counted, left, Nat.add_min_add_right, List.range'_succ, List.map_cons, ← later, ← next]
    rfl
  | answered accepted decisive =>
    rw [requestsRead_last, asks_of_ok accepted, decisive]
    simp [heard, Notice.isTimeExtension]

/-- The arrival of a request is counted by the next line, if the limit allows, or it is the last. -/
theorem after_request (listened : Listened check limit timeout granted answer events)
    (small : limit.toNat + 1 < UInt32.size) (below : granted.toNat ≤ limit.toNat)
    {before after : List (Event Fault)} {octets : Octets}
    (split : events = before ++ .notice (.received octets) :: after)
    (requests : asks check octets = true) {count : Nat}
    (counted : granted.toNat + requestsRead check before = count) :
    (count ≤ limit.toNat →
        ∃ rest, after = .notice (.timeExtension (UInt32.ofNat count)) :: rest) ∧
      (limit.toNat < count → after = [] ∧ ∃ error, answer = .error error) := by
  -- What stands before the arrival shrinks with each request that is granted.
  induction listened generalizing before with
  | failed =>
    rcases before with _ | ⟨read, later⟩ <;> simp at split
  | @rejected granted first error refused =>
    -- The one arrival is that of a transfer that is no valid answer.
    rw [← List.append_nil (heard timeout first)] at split
    rcases arrival_of_heard split with ⟨_, rfl, _⟩ | ⟨later, _, rest⟩
    · simp [asks_of_error refused] at requests
    · simp at rest
  | @exceeded granted first error asked beyond =>
    rw [← List.append_nil (heard timeout first)] at split
    rcases arrival_of_heard split with ⟨rfl, rfl, rfl⟩ | ⟨later, _, rest⟩
    · -- It is one more than the requests so far, and those have come to the limit.
      have reached : limit.toNat < (granted + 1).toNat := UInt32.lt_iff_toNat_lt.mp beyond
      rw [toNat_next small below] at reached
      rw [requestsRead_read requests] at counted
      exact ⟨fun allowed => by omega, fun _ => ⟨rfl, error, rfl⟩⟩
    · simp at rest
  | @extended granted first answer events asked within _ ih =>
    have next := toNat_next small below
    have allowed : (granted + 1).toNat ≤ limit.toNat := UInt32.le_iff_toNat_le.mp within
    rcases arrival_of_heard split with ⟨rfl, rfl, rfl⟩ | ⟨later, rfl, rest⟩
    · -- It is the first request, and the next line counts it.
      rw [requestsRead_read requests, ← next] at counted
      have word : UInt32.ofNat count = granted + 1 := by rw [← counted, UInt32.ofNat_toNat]
      rw [word]
      exact ⟨fun _ => ⟨events, rfl⟩, fun beyond => by omega⟩
    · -- It is a later one, of which there are fewer before it in what is left.
      rcases later with _ | ⟨entry, later⟩
      · simp at rest
      · obtain ⟨rfl, tail⟩ := List.cons.inj rest
        have fewer : requestsRead check
            (heard timeout first ++ .notice (.timeExtension (granted + 1)) :: later)
            = requestsRead check later + 1 := by
          rw [requestsRead_heard, asked]
          rfl
        exact ih allowed tail (by omega)
  | @answered granted first response accepted decisive =>
    -- The one arrival is that of an answer that asks for no time.
    rw [← List.append_nil (heard timeout first)] at split
    rcases arrival_of_heard split with ⟨_, rfl, _⟩ | ⟨later, _, rest⟩
    · simp [asks_of_ok accepted, decisive] at requests
    · simp at rest

/-- What is seen of a wait stands in its places, if what comes before and after it does. -/
theorem chained (listened : Listened check limit timeout granted answer events)
    {before : Option (Event Fault)} {rest : List (Option (Event Fault))}
    (begun : before.any Event.claimsNext = false)
    (told : ∀ octets, (some (.notice (.received octets)) :: rest).IsChain (Adjacent check))
    (silent : ∀ error, answer = .error error → ∀ fault,
      (some (.read readLimit timeout (.error fault)) :: rest).IsChain (Adjacent check)) :
    (before :: (events.map some ++ rest)).IsChain (Adjacent check) := by
  -- The induction is on the wait, and what stands before it is then the count of a request.
  have arrives (octets : Octets) :
      Adjacent check (some (.read readLimit timeout (.ok octets) : Event Fault))
        (some (.notice (.received octets))) := .of_arrival check timeout octets
  induction listened generalizing before with
  | failed => exact .cons_cons (.of_independent begun rfl) (silent _ rfl _)
  | rejected | exceeded | answered =>
    exact .cons_cons (.of_independent begun rfl) (.cons_cons (arrives _) (told _))
  | @extended granted octets answer events requests within _ ih =>
    -- The count stands between its request and what the rest of the wait begins with.
    have counted : Adjacent check (some (.notice (.received octets) : Event Fault))
        (some (.notice (.timeExtension (granted + 1)))) := .of_request requests (granted + 1)
    have later : (some (.notice (.timeExtension (granted + 1)) : Event Fault)
        :: (events.map some ++ rest)).IsChain (Adjacent check) := ih rfl silent
    refine .cons_cons (.of_independent begun rfl) (.cons_cons (arrives octets) ?_)
    exact .cons_cons counted later

/-- A wait writes nothing. -/
theorem unwritten (listened : Listened check limit timeout granted answer events) :
    events.filterMap Event.written? = [] := by
  induction listened with
  | failed | rejected | exceeded | answered => rfl
  | extended _ _ _ ih => exact ih

/-- What a wait comes to is read last. -/
theorem getLast?_deliveries (listened : Listened check limit timeout granted answer events)
    {response : Response} (came : answer = .ok response) :
    ∃ octets, (deliveries events).getLast? = some octets ∧ check octets = .ok response := by
  induction listened with
  | failed | rejected | exceeded => contradiction
  | @extended granted octets answer events _ _ _ ih =>
    obtain ⟨last, read, accepted⟩ := ih came
    refine ⟨last, ?_, accepted⟩
    -- The rest of the wait reads something, and the last of that is the last of all.
    rw [deliveries_heard, deliveries_notice, List.getLast?_cons, read]
    rfl
  | @answered granted octets response accepted =>
    cases came
    exact ⟨octets, rfl, accepted⟩

end Listened

end Ccid

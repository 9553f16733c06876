import Ccid.Proofs.Session.Listening

/-!
The log as a record of what is transferred.

A call tells the log of each frame that it writes and of all octets that it reads, in lines that
stand next to the transfers they are about. The other lines tell of requests for more time, of the
length of the answer, and of the card's power; whether they are there follows from the transfers.
-/

namespace Ccid

variable {Fault : Type}

/-- The lines that an answer's length deserves. -/
def Response.lengthLines (response : Response) : List (LogLevel × String) :=
  let announced := response.dataLength.toNat
  let arrived := response.payload.length
  if announced < arrived then
    [(.warn, "Dropping " ++ (arrived - announced).repr ++ " octets of padding")]
  else if arrived < announced then
    [(.warn, "Reader announced " ++ announced.repr ++ " octets but sent " ++ arrived.repr)]
  else []

/-- A warning of an answer's length is the line that it deserves. -/
theorem Response.logLine_lengthWarning (response : Response) :
    response.lengthWarning.map Notice.logLine = response.lengthLines := by
  have kept : response.data.length = min response.dataLength.toNat response.payload.length := by
    rw [data, List.length_take]
  simp only [lengthWarning, lengthLines]
  -- The data is shorter than what arrived exactly if less than that was announced.
  by_cases padded : response.dataLength.toNat < response.payload.length
  · have cut : response.data.length = response.dataLength.toNat := by omega
    rw [cut, if_pos padded, if_pos padded]
    rfl
  · have whole : response.data.length = response.payload.length := by omega
    rw [whole, if_neg (Nat.lt_irrefl _), if_neg padded]
    split <;> rfl

/-- The line that tells of the card's Answer-To-Reset, if a call yields one. -/
def poweredOnLines : Except ExchangeError Answer → List (LogLevel × String)
  | .ok (.atr atr) => [(.info, "Card powered on, ATR: " ++ Hex.lower atr.octets)]
  | _ => []

/-- The line that tells what became of a power-off, if it is answered. -/
def powerOffLines : Operation → Except ExchangeError Answer → List (LogLevel × String)
  | .powerOff, .ok (.response response) =>
    if response.status.isFailed then
      [(.warn, "Power off failed: " ++ (SlotError.ofOctet response.error).message)]
    else [(.info, "Card powered off")]
  | _, _ => []

namespace Operation

/-- Of the kinds of lines, a warning of an answer's length is of its own kind alone. -/
theorem filter_lengthWarning (response : Response) (kind : Notice → Bool)
    (padded : ∀ octets, kind (.paddingDropped octets) = false)
    (short : ∀ announced arrived, kind (.dataShort announced arrived) = false) :
    response.lengthWarning.filter kind = [] := by
  simp only [Response.lengthWarning]
  split
  · simp [padded]
  · split
    · simp [short]
    · rfl

/-- Of a response, it is told that the card was powered on exactly if it is an Answer-To-Reset. -/
theorem lines_poweredOn (operation : Operation) (response : Response) :
    lines Notice.isPoweredOn ((operation.notices response).map Event.notice : List (Event Fault))
      = poweredOnLines (operation.conclude response) := by
  have unwarned : response.lengthWarning.filter Notice.isPoweredOn = [] :=
    filter_lengthWarning response _ (fun _ => rfl) (fun _ _ => rfl)
  rw [lines_entries]
  cases operation with
  | powerOn =>
    cases failed : response.status.isFailed with
    | true => simp [notices, conclude, Response.accepted, failed, Except.map, poweredOnLines]
    | false =>
      -- The line of the card's power stands after a warning, which is of another kind.
      have accepted : Operation.powerOn.conclude response = .ok (.atr ⟨response.data⟩) := by
        simp [conclude, Response.accepted, failed, Except.map]
      have told : (Operation.powerOn.notices response).filter Notice.isPoweredOn
          = [.poweredOn response.data] := by
        simp [notices, failed, unwarned, Notice.isPoweredOn]
      rw [accepted, told]
      rfl
  | powerOff =>
    simp only [notices, conclude, poweredOnLines]
    split <;> simp [Notice.isPoweredOn]
  | slotStatus => rfl
  | transmit apdu =>
    -- A transmission yields data or fails, and never an Answer-To-Reset.
    have silent : poweredOnLines ((Operation.transmit apdu).conclude response) = [] := by
      cases concluded : (Operation.transmit apdu).conclude response with
      | error error => rfl
      | ok answer =>
        obtain ⟨_, _, rfl⟩ := (conclude_eq_ok_iff rfl).mp concluded
        rfl
    rw [silent, notices]
    split
    · rfl
    · rw [unwarned, List.map_nil]

/-- Of a response, it is told what became of a power-off exactly if it answers one. -/
theorem lines_powerOff (operation : Operation) (response : Response) :
    lines Notice.isPowerOff ((operation.notices response).map Event.notice : List (Event Fault))
      = powerOffLines operation (operation.conclude response) := by
  have unwarned : response.lengthWarning.filter Notice.isPowerOff = [] :=
    filter_lengthWarning response _ (fun _ => rfl) (fun _ _ => rfl)
  rw [lines_entries]
  cases operation with
  | powerOn =>
    simp only [notices, powerOffLines]
    split
    · rfl
    · simp [unwarned, Notice.isPowerOff]
  | powerOff =>
    simp only [notices, conclude, powerOffLines]
    split <;> rfl
  | slotStatus => rfl
  | transmit apdu =>
    simp only [notices, powerOffLines]
    split
    · rfl
    · rw [unwarned, List.map_nil]

/-- Of a response from which data is taken, a warning is told as its length deserves. -/
theorem lines_lengthWarning (operation : Operation) (response : Response) :
    lines Notice.isLengthWarning
        ((operation.notices response).map Event.notice : List (Event Fault))
      = if operation.takesData = true ∧ (operation.conclude response).isOk = true then
          response.lengthLines
        else [] := by
  have warned : response.lengthWarning.filter Notice.isLengthWarning = response.lengthWarning := by
    simp only [Response.lengthWarning]
    split
    · rfl
    · split <;> rfl
  rw [lines_entries, ← response.logLine_lengthWarning]
  -- The entries are chosen by the same tests of the response as what the call comes to.
  cases operation with
  | powerOn =>
    cases failed : response.status.isFailed with
    | true =>
      simp [notices, conclude, Response.accepted, failed, Except.map, Except.isOk, Except.toBool]
    | false =>
      simp [notices, conclude, Response.accepted, failed, Except.map, Except.isOk, Except.toBool,
        takesData, warned, Notice.isLengthWarning]
  | powerOff =>
    simp only [notices, takesData]
    split <;> simp [Notice.isLengthWarning]
  | slotStatus => rfl
  | transmit apdu =>
    cases failed : response.status.isFailed with
    | true =>
      simp [notices, conclude, Response.accepted, failed, Except.bind, Except.isOk, Except.toBool]
    | false =>
      by_cases whole : response.chainParameter = 0
      · simp [notices, conclude, Response.accepted, failed, whole, Except.bind, Except.isOk,
          Except.toBool, takesData, warned]
      · simp [notices, conclude, Response.accepted, failed, whole, Except.bind, Except.isOk,
          Except.toBool]

/-- What a call tells the log after its wait: of the response, if there is one. -/
def closing (operation : Operation) : Except ExchangeError Response → List Notice
  | .ok response => operation.notices response
  | .error _ => []

/-- After its wait, a call tells of the kinds of its closing entries alone. -/
theorem lines_closing_of_other (operation : Operation) (answer : Except ExchangeError Response)
    (kind : Notice → Bool) (other : ∀ entry, Closing entry → kind entry = false) :
    lines kind ((operation.closing answer).map Event.notice : List (Event Fault)) = [] := by
  cases answer with
  | error error => rfl
  | ok response =>
    rw [closing, lines_entries, List.map_eq_nil_iff, List.filter_eq_nil_iff]
    intro entry told
    rw [other entry (closing_of_mem_notices told)]
    exact Bool.false_ne_true

/-- The arrival of a transfer is told within the wait, and not after it. -/
theorem received_notMem_closing (operation : Operation) (answer : Except ExchangeError Response)
    {octets : Octets} :
    (.notice (.received octets) : Event Fault) ∉ (operation.closing answer).map Event.notice := by
  cases answer with
  | error error => simp [closing]
  | ok response =>
    intro member
    obtain ⟨entry, told, same⟩ := List.mem_map.mp member
    cases same
    cases closing_of_mem_notices told

/-- Nothing is written by what a call tells after its wait. -/
theorem unwritten_closing (operation : Operation) (answer : Except ExchangeError Response) :
    ((operation.closing answer).map Event.notice : List (Event Fault)).filterMap Event.written?
      = [] := by
  simp [List.filterMap_map, Function.comp_def]

end Operation

/-- The ways in which a call may go, with what it comes to and what is seen of it. -/
inductive Traced (session : Session Fault) (operation : Operation) :
    Except ExchangeError Answer → List (Event Fault) → Prop
  /-- Nothing is written. -/
  | refused {error : ExchangeError} : Traced session operation (.error error) []
  /-- The frame is not written as a whole. -/
  | unsent {error : ExchangeError} {outcome : Except Fault Nat} :
    Traced session operation (.error error)
      (session.departure (session.commandFor operation).frame outcome)
  /-- The frame is written, and an answer is waited for. -/
  | awaited {answer : Except ExchangeError Response} {outcome : Except Fault Nat}
    {events : List (Event Fault)} :
    Listened (session.verdict operation) session.config.maxTimeExtensions session.config.timeout 0
      answer events →
    Traced session operation (answer.bind operation.conclude)
      (session.departure (session.commandFor operation).frame outcome
        ++ (events ++ (operation.closing answer).map Event.notice))

/-- Every call goes one of these ways. -/
theorem Session.perform_traced [BulkFault Fault] (session : Session Fault) (operation : Operation) :
    Traced session operation (session.perform operation).answer
      (session.perform operation).events := by
  -- The wait of a call is that for its command's answer.
  have listened : Listened (session.verdict operation) session.config.maxTimeExtensions
      session.config.timeout 0 (session.wait (session.commandFor operation)).answer
      (session.wait (session.commandFor operation)).events :=
    awaitAnswer_listened (session.verdict operation) session.config.maxTimeExtensions
      session.config.timeout 0 session.pipe.replies
  have exchanged := session.issue_exchanged operation
  rw [perform_eq]
  generalize session.issue operation = step at exchanged
  cases exchanged with
  | refused => exact .refused
  | unwritten | miscounted => exact .unsent
  | awaited =>
    have traced : Traced session operation _
        (session.departure (session.commandFor operation).frame
          (.ok (session.commandFor operation).frame.length) ++ _) := .awaited listened
    cases answer : (session.wait (session.commandFor operation)).answer with
    | error error =>
      rw [answer] at traced
      simpa [Operation.closing, Except.bind] using traced
    | ok response =>
      rw [answer] at traced
      simpa [Operation.closing, Except.bind] using traced

/-- An answer deserves no warning, or one. -/
theorem Response.lengthWarning_cases (response : Response) :
    response.lengthWarning = [] ∨
      ∃ warning, response.lengthWarning = [warning] ∧ warning.isLengthWarning = true := by
  simp only [lengthWarning]
  split
  · exact .inr ⟨_, rfl, rfl⟩
  · split
    · exact .inr ⟨_, rfl, rfl⟩
    · exact .inl rfl

section Places

variable {check : Octets → Except ExchangeError Response}

/-- A frame is written right after it is told of. -/
theorem Adjacent.of_write (check : Octets → Except ExchangeError Response) (frame : Octets)
    (timeout : Duration) (outcome : Except Fault Nat) :
    Adjacent check (some (.notice (.sending frame) : Event Fault))
      (some (.write frame timeout outcome)) := by
  constructor <;> simp [Notice.isPoweredOn, Notice.isPowerOff]

/-- A warning stands right after the arrival of an answer. -/
theorem Adjacent.of_warning {warning : Notice} (warns : warning.isLengthWarning = true)
    (octets : Octets) :
    Adjacent check (some (.notice (.received octets) : Event Fault)) (some (.notice warning)) := by
  cases warning <;> simp [Notice.isLengthWarning] at warns <;>
    constructor <;> simp [Notice.isPoweredOn, Notice.isPowerOff]

/-- A line of the card's power is the last. -/
theorem Adjacent.of_power {entry : Notice}
    (power : (entry.isPoweredOn || entry.isPowerOff) = true) :
    Adjacent check (some (.notice entry : Event Fault)) none := by
  cases entry <;> simp [Notice.isPoweredOn, Notice.isPowerOff] at power <;> constructor <;> simp

/-- A warning stands between the arrival of an answer and what follows either of them. -/
theorem chained_lengthWarning (response : Response) (octets : Octets)
    {rest : List (Option (Event Fault))}
    (ending : ∀ event : Event Fault, event.claimsNext = false →
      (some event :: rest).IsChain (Adjacent check)) :
    (some (.notice (.received octets) : Event Fault)
      :: ((response.lengthWarning.map Event.notice).map some ++ rest)).IsChain
        (Adjacent check) := by
  -- What follows comes after the arrival if there is no warning, and after the warning if there is.
  rcases response.lengthWarning_cases with none | ⟨warning, one, warns⟩
  · rw [none]
    exact ending _ rfl
  · have free : (Event.notice warning : Event Fault).claimsNext = false := by
      cases warning <;> simp [Notice.isLengthWarning] at warns <;> rfl
    rw [one]
    exact .cons_cons (.of_warning warns octets) (ending _ free)

/-- What a call tells after the arrival of its answer stands in its places. -/
theorem chained_notices (operation : Operation) (response : Response) (octets : Octets) :
    (some (.notice (.received octets) : Event Fault)
      :: (((operation.notices response).map Event.notice).map some ++ [none])).IsChain
        (Adjacent check) := by
  have ended (event : Event Fault) (free : event.claimsNext = false) :
      [some event, none].IsChain (Adjacent check) :=
    .cons_cons (.of_independent free rfl) (.singleton none)
  have switched (entry : Notice) (power : (entry.isPoweredOn || entry.isPowerOff) = true)
      (event : Event Fault) (free : event.claimsNext = false) :
      [some event, some (.notice entry), none].IsChain (Adjacent check) := by
    have unbound : (Event.notice entry : Event Fault).needsFormer = false := by
      cases entry <;> simp [Notice.isPoweredOn, Notice.isPowerOff] at power <;> rfl
    exact .cons_cons (.of_independent free unbound) (.cons_cons (.of_power power) (.singleton none))
  cases operation with
  | powerOn =>
    simp only [Operation.notices]
    split
    · exact ended _ rfl
    · rw [List.map_append, List.map_append, List.append_assoc]
      exact chained_lengthWarning response octets (switched (.poweredOn response.data) rfl)
  | powerOff =>
    simp only [Operation.notices]
    split
    · exact switched (.powerOffRefused _) rfl _ rfl
    · exact switched .poweredOff rfl _ rfl
  | slotStatus => exact ended _ rfl
  | transmit apdu =>
    simp only [Operation.notices]
    split
    · exact ended _ rfl
    · exact chained_lengthWarning response octets ended

end Places

/-- A call reads what the replies bring that it uses up. -/
theorem Session.deliveries_perform [BulkFault Fault] (session : Session Fault)
    (operation : Operation) :
    deliveries (session.perform operation).events
      = arrivals (session.pipe.replies.take (session.perform operation).reads) := by
  obtain ⟨entries, events⟩ := session.perform_events operation
  have exchanged := session.issue_exchanged operation
  rw [perform_reads, events, deliveries_append, deliveries_entries, List.append_nil]
  generalize session.issue operation = step at exchanged
  cases exchanged with
  | refused | unwritten | miscounted => rfl
  | awaited =>
    -- Only the wait reads.
    rw [reads_awaited, deliveries_append]
    exact deliveries_awaitAnswer ..

/--
The log of a call as a record of the call.

What is seen of a call is its transfers and the entries of the log, in the order in which they come.
The lines of each kind are given by the transfers and by what the call comes to.
-/
structure FaithfulLog (session : Session Fault) (operation : Operation)
    (step : Step Fault Answer) : Prop where
  /-- Every line that is about a transfer stands next to it, and every transfer has its line. -/
  placed : (none :: (step.events.map some ++ [none])).IsChain
    (Adjacent (session.verdict operation))
  /-- The frame that is written is told of, and no other. -/
  sent : lines Notice.isSending step.events
    = step.written.map fun frame => (.debug, "TX: " ++ Hex.lower frame)
  once : step.written.length ≤ 1
  /-- The octets that the replies bring are read, and as such they are told of, and no others. -/
  delivered : deliveries step.events = arrivals (session.pipe.replies.take step.reads)
  received : lines Notice.isReceived step.events
    = (deliveries step.events).map fun octets => (.debug, "RX: " ++ Hex.lower octets)
  /-- Below the largest limit, the requests for more time are counted from one on, up to it. -/
  counted : session.config.maxTimeExtensions.toNat + 1 < UInt32.size →
    lines Notice.isTimeExtension step.events
      = (List.range' 1 (min (requestsRead (session.verdict operation) step.events)
          session.config.maxTimeExtensions.toNat)).map extensionLine
  /-- Each request is counted right after its line, and the one beyond the limit is not. -/
  extended : session.config.maxTimeExtensions.toNat + 1 < UInt32.size →
    ∀ before octets after, step.events = before ++ .notice (.received octets) :: after →
      asks (session.verdict operation) octets = true →
        let count := requestsRead (session.verdict operation) before
        (count ≤ session.config.maxTimeExtensions.toNat →
            ∃ rest, after = .notice (.timeExtension (UInt32.ofNat count)) :: rest) ∧
          (session.config.maxTimeExtensions.toNat < count → after = [])
  /-- The card is told to be on exactly if an Answer-To-Reset is returned. -/
  poweredOn : lines Notice.isPoweredOn step.events = poweredOnLines step.answer
  /-- A power-off is told of exactly if it is answered. -/
  poweredOff : lines Notice.isPowerOff step.events = powerOffLines operation step.answer
  /-- Data is taken from the last transfer, whose length is warned of as it deserves. -/
  warned : operation.takesData = true → step.answer.isOk = true →
    ∃ response : Response, (deliveries step.events).getLast? = some response.encode ∧
      lines Notice.isLengthWarning step.events = response.lengthLines
  /-- Where no data is taken, there is no warning. -/
  unwarned : operation.takesData = false ∨ step.answer.isOk = false →
    lines Notice.isLengthWarning step.events = []

/-- What is not in the second of two parts is found in the first. -/
theorem split_of_notMem {Value : Type} {first second before after : List Value} {value : Value}
    (absent : value ∉ second) (split : first ++ second = before ++ value :: after) :
    ∃ rest, first = before ++ value :: rest ∧ after = rest ++ second := by
  -- The two splits meet in the first part, or the value would begin what is left of the second.
  rcases List.append_eq_append_iff.mp split with ⟨more, _, rfl⟩ | ⟨more, rfl, tail⟩
  · exact absurd (by simp) absent
  · rcases more with _ | ⟨head, rest⟩
    · rw [List.nil_append] at tail
      exact absurd (tail ▸ List.mem_cons_self) absent
    · obtain ⟨rfl, rfl⟩ := List.cons.inj tail
      exact ⟨rest, rfl, rfl⟩

/-- The arrival of a transfer is told after the frame is written. -/
theorem arrival_of_departure {session : Session Fault} {frame octets : Octets}
    {outcome : Except Fault Nat} {tail before after : List (Event Fault)}
    (split : session.departure frame outcome ++ tail
      = before ++ .notice (.received octets) :: after) :
    ∃ later, before = session.departure frame outcome ++ later ∧
      tail = later ++ .notice (.received octets) :: after := by
  -- The first two things are the frame's line and its write.
  rcases before with _ | ⟨entry, _ | ⟨write, later⟩⟩
  · simp [Session.departure] at split
  · simp [Session.departure] at split
  · refine ⟨later, ?_⟩
    simpa [Session.departure, eq_comm, and_assoc] using split

namespace Traced

variable {session : Session Fault} {operation : Operation}
  {answer : Except ExchangeError Answer} {events : List (Event Fault)}

/-- What is seen of a call stands in its places. -/
theorem chained (traced : Traced session operation answer events) :
    (none :: (events.map some ++ [none])).IsChain (Adjacent (session.verdict operation)) := by
  have ended (event : Event Fault) (free : event.claimsNext = false) :
      [some event, none].IsChain (Adjacent (session.verdict operation)) :=
    .cons_cons (.of_independent free rfl) (.singleton none)
  -- A frame and its line come first, and nothing depends on the frame's write.
  have departed {frame : Octets} {outcome : Except Fault Nat} {rest : List (Option (Event Fault))}
      (waited : (some (.write frame session.config.timeout outcome) :: rest).IsChain
        (Adjacent (session.verdict operation))) :
      (none :: ((session.departure frame outcome).map some ++ rest)).IsChain
        (Adjacent (session.verdict operation)) :=
    .cons_cons (.of_independent rfl rfl) (.cons_cons (.of_write ..) waited)
  cases traced with
  | refused => exact .cons_cons (.of_independent rfl rfl) (.singleton none)
  | unsent => exact departed (ended _ rfl)
  | @awaited answer outcome events listened =>
    -- After an answer come the entries of the response, and after a failure comes nothing.
    rw [List.map_append, List.append_assoc, List.map_append, List.append_assoc]
    refine departed (listened.chained rfl ?_ ?_)
    · intro octets
      cases answer with
      | error error => exact ended _ rfl
      | ok response => exact chained_notices operation response octets
    · rintro error rfl fault
      exact ended _ rfl

/-- Every frame that a call writes is told of. -/
theorem lines_sending (traced : Traced session operation answer events) :
    lines Notice.isSending events
      = (events.filterMap Event.written?).map fun frame => (.debug, "TX: " ++ Hex.lower frame) := by
  cases traced with
  | refused | unsent => rfl
  | @awaited answer outcome events listened =>
    -- Neither the wait nor what is told after it sends anything.
    have waiting := listened.lines_of_other Notice.isSending (fun _ => rfl) fun _ => rfl
    rw [lines_append, lines_append, waiting, List.filterMap_append, List.filterMap_append,
      listened.unwritten, operation.unwritten_closing, operation.lines_closing_of_other answer _
        fun entry closing => by cases closing <;> rfl]
    rfl

/-- All octets that a call reads are told of. -/
theorem lines_received (traced : Traced session operation answer events) :
    lines Notice.isReceived events
      = (deliveries events).map fun octets => (.debug, "RX: " ++ Hex.lower octets) := by
  cases traced with
  | refused | unsent => rfl
  | @awaited answer outcome events listened =>
    rw [lines_append, lines_append, deliveries_append, deliveries_append, deliveries_entries,
      listened.lines_received, operation.lines_closing_of_other answer _
        fun entry closing => by cases closing <;> rfl, List.append_nil, List.append_nil]
    rfl

/-- The requests for more time that a call grants are counted. -/
theorem lines_extensions (traced : Traced session operation answer events)
    (small : session.config.maxTimeExtensions.toNat + 1 < UInt32.size) :
    lines Notice.isTimeExtension events
      = (List.range' 1 (min (requestsRead (session.verdict operation) events)
          session.config.maxTimeExtensions.toNat)).map extensionLine := by
  -- A call that reads nothing has no requests to count.
  have unread : [] = (List.range' 1 (min 0 session.config.maxTimeExtensions.toNat)).map
      extensionLine := by
    rw [Nat.zero_min]
    rfl
  cases traced with
  | refused | unsent => exact unread
  | @awaited answer outcome events listened =>
    have counted := listened.lines_extensions small (Nat.zero_le _)
    rw [requestsRead] at counted
    rw [lines_append, lines_append, counted, requestsRead, deliveries_append, deliveries_append,
      deliveries_entries, operation.lines_closing_of_other answer _
        fun entry closing => by cases closing <;> rfl, List.append_nil, List.append_nil]
    rfl

/-- The arrival of a request is counted by the next line, if the limit allows, or it is the last. -/
theorem after_request (traced : Traced session operation answer events)
    (small : session.config.maxTimeExtensions.toNat + 1 < UInt32.size)
    {before after : List (Event Fault)} {octets : Octets}
    (split : events = before ++ .notice (.received octets) :: after)
    (requests : asks (session.verdict operation) octets = true) :
    let count := requestsRead (session.verdict operation) before
    (count ≤ session.config.maxTimeExtensions.toNat →
        ∃ rest, after = .notice (.timeExtension (UInt32.ofNat count)) :: rest) ∧
      (session.config.maxTimeExtensions.toNat < count → after = []) := by
  intro count
  cases traced with
  | refused => simp at split
  | unsent =>
    rw [← List.append_nil (session.departure _ _)] at split
    obtain ⟨later, _, tail⟩ := arrival_of_departure split
    simp at tail
  | @awaited answer outcome events listened =>
    -- The arrival is that of a read of the wait, so it is within what is seen of that.
    obtain ⟨earlier, rfl, waited⟩ := arrival_of_departure split
    obtain ⟨rest, within, rfl⟩ := split_of_notMem (operation.received_notMem_closing answer) waited
    obtain ⟨granted, refused⟩ := listened.after_request small (Nat.zero_le _) within requests
      (Nat.zero_add count)
    -- A wait that ends with a failure is followed by no entry, so the arrival stays the last.
    constructor
    · intro allowed
      obtain ⟨later, rfl⟩ := granted allowed
      exact ⟨_, rfl⟩
    · intro beyond
      obtain ⟨rfl, error, rfl⟩ := refused beyond
      rfl

/-- A call tells that the card was powered on exactly if it yields an Answer-To-Reset. -/
theorem lines_poweredOn (traced : Traced session operation answer events) :
    lines Notice.isPoweredOn events = poweredOnLines answer := by
  cases traced with
  | refused | unsent => rfl
  | @awaited answer outcome events listened =>
    have waiting := listened.lines_of_other Notice.isPoweredOn (fun _ => rfl) fun _ => rfl
    rw [lines_append, lines_append, waiting]
    cases answer with
    | error error => rfl
    | ok response => exact operation.lines_poweredOn response

/-- A call tells what became of a power-off exactly if it is an answered one. -/
theorem lines_powerOff (traced : Traced session operation answer events) :
    lines Notice.isPowerOff events = powerOffLines operation answer := by
  have silent (error : ExchangeError) : powerOffLines operation (.error error) = [] := by
    cases operation <;> rfl
  cases traced with
  | refused | unsent => exact (silent _).symm
  | @awaited answer outcome events listened =>
    have waiting := listened.lines_of_other Notice.isPowerOff (fun _ => rfl) fun _ => rfl
    rw [lines_append, lines_append, waiting]
    cases answer with
    | error error => exact (silent _).symm
    | ok response => exact operation.lines_powerOff response

/-- A call warns of the length of its response if it takes data from that. -/
theorem lines_lengthWarning (traced : Traced session operation answer events) :
    (operation.takesData = true → answer.isOk = true →
        ∃ response : Response, (deliveries events).getLast? = some response.encode ∧
          lines Notice.isLengthWarning events = response.lengthLines) ∧
      (operation.takesData = false ∨ answer.isOk = false →
        lines Notice.isLengthWarning events = []) := by
  cases traced with
  | refused | unsent =>
    -- Without an answer there is nothing to take data from.
    exact ⟨fun _ ok => by simp [Except.isOk, Except.toBool] at ok, fun _ => rfl⟩
  | @awaited answer outcome events listened =>
    have waiting := listened.lines_of_other Notice.isLengthWarning (fun _ => rfl) fun _ => rfl
    rw [lines_append, lines_append, waiting]
    cases answer with
    | error error =>
      exact ⟨fun _ ok => by simp [Except.bind, Except.isOk, Except.toBool] at ok, fun _ => rfl⟩
    | ok response =>
      have warned : lines Notice.isLengthWarning
          ((operation.notices response).map Event.notice : List (Event Fault)) = _ :=
        operation.lines_lengthWarning response
      obtain ⟨octets, read, accepted⟩ := listened.getLast?_deliveries rfl
      obtain ⟨rfl, _⟩ := checkResponse_eq_ok_iff.mp accepted
      have last : (deliveries (session.departure (session.commandFor operation).frame outcome
          ++ (events ++ (operation.closing (.ok response)).map Event.notice))).getLast?
            = some response.encode := by
        rw [deliveries_append, deliveries_append, deliveries_entries, List.append_nil]
        exact read
      -- The warning is given exactly where data is taken, whatever else the call does.
      refine ⟨fun takes ok => ⟨response, last, ?_⟩, fun either => ?_⟩
      · exact warned.trans (if_pos ⟨takes, ok⟩)
      · refine warned.trans (if_neg ?_)
        rintro ⟨takes, ok⟩
        rcases either with idle | failed
        · rw [takes] at idle
          contradiction
        · exact absurd (failed.symm.trans ok) Bool.false_ne_true

end Traced

/--
Every call keeps a log that is a faithful record of what it transfers.

A frame's line is right before its write, and that of what was read right after its read, whatever
becomes of the two. Requests for more time are numbered in a row from one on.
-/
theorem log_records_transfers [BulkFault Fault] (session : Session Fault) (operation : Operation) :
    FaithfulLog session operation (session.perform operation) := by
  have traced := session.perform_traced operation
  obtain ⟨warned, unwarned⟩ := traced.lines_lengthWarning
  exact
    { placed := traced.chained
      sent := traced.lines_sending
      once := by
        rw [session.written_perform]
        split <;> simp
      delivered := session.deliveries_perform operation
      received := traced.lines_received
      counted := traced.lines_extensions
      extended := fun small before octets after split requests =>
        traced.after_request small split requests
      poweredOn := traced.lines_poweredOn
      poweredOff := traced.lines_powerOff
      warned
      unwarned }

/-- Of two requests for more time where one is allowed, both are on record, and one is counted. -/
theorem log_records_transfers_exceeded :
    let request : Octets := [0x80, 0, 0, 0, 0, 0, 0, 0x80, 0, 0]
    let session : Session TransportError :=
      { config := { Config.default with maxTimeExtensions := 1 }
        sequence := .initial
        lastAtr := none
        power := .unknown
        pipe := { writes := [], replies := [.ok request, .ok request] } }
    let step := session.perform .powerOn
    requestsRead (session.verdict .powerOn) step.events = 2 ∧
      lines Notice.isReceived step.events
        = [(.debug, "RX: 80000000000000800000"), (.debug, "RX: 80000000000000800000")] ∧
      lines Notice.isTimeExtension step.events = [extensionLine 1] ∧
      lines Notice.isPoweredOn step.events = [] := by
  intro request session step
  have small : session.config.maxTimeExtensions.toNat + 1 < UInt32.size := by decide
  have log := log_records_transfers session .powerOn
  have requests : requestsRead (session.verdict .powerOn) step.events = 2 := by cbv
  have read : deliveries step.events = [request, request] := by cbv
  refine ⟨requests, log.received.trans ?_, (log.counted small).trans ?_, log.poweredOn.trans ?_⟩
  · rw [read]
    rfl
  · rw [requests]
    rfl
  · cbv

end Ccid

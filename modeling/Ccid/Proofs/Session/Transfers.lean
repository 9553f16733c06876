import Ccid.Proofs.Session.Conformance
import Ccid.Proofs.Session.Writing

/-!
What is transferred in a call whose command is answered.

After the command, each read meets the next reply of the script. The command is answered exactly if
these reads yield valid requests for more time and then a valid frame that is none, and that frame
is the answer.
-/

namespace Ccid

variable {Fault : Type}

/-- Whether something seen of a session is a transfer. -/
def Event.isTransfer : Event Fault → Bool
  | .notice _ => false
  | .write .. | .read .. => true

@[simp] theorem Event.isTransfer_notice (entry : Notice) :
    (Event.notice entry : Event Fault).isTransfer = false := rfl

@[simp] theorem Event.isTransfer_write (frame : Octets) (timeout : Duration)
    (outcome : Except Fault Nat) : (Event.write frame timeout outcome).isTransfer = true := rfl

@[simp] theorem Event.isTransfer_read (limit : Nat) (timeout : Duration)
    (outcome : Except Fault Octets) : (Event.read limit timeout outcome).isTransfer = true := rfl

/-- The transfers of a call, in their order. -/
def Step.transfers {Reply : Type} (step : Step Fault Reply) : List (Event Fault) :=
  step.events.filter Event.isTransfer

/-- A reply that decides a call: valid requests for more time, and then a valid frame that is none. -/
structure Reply.Decides (config : Config) (number : Nat) (operation : Operation)
    (reply : Reply) : Prop where
  requested : ∀ request ∈ reply.requests,
    request.Addressed config number operation ∧ request.status.command = .timeExtension
  addressed : reply.answer.Addressed config number operation
  decisive : reply.answer.status.command ≠ .timeExtension

/-- What is transferred when the command of a call is written in full and a reply to it is read. -/
def Operation.dialogue (config : Config) (number : Nat) (operation : Operation) (reply : Reply) :
    List (Event Fault) :=
  let frame := operation.octets config number
  .write frame config.timeout (.ok frame.length)
    :: reply.frames.map fun octets => .read readLimit config.timeout (.ok octets)

/-- Of what is seen when a frame is written, the write is the transfer. -/
@[simp] theorem Session.transfers_departure (session : Session Fault) (frame : Octets)
    (outcome : Except Fault Nat) :
    (session.departure frame outcome).filter Event.isTransfer
      = [.write frame session.config.timeout outcome] := rfl

/-- A frame is addressed to a call exactly if it is accepted as the answer and one read takes it. -/
theorem Session.addressed_iff {session : Session Fault} {number : Nat}
    (counted : session.HasWritten number) {operation : Operation} {response : Response} :
    response.Addressed session.config number operation ↔
      session.verdict operation response.encode = .ok response ∧
        response.encode.length ≤ readLimit := by
  have current : session.sequence.upcoming = UInt8.ofNat number := counted
  rw [response.length_encode]
  constructor
  · intro addressed
    refine ⟨?_, addressed.readable⟩
    rw [← Response.take_encode addressed.readable]
    exact verdict_of_addressed counted addressed
  · rintro ⟨accepted, readable⟩
    obtain ⟨_, sequence, slot, kind⟩ := checkResponse_eq_ok_iff.mp accepted
    exact { kind, slot, sequence := sequence.trans current, readable }

variable [BulkFault Fault]

/-- What a read yields that meets this reply, or the end of the script. -/
def delivered (limit : Nat) : Option (Except Fault Octets) → Except Fault Octets
  | none => .error BulkFault.timeout
  | some (.error fault) => .error fault
  | some (.ok sent) => .ok (sent.take limit)

/-- What a read yields is a transfer only if a transfer arrives. -/
theorem delivered_eq_ok_iff {limit : Nat} {reply : Option (Except Fault Octets)}
    {transfer : Octets} :
    delivered limit reply = .ok transfer ↔ ∃ sent, reply = some (.ok sent) ∧
      sent.take limit = transfer := by
  cases reply with
  | none => simp [delivered]
  | some reply => cases reply <;> simp [delivered]

/-- The reads of a wait meet the replies of its script one after another, and then its end. -/
theorem transfers_awaitAnswer (check : Octets → Except ExchangeError Response) (limit : UInt32)
    (timeout : Duration) (granted : UInt32) (replies : List (Except Fault Octets)) :
    let wait := awaitAnswer check limit timeout granted replies
    wait.events.filter Event.isTransfer
      = ((replies.map some ++ [none]).take wait.reads).map fun reply =>
          .read readLimit timeout (delivered readLimit reply) := by
  -- A wait that reads on has met a request, and the rest of it meets the rest of the script.
  intro wait
  unfold wait
  fun_induction awaitAnswer check limit timeout granted replies with
  | case1 | case2 | case3 | case4 | case6 => rfl
  | case5 granted sent unread transfer seen _ _ _ count _ later =>
    have reads : ((awaitAnswer check limit timeout count unread).after
        (seen ++ [.notice (.timeExtension count)])).reads
        = (awaitAnswer check limit timeout count unread).reads + 1 := by
      simp [Wait.reads, Wait.after, seen, List.countP_cons]
    rw [reads]
    exact congrArg (List.cons _) later

/-- A reply is judged as a response exactly if a transfer arrives that is accepted as such. -/
theorem judge_eq_ok_iff {check : Octets → Except ExchangeError Response}
    {reply : Option (Except Fault Octets)} {response : Response} :
    judge check reply = .ok response ↔
      ∃ transfer, delivered readLimit reply = .ok transfer ∧ check transfer = .ok response := by
  -- The end of the script and a failed transfer deliver nothing to accept.
  cases reply with
  | none => simp [judge, delivered]
  | some reply => cases reply <;> simp [judge, delivered]

/-- A wait yields the response in the deciding reply exactly if that is valid and asks for no time. -/
theorem Ended.answer_eq_ok_iff {check : Octets → Except ExchangeError Response}
    {limit granted : UInt32} {skipped rest : List (Except Fault Octets)} {wait : Wait Fault}
    (ended : Ended check limit granted skipped rest wait) {response : Response} :
    wait.answer = .ok response ↔
      (∃ transfer, delivered readLimit rest.head? = .ok transfer ∧
        check transfer = .ok response) ∧ response.status.isTimeExtension = false := by
  rw [ended.answer, ← judge_eq_ok_iff]
  -- A valid frame asks for time by its status, and such a frame decides no wait well.
  have asked (judged : judge check rest.head? = .ok response) :
      asksForTime check rest.head? = response.status.isTimeExtension := by
    simp only [asksForTime, judged]
  constructor
  · intro answer
    cases asks : asksForTime check rest.head? with
    | true => simp [asks] at answer
    | false =>
      rw [asks, if_neg Bool.false_ne_true] at answer
      exact ⟨answer, (asked answer).symm.trans asks⟩
  · rintro ⟨judged, decisive⟩
    rw [asked judged, decisive, if_neg Bool.false_ne_true, judged]

/-- A wait reads the replies that it grants time, and then the one that decides it. -/
theorem Session.transfers_wait (session : Session Fault) (command : Command) :
    ∃ skipped rest, Ended (checkResponse command command.sequence)
        session.config.maxTimeExtensions 0 skipped rest (session.wait command) ∧
      (session.wait command).events.filter Event.isTransfer
        = (skipped.map some ++ [rest.head?]).map fun reply =>
            .read readLimit session.config.timeout (delivered readLimit reply) := by
  obtain ⟨skipped, rest, split, ended⟩ := session.wait_ends command
  refine ⟨skipped, rest, ended, ?_⟩
  -- Where no reply is left to decide, the script's end does.
  have deciding : (rest.map some ++ [none]).take 1 = [rest.head?] := by
    cases rest <;> rfl
  have reads := ended.reads
  have transfers := transfers_awaitAnswer (checkResponse command command.sequence)
    session.config.maxTimeExtensions session.config.timeout 0 session.pipe.replies
  simp only [wait] at reads ⊢
  rw [transfers, reads, split, List.map_append, List.append_assoc, List.take_append,
    List.take_of_length_le (by simp), List.length_map, Nat.add_sub_cancel_left, deciding]

namespace Session

variable {session : Session Fault} {number : Nat} {operation : Operation}

/-- What a read yields is accepted only as the whole frame of a response addressed to the call. -/
theorem addressed_of_delivered (counted : session.HasWritten number)
    {reply : Option (Except Fault Octets)} {transfer : Octets}
    (arrived : delivered readLimit reply = .ok transfer) {response : Response}
    (accepted : session.verdict operation transfer = .ok response) :
    transfer = response.encode ∧ response.Addressed session.config number operation := by
  -- A transfer is accepted for being the frame of what it is read as, and no read exceeds its limit.
  obtain ⟨sent, _, rfl⟩ := delivered_eq_ok_iff.mp arrived
  have frame : sent.take readLimit = response.encode := (checkResponse_eq_ok_iff.mp accepted).1
  have short : (sent.take readLimit).length ≤ readLimit := List.length_take_le ..
  rw [frame] at accepted short
  exact ⟨frame, (addressed_iff counted).mpr ⟨accepted, short⟩⟩

/-- The replies that a wait grants time are delivered as frames of requests addressed to the call. -/
theorem exists_requests (counted : session.HasWritten number)
    {skipped : List (Except Fault Octets)}
    (granted : ∀ reply ∈ skipped, ∃ sent request, reply = .ok sent ∧
      session.verdict operation (sent.take readLimit) = .ok request ∧
      request.status.isTimeExtension = true) :
    ∃ requests : List Response,
      skipped.map (fun reply => delivered readLimit (some reply))
        = requests.map (fun request => .ok request.encode) ∧
      ∀ request ∈ requests, request.Addressed session.config number operation ∧
        request.status.command = .timeExtension := by
  induction skipped with
  | nil => exact ⟨[], rfl, by simp⟩
  | cons reply rest ih =>
    obtain ⟨now, later⟩ := List.forall_mem_cons.mp granted
    obtain ⟨sent, request, rfl, accepted, asks⟩ := now
    obtain ⟨requests, frames, valid⟩ := ih later
    -- The first reply is delivered as the frame of a request, and so are the others.
    have arrived : delivered readLimit (some (.ok sent : Except Fault Octets))
        = .ok (sent.take readLimit) := rfl
    obtain ⟨frame, addressed⟩ := addressed_of_delivered counted arrived accepted
    refine ⟨request :: requests, ?_, List.forall_mem_cons.mpr ⟨⟨addressed, ?_⟩, valid⟩⟩
    · rw [List.map_cons, List.map_cons, frames, delivered, frame]
    · simpa [SlotStatus.isTimeExtension] using asks

/-- A reply decides a call on the wire: it is all that is read after the command is written. -/
structure Answered (session : Session Fault) (number : Nat) (operation : Operation)
    (reply : Reply) : Prop where
  transferred : (session.perform operation).transfers
    = operation.dialogue session.config number reply
  decides : reply.Decides session.config number operation

/-- A call transfers what its exchange transfers. -/
theorem transfers_perform (session : Session Fault) (operation : Operation) :
    (session.perform operation).transfers = (session.issue operation).transfers := by
  obtain ⟨entries, events⟩ := session.perform_events operation
  -- Entries of the log are no transfers.
  have silent : (entries.map Event.notice : List (Event Fault)).filter Event.isTransfer = [] := by
    simp [List.filter_map, Function.comp_def]
  simp only [Step.transfers, events, List.filter_append, silent, List.append_nil]

/-- An exchange that is awaited transfers its frame and then what the reads of its wait yield. -/
theorem transfers_awaited (counted : session.HasWritten number) {Reply : Type}
    (after : Session Fault) (answer : Except ExchangeError Reply)
    {replies : List (Option (Except Fault Octets))}
    (waited : (session.wait (session.commandFor operation)).events.filter Event.isTransfer
      = replies.map fun reply =>
          .read readLimit session.config.timeout (delivered readLimit reply)) :
    let frame := (session.commandFor operation).frame
    Step.transfers
        { answer, session := after
          events := session.departure frame (.ok frame.length)
            ++ (session.wait (session.commandFor operation)).events }
      = .write (operation.octets session.config number) session.config.timeout
          (.ok (operation.octets session.config number).length)
        :: replies.map fun reply =>
          .read readLimit session.config.timeout (delivered readLimit reply) := by
  simp only [Step.transfers, List.filter_append, transfers_departure, waited,
    frame_commandFor counted, List.singleton_append]

end Session

namespace Exchanged

variable {session : Session Fault} {number : Nat} {operation : Operation}
  {step : Step Fault Response}

/-- An exchange that yields a response transfers a reply that decides its call by that response. -/
theorem exists_reply (exchanged : Exchanged session (session.commandFor operation) step)
    (counted : session.HasWritten number) {response : Response}
    (answered : step.answer = .ok response) :
    ∃ reply : Reply, step.transfers = operation.dialogue session.config number reply ∧
      reply.Decides session.config number operation ∧ reply.answer = response := by
  -- The other three ways end in an error.
  cases exchanged with
  | refused | unwritten | miscounted => simp at answered
  | awaited =>
    obtain ⟨skipped, rest, ended, waited⟩ := session.transfers_wait (session.commandFor operation)
    obtain ⟨⟨transfer, arrived, accepted⟩, decisive⟩ := ended.answer_eq_ok_iff.mp answered
    obtain ⟨requests, frames, requested⟩ :=
      Session.exists_requests counted fun _ => ended.accepted_of_granted
    obtain ⟨rfl, addressed⟩ := Session.addressed_of_delivered counted arrived accepted
    refine ⟨⟨requests, response⟩, ?_, { requested, addressed, decisive := ?_ }, rfl⟩
    · -- What was read is the frames of the requests, and then the frame of the response.
      have granted := congrArg (List.map (Event.read readLimit session.config.timeout)) frames
      simp only [List.map_map, Function.comp_def] at granted
      rw [Session.transfers_awaited counted _ _ waited]
      simp [Operation.dialogue, Reply.frames, Function.comp_def, granted, arrived]
    · simpa [SlotStatus.isTimeExtension] using decisive

/-- An exchange that transfers a reply that decides its call yields the answer in it. -/
theorem answer_of_dialogue (exchanged : Exchanged session (session.commandFor operation) step)
    (counted : session.HasWritten number) {reply : Reply}
    (transferred : step.transfers = operation.dialogue session.config number reply)
    (decides : reply.Decides session.config number operation) :
    step.answer = .ok reply.answer := by
  -- In the other three ways there is no write, or not one that takes the whole frame.
  cases exchanged with
  | refused => simp [Step.transfers, Operation.dialogue] at transferred
  | unwritten => simp [Step.transfers, Operation.dialogue] at transferred
  | miscounted _ _ other =>
    rw [Session.frame_commandFor counted] at other
    simp [Step.transfers, Operation.dialogue, Session.frame_commandFor counted, other]
      at transferred
  | awaited =>
    obtain ⟨skipped, rest, ended, waited⟩ := session.transfers_wait (session.commandFor operation)
    rw [Session.transfers_awaited counted _ _ waited, Operation.dialogue, Reply.frames] at transferred
    -- The last read got the frame of the answer, which is accepted and asks for no time.
    have reads := (List.cons.inj transferred).2
    simp only [List.map_append, List.map_cons, List.map_nil] at reads
    have last := List.singleton_inj.mp (List.append_inj' reads rfl).2
    have arrived : delivered readLimit rest.head? = .ok reply.answer.encode := by
      simpa using last
    have accepted := ((Session.addressed_iff counted).mp decides.addressed).1
    refine ended.answer_eq_ok_iff.mpr ⟨⟨_, arrived, accepted⟩, ?_⟩
    simpa [SlotStatus.isTimeExtension] using decides.decisive

end Exchanged

/-- A command has an answer exactly if a reply decides its call, and the answer is the one in it. -/
theorem Session.issue_ok_iff {session : Session Fault} {number : Nat}
    (counted : session.HasWritten number) {operation : Operation} {response : Response} :
    (session.issue operation).answer = .ok response ↔
      ∃ reply, session.Answered number operation reply ∧ reply.answer = response := by
  have exchanged := session.issue_exchanged operation
  have transfers := session.transfers_perform operation
  constructor
  · intro issued
    obtain ⟨reply, transferred, decides, answer⟩ := exchanged.exists_reply counted issued
    exact ⟨reply, ⟨transfers.trans transferred, decides⟩, answer⟩
  · rintro ⟨reply, ⟨transferred, decides⟩, rfl⟩
    exact exchanged.answer_of_dialogue counted (transfers.symm.trans transferred) decides

/-- A call has an answer exactly if a reply decides it and the answer is concluded from that. -/
theorem Session.perform_answer_eq_ok_iff {session : Session Fault} {number : Nat}
    (counted : session.HasWritten number) {operation : Operation} {answer : Answer} :
    (session.perform operation).answer = .ok answer ↔
      ∃ reply, session.Answered number operation reply ∧
        operation.conclude reply.answer = .ok answer := by
  constructor
  · intro answered
    obtain ⟨response, issued, concluded⟩ := issue_of_perform_ok answered
    obtain ⟨reply, decided, rfl⟩ := (issue_ok_iff counted).mp issued
    exact ⟨reply, decided, concluded⟩
  · rintro ⟨reply, decided, concluded⟩
    rw [session.perform_answer, (issue_ok_iff counted).mpr ⟨reply, decided, rfl⟩]
    exact concluded

end Ccid

import Ccid.Proofs.Session.Card
import Ccid.Proofs.Session.Runs

/-!
No answer is attributed to a command that it was not produced for.

Every frame on its way remembers the command that it was produced for. The session does not see
that: it compares numbers modulo 256. As long as no frame is delivered more than 255 commands
late, the comparison is as good as the memory.
-/

namespace Ccid

/-- A frame under way, with the count of the command that it was produced for. -/
structure Sent where
  command : Nat
  frame : Octets
  deriving DecidableEq

/-- What a channel yields to reads, one item a read: a fault, or a frame under way. -/
abbrev Channel (Fault : Type) := List (Except Fault Sent)

/-- The replies that reads get from a channel. -/
def Channel.replies {Fault : Type} (channel : Channel Fault) : List (Except Fault Octets) :=
  channel.map (Except.map Sent.frame)

/--
A frame that is delivered in time to the command of the given count.

It carries the number of the command that it was produced for, unless it is too short to carry
one, and it comes neither before that command nor more than 255 commands after it.
-/
def Sent.Punctual (sent : Sent) (number : Nat) : Prop :=
  (∀ octet ∈ sent.frame[6]?, octet = UInt8.ofNat sent.command) ∧
    sent.command ≤ number ∧ number ≤ sent.command + 255

instance (sent : Sent) (number : Nat) : Decidable (sent.Punctual number) :=
  inferInstanceAs (Decidable (_ ∧ _ ∧ _))

/-- A call in a row of calls. -/
structure Call (Fault : Type) where
  operation : Operation
  /-- How many commands were written before it, which is the count of its own command. -/
  number : Nat
  /-- What its reads took off the channel. -/
  taken : Channel Fault
  before : Session Fault
  step : Step Fault Answer

variable {Fault : Type}

/-- The frames among what a call took. -/
def Call.frames (call : Call Fault) : List Sent :=
  call.taken.filterMap Except.toOption

/-- The frames of a call are the items it took that are no fault. -/
theorem Call.mem_frames {call : Call Fault} {sent : Sent} :
    sent ∈ call.frames ↔ .ok sent ∈ call.taken := by
  -- A fault leaves no frame behind, and every other item leaves its own.
  constructor
  · intro member
    obtain ⟨item, taken, frame⟩ := List.mem_filterMap.mp member
    cases item with
    | error fault => simp [Except.toOption] at frame
    | ok other =>
      cases frame
      exact taken
  · intro taken
    exact List.mem_filterMap.mpr ⟨.ok sent, taken, rfl⟩

/-- The replies of the items of a channel that come last are those of the last replies. -/
theorem Channel.replies_eq_concat {channel : Channel Fault}
    {skipped : List (Except Fault Octets)} {frame : Octets}
    (split : channel.replies = skipped ++ [.ok frame]) :
    ∃ before sent, channel = before ++ [.ok sent] ∧ Channel.replies before = skipped ∧
      sent.frame = frame := by
  -- Replies are made item by item, so wherever they split, the items split with them.
  obtain ⟨before, last, parts, firsts, final⟩ := List.map_eq_append_iff.mp split
  obtain ⟨item, rfl, reply⟩ := List.map_eq_singleton_iff.mp final
  -- A reply that is a transfer comes from a frame under way, never from a fault.
  cases item with
  | error fault => simp [Except.map] at reply
  | ok sent => exact ⟨before, sent, parts, firsts, by simpa [Except.map] using reply⟩

/-- A frame under way is the reply that its channel yields. -/
theorem Channel.mem_replies {channel : Channel Fault} {sent : Sent} (member : .ok sent ∈ channel) :
    .ok sent.frame ∈ channel.replies :=
  List.mem_map.mpr ⟨.ok sent, member, rfl⟩

/-- The first replies of a channel are those of its first items. -/
theorem Channel.replies_take (channel : Channel Fault) (count : Nat) :
    Channel.replies (channel.take count) = channel.replies.take count := by
  simp only [Channel.replies, List.map_take]

/-- A frame for another command, delivered within the window, does not carry the expected number. -/
theorem Sent.Punctual.stale {sent : Sent} {number : Nat} (punctual : sent.Punctual number)
    (other : sent.command ≠ number) :
    ∀ octet ∈ (sent.frame.take readLimit)[6]?, octet ≠ UInt8.ofNat number := by
  obtain ⟨carries, ordered, window⟩ := punctual
  intro octet place same
  -- A read cuts far behind the place of the number.
  rw [List.getElem?_take_of_lt (by decide)] at place
  -- Two counts less than 256 apart with the same number are the same count.
  have number_eq : UInt8.ofNat sent.command = UInt8.ofNat number := by
    rw [← carries octet place, same]
  exact other (eq_of_ofNat_eq number_eq ordered window)

/-- A frame that is accepted within the window was produced for the command. -/
theorem Sent.Punctual.command_eq {sent : Sent} {number : Nat} (punctual : sent.Punctual number)
    {command : Command} {response : Response}
    (accepted : checkResponse command (UInt8.ofNat number) (sent.frame.take readLimit)
      = .ok response) : sent.command = number := by
  by_cases same : sent.command = number
  · exact same
  · -- Any other frame is refused, so it is not the one accepted.
    obtain ⟨error, refused, _⟩ := checkResponse_of_stale command (punctual.stale same)
    simp [refused] at accepted

/-- What a granted request tells of the frame under way that was it. -/
theorem Requests.own {command : Command} {number : Nat}
    (current : command.sequence = UInt8.ofNat number) {item : Except Fault Sent}
    (requests : Requests command (item.map Sent.frame))
    (punctual : ∀ sent, item = .ok sent → sent.Punctual number) :
    ∃ sent request, item = .ok sent ∧ sent.command = number ∧
      Response.decode (sent.frame.take readLimit) = .ok request ∧
      request.status.isTimeExtension = true := by
  obtain ⟨frame, request, reply, accepted, extension⟩ := requests
  -- Only a frame can be accepted, and an accepted frame tells its command.
  cases item with
  | error fault => simp [Except.map] at reply
  | ok sent =>
    have same : sent.frame = frame := by simpa [Except.map] using reply
    rw [← same, current] at accepted
    obtain ⟨read, _⟩ := checkResponse_eq_ok_iff.mp accepted
    refine ⟨sent, request, rfl, (punctual sent rfl).command_eq accepted, ?_, extension⟩
    exact Response.decode_eq_ok_iff.mpr read

/-- What a call may do with the frames that it took off the channel. -/
structure Call.Attributed (call : Call Fault) : Prop where
  /-- What a call took is what the script of replies lost by it. -/
  consumed : call.before.pipe.replies = call.taken.replies ++ call.step.session.pipe.replies
  /-- A call that succeeds skipped requests for more time, and its answer is the next frame; all
  of them were produced for its own command. -/
  answered : ∀ answer, call.step.answer = .ok answer →
    ∃ skipped final response, call.taken = skipped ++ [.ok final] ∧
      (∀ item ∈ skipped, ∃ sent request, item = .ok sent ∧ sent.command = call.number ∧
        Response.decode (sent.frame.take readLimit) = .ok request ∧
        request.status.isTimeExtension = true) ∧
      final.command = call.number ∧
      Response.decode (final.frame.take readLimit) = .ok response ∧
      call.operation.conclude response = .ok answer
  /-- A frame for another command is the last one taken, and the call fails by refusing it. -/
  refused : ∀ sent ∈ call.frames, sent.command ≠ call.number →
    (∃ skipped, call.taken = skipped ++ [.ok sent]) ∧
      ∃ error, call.step.answer = .error error ∧
        NumberRefusal (UInt8.ofNat call.number) (sent.frame.take readLimit) error
  /-- A kept Answer-To-Reset was kept before, or it is the answer of the call. -/
  kept : ∀ atr, call.step.session.lastAtr = some atr →
    call.before.lastAtr = some atr ∨ call.step.answer = .ok (.atr atr)

variable [BulkFault Fault]

/-- The calls of a run, each with the count of its command and what it took off the channel. -/
def Session.calls (session : Session Fault) (written : Nat) (channel : Channel Fault) :
    List Operation → List (Call Fault)
  | [] => []
  | operation :: rest =>
    let step := session.perform operation
    -- A call that writes nothing reads nothing either, so its count does not matter.
    let call := { operation, number := written, taken := channel.take step.reads
                  before := session, step }
    call :: step.session.calls (written + step.written.length) (channel.drop step.reads) rest

/-- The steps of the calls are those of the run. -/
theorem calls_step (session : Session Fault) (written : Nat) (channel : Channel Fault)
    (operations : List Operation) :
    (session.calls written channel operations).map Call.step = session.run operations := by
  -- Both make the same calls on the same sessions; the calls only keep books besides.
  induction operations generalizing session written channel with
  | nil => rfl
  | cons operation rest ih =>
    simp only [Session.calls, List.map_cons, Session.run, ih]

namespace Session

variable {session : Session Fault} {number : Nat} {channel : Channel Fault}

/-- What a call reads is what the first items of its channel yield. -/
theorem replies_taken (delivers : session.pipe.replies = channel.replies)
    (operation : Operation) :
    Channel.replies (channel.take (session.perform operation).reads)
      = session.pipe.replies.take (session.issue operation).reads := by
  rw [Channel.replies_take, delivers, session.perform_reads operation]

/-- A call that succeeds took frames for its own command alone. -/
theorem taken_of_ok (counted : session.HasWritten number)
    (delivers : session.pipe.replies = channel.replies) {operation : Operation}
    (punctual : ∀ sent, .ok sent ∈ channel.take (session.perform operation).reads →
      sent.Punctual number)
    {answer : Answer} (answered : (session.perform operation).answer = .ok answer) :
    ∃ skipped final response,
      channel.take (session.perform operation).reads = skipped ++ [.ok final] ∧
      (∀ item ∈ skipped, ∃ sent request, item = .ok sent ∧ sent.command = number ∧
        Response.decode (sent.frame.take readLimit) = .ok request ∧
        request.status.isTimeExtension = true) ∧
      final.command = number ∧
      Response.decode (final.frame.take readLimit) = .ok response ∧
      operation.conclude response = .ok answer := by
  -- Everything that the exchange read was accepted: the requests, and the final answer.
  obtain ⟨response, issued, concluded⟩ := issue_of_perform_ok answered
  obtain ⟨requests, frame, read, granted, accepted⟩ :=
    (session.issue_exchanged operation).of_ok issued
  -- The replies that were read split as the items that they came from.
  obtain ⟨skipped, final, taken, replies, rfl⟩ :=
    Channel.replies_eq_concat ((replies_taken delivers operation).trans read)
  have current : (session.commandFor operation).sequence = UInt8.ofNat number := counted
  have timely : final.Punctual number := punctual final (by simp [taken])
  refine ⟨skipped, final, response, taken, ?_, ?_, ?_, concluded⟩
  · -- A skipped item is a request that was granted.
    intro item member
    have reply : item.map Sent.frame ∈ requests := by
      rw [← replies]
      exact List.mem_map_of_mem member
    refine (granted _ reply).own current ?_
    rintro sent rfl
    exact punctual sent (by rw [taken]; exact List.mem_append_left _ member)
  · rw [current] at accepted
    exact timely.command_eq accepted
  · exact Response.decode_eq_ok_iff.mpr (checkResponse_eq_ok_iff.mp accepted).1

/-- A call that takes a frame for another command fails by refusing it. -/
theorem refused_of_taken (counted : session.HasWritten number)
    (delivers : session.pipe.replies = channel.replies) {operation : Operation} {sent : Sent}
    (member : .ok sent ∈ channel.take (session.perform operation).reads)
    (punctual : sent.Punctual number) (other : sent.command ≠ number) :
    (∃ skipped, channel.take (session.perform operation).reads = skipped ++ [.ok sent]) ∧
      ∃ error, (session.perform operation).answer = .error error ∧
        NumberRefusal (UInt8.ofNat number) (sent.frame.take readLimit) error := by
  have current : (session.commandFor operation).sequence = UInt8.ofNat number := counted
  -- The frame is refused wherever it is read, and a refusal ends the exchange.
  obtain ⟨error, refused, reason⟩ :=
    checkResponse_of_stale (session.commandFor operation) (punctual.stale other)
  rw [← current] at refused
  have reply := Channel.mem_replies member
  rw [replies_taken delivers operation] at reply
  obtain ⟨failed, requests, read, granted⟩ :=
    (session.issue_exchanged operation).of_refused reply refused
  refine ⟨?_, error, (perform_of_error failed).1, reason⟩
  -- The last item has the same octets; that it is this very frame is left to show.
  obtain ⟨skipped, final, taken, replies, _⟩ :=
    Channel.replies_eq_concat ((replies_taken delivers operation).trans read)
  rw [taken] at member
  rcases List.mem_append.mp member with early | last
  · -- Among the granted requests it would have been accepted.
    have request : .ok sent.frame ∈ requests := by
      rw [← replies]
      exact Channel.mem_replies early
    obtain ⟨frame, response, same, accepted, _⟩ := granted _ request
    cases same
    simp [refused] at accepted
  · cases List.mem_singleton.mp last
    exact ⟨skipped, taken⟩

/-- One call of a session that wrote so many frames is attributed. -/
theorem attributed_perform (counted : session.HasWritten number)
    (delivers : session.pipe.replies = channel.replies) (operation : Operation)
    (punctual : ∀ sent, .ok sent ∈ channel.take (session.perform operation).reads →
      sent.Punctual number) :
    Call.Attributed
      { operation, number, taken := channel.take (session.perform operation).reads
        before := session, step := session.perform operation } where
  consumed := by
    show _ = Channel.replies _ ++ _
    rw [session.replies_perform, Channel.replies_take, ← delivers, List.take_append_drop]
  answered := fun _ => taken_of_ok counted delivers punctual
  refused := by
    intro sent member
    have taken := Call.mem_frames.mp member
    exact refused_of_taken counted delivers taken (punctual sent taken)
  kept := fun _ => session.lastAtr_perform operation

/-- Every call of a run is attributed, whatever was written before the run. -/
theorem attributed_calls (counted : session.HasWritten number)
    (delivers : session.pipe.replies = channel.replies) (operations : List Operation)
    (punctual : ∀ call ∈ session.calls number channel operations,
      ∀ sent ∈ call.frames, sent.Punctual call.number) :
    ∀ call ∈ session.calls number channel operations, call.Attributed := by
  -- A call moves the session's number with the count, and the script with the channel.
  induction operations generalizing session number channel with
  | nil => simp [calls]
  | cons operation rest ih =>
    simp only [calls, List.mem_cons, forall_eq_or_imp] at punctual ⊢
    obtain ⟨now, later⟩ := punctual
    refine ⟨attributed_perform counted delivers operation ?_, ?_⟩
    · intro sent taken
      exact now sent (Call.mem_frames.mpr taken)
    · apply ih (counted.perform operation) _ later
      rw [session.replies_perform, delivers]
      simp only [Channel.replies, List.map_drop]

end Session

/--
Calls in a row succeed only with frames that were produced for their own commands.

The run starts with a new session, whose commands are counted from zero as they are written, and no
frame may come more than 255 commands after the one that it was produced for.
-/
theorem frames_answer_own_command {config : Config} {pipe : Pipe Fault} {session : Session Fault}
    (started : Session.start config pipe = .ok session) {channel : Channel Fault}
    (delivers : pipe.replies = channel.replies) (operations : List Operation)
    (punctual : ∀ call ∈ session.calls 0 channel operations,
      ∀ sent ∈ call.frames, sent.Punctual call.number) :
    (session.calls 0 channel operations).map Call.step = session.run operations ∧
      ∀ call ∈ session.calls 0 channel operations, call.Attributed := by
  -- A new session has written nothing, so its first command has the count of zero.
  obtain ⟨_, piped, counted⟩ := Session.of_start started
  refine ⟨calls_step session 0 channel operations, ?_⟩
  exact Session.attributed_calls counted (by rw [piped, delivers]) operations punctual

/-- Three status requests: answered after a request for time, lost, and met by the lost answer. -/
theorem frames_answer_own_command_lateAnswer :
    let answer (status number : UInt8) : Octets := [0x81, 0, 0, 0, 0, 0, number, status, 0, 0]
    let channel : Channel TransportError :=
      [.ok ⟨0, answer 0x80 0⟩, .ok ⟨0, answer 0 0⟩, .error .timeout, .ok ⟨1, answer 0 1⟩]
    let pipe : Pipe TransportError := { writes := [], replies := channel.replies }
    let session : Session TransportError :=
      { config := .default, sequence := .initial, lastAtr := none, power := .unknown, pipe }
    let calls := session.calls 0 channel [.slotStatus, .slotStatus, .slotStatus]
    Session.start .default pipe = .ok session ∧
      calls.map (fun call => (call.number, call.frames.map Sent.command))
        = [(0, [0, 0]), (1, []), (2, [1])] ∧
      (∀ call ∈ calls, ∀ sent ∈ call.frames, sent.Punctual call.number) ∧
      calls.map Call.step = session.run [.slotStatus, .slotStatus, .slotStatus] ∧
      ∀ call ∈ calls, call.Attributed := by
  intro answer channel pipe session calls
  have started : Session.start .default pipe = .ok session :=
    Session.start_of_valid Config.validate_default
  have punctual : ∀ call ∈ calls, ∀ sent ∈ call.frames, sent.Punctual call.number := by
    decide +kernel
  exact ⟨started, by decide, punctual, frames_answer_own_command started rfl _ punctual⟩

end Ccid

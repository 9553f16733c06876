import Ccid.Proofs.Session.Card
import Ccid.Proofs.Session.Refinement
import Ccid.Proofs.Session.Runs

/-!
A reader that keeps to the protocol gets every call answered.

For each command it may ask for more time within the limit, and then it gives one final answer. What
else it puts into its frames is free: the announced length, the card's presence, the payload.
-/

namespace Ccid

/-- A frame that a reader may give to the command of a call that has the given count. -/
structure Response.Addressed (config : Config) (number : Nat) (operation : Operation)
    (response : Response) : Prop where
  kind : response.kind = operation.kind.expected
  slot : response.slot = config.slot
  sequence : response.sequence = UInt8.ofNat number
  /-- One read takes the frame whole. -/
  readable : headerSize + response.payload.length ≤ readLimit

/-- What a reader sends for one command: requests for more time, and then the final answer. -/
structure Reply where
  requests : List Response
  answer : Response
  deriving DecidableEq

/-- The frames of a reply, in their order. -/
def Reply.frames (reply : Reply) : List Octets :=
  (reply.requests ++ [reply.answer]).map Response.encode

/-- A reply that keeps to the protocol. -/
structure Reply.Conforms (config : Config) (number : Nat) (operation : Operation)
    (reply : Reply) : Prop where
  granted : reply.requests.length ≤ config.maxTimeExtensions.toNat
  requested : ∀ request ∈ reply.requests,
    request.Addressed config number operation ∧ request.status.command = .timeExtension
  addressed : reply.answer.Addressed config number operation
  processed : reply.answer.status.command = .processed
  /-- The answer to a transmission comes in one block. -/
  unchained : ∀ apdu, operation = .transmit apdu → reply.answer.chainParameter = 0

/-- Calls whose payloads fit, each with a reply that keeps to the protocol. -/
inductive Conversation (config : Config) : Nat → List Operation → List Reply → Prop
  | nil {number : Nat} : Conversation config number [] []
  | cons {number : Nat} {operation : Operation} {reply : Reply} {operations : List Operation}
    {replies : List Reply} : operation.payload.length ≤ maxPayloadSize →
    reply.Conforms config number operation →
    Conversation config (number + 1) operations replies →
    Conversation config number (operation :: operations) (reply :: replies)

/-- A write that takes a frame of this length whole. -/
def WriteOutcome.Whole {Fault : Type} (length : Nat) (outcome : WriteOutcome Fault) : Prop :=
  outcome = .all ∨ outcome = .accepted length

/-- Writes of which each takes the frame of its call whole; when none is left, all do. -/
def TakenWhole {Fault : Type} (writes : List (WriteOutcome Fault))
    (operations : List Operation) : Prop :=
  ∀ pair ∈ writes.zip operations, pair.1.Whole (headerSize + pair.2.payload.length)

/-- What a call is to make of its final answer. -/
def Operation.content (operation : Operation) (response : Response) : Answer :=
  let data := response.payload.take (min response.dataLength.toNat response.payload.length)
  match operation with
  | .powerOn => .atr ⟨data⟩
  | .powerOff | .slotStatus => .response response
  | .transmit _ => .data data

/-- A read takes a frame whole that is no longer than what one read asks for. -/
theorem Response.take_encode {response : Response}
    (readable : headerSize + response.payload.length ≤ readLimit) :
    response.encode.take readLimit = response.encode := by
  apply List.take_of_length_le
  rw [response.length_encode]
  exact readable

/-- A final answer that was processed, and came in one block, is what the call makes of it. -/
theorem Operation.conclude_of_processed {operation : Operation} {response : Response}
    (processed : response.status.command = .processed)
    (unchained : ∀ apdu, operation = .transmit apdu → response.chainParameter = 0) :
    operation.conclude response = .ok (operation.content response) := by
  -- A processed command did not fail, so no call refuses the response for its status.
  have sound : response.status.isFailed = false := by
    simp [SlotStatus.isFailed, processed]
  cases operation with
  | powerOn =>
    simp [conclude, content, Response.accepted, sound, Except.map, ← response.data_eq]
  | powerOff => rfl
  | slotStatus => rfl
  | transmit apdu =>
    have whole : response.chainParameter = 0 := unchained apdu rfl
    simp [conclude, content, Response.accepted, sound, whole, Except.bind, ← response.data_eq]

variable {Fault : Type}

/-- A write outcome that takes the frame whole is reported as the frame's length. -/
theorem WriteOutcome.result_of_whole {outcome : WriteOutcome Fault} {frame : Octets}
    (whole : outcome.Whole frame.length) : outcome.result frame = .ok frame.length := by
  rcases whole with rfl | rfl <;> rfl

/-- After a call its write is no longer among those to come. -/
theorem TakenWhole.tail {writes : List (WriteOutcome Fault)} {operation : Operation}
    {operations : List Operation} (whole : TakenWhole writes (operation :: operations)) :
    TakenWhole writes.tail operations := by
  intro pair member
  -- The pairs that are left are those after the first.
  cases writes with
  | nil => simp at member
  | cons outcome writes => exact whole pair (by simp [show pair ∈ writes.zip operations from member])

/--
What reads get of the replies of a reader.

Every transfer with a full header of a known kind is the frame of a response, so nothing is lost by
speaking of responses.
-/
def script (Fault : Type) (replies : List Reply) : List (Except Fault Octets) :=
  (replies.flatMap Reply.frames).map .ok

namespace Session

variable {session : Session Fault} {number : Nat}

/-- The write of a call takes its frame whole. -/
theorem writeOutcome_of_whole {operation : Operation} {operations : List Operation}
    (whole : TakenWhole session.pipe.writes (operation :: operations)) :
    session.writeOutcome operation = .ok (session.commandFor operation).frame.length := by
  -- A write without an outcome of its own takes everything.
  unfold writeOutcome Pipe.write
  split
  case h_1 => rfl
  case h_2 outcome writes used =>
    apply WriteOutcome.result_of_whole
    rw [Command.length_frame]
    exact whole (outcome, operation) (by simp [used])

/-- A frame that is addressed to a call's command is accepted as its answer. -/
theorem verdict_of_addressed (counted : session.HasWritten number) {operation : Operation}
    {response : Response} (addressed : response.Addressed session.config number operation) :
    session.verdict operation (response.encode.take readLimit) = .ok response := by
  -- The read cuts nothing off, and the frame agrees with the command on every count.
  rw [Response.take_encode addressed.readable]
  apply checkResponse_eq_ok_iff.mpr
  refine ⟨rfl, ?_, addressed.slot, addressed.kind⟩
  rw [addressed.sequence]
  exact counted.symm

variable [BulkFault Fault]

/-- Whether a frame that is addressed to a call asks for time is told by its status. -/
theorem asksForTime_of_addressed (counted : session.HasWritten number) {operation : Operation}
    {response : Response} (addressed : response.Addressed session.config number operation) :
    asksForTime (session.verdict operation) (some (.ok response.encode : Except Fault Octets))
      = response.status.isTimeExtension := by
  simp only [asksForTime, judge, verdict_of_addressed counted addressed]

/-- The requests of a reply that keeps to the protocol are those that the call meets. -/
theorem requests_of_conforms (counted : session.HasWritten number) {operation : Operation}
    {reply : Reply} (conforms : reply.Conforms session.config number operation)
    {further : List (Except Fault Octets)}
    (scripted : session.pipe.replies = reply.frames.map .ok ++ further) :
    session.requests operation = reply.requests.length := by
  -- The requests come first, and the final answer after them is none.
  have parts : session.pipe.replies
      = reply.requests.map (fun request => .ok request.encode)
        ++ .ok reply.answer.encode :: further := by
    simp [scripted, Reply.frames, Function.comp_def]
  have asked : ∀ item ∈ reply.requests.map (fun request => (.ok request.encode : Except Fault Octets)),
      asksForTime (session.verdict operation) (some item) = true := by
    intro item member
    obtain ⟨request, requested, rfl⟩ := List.mem_map.mp member
    obtain ⟨addressed, extension⟩ := conforms.requested request requested
    rw [asksForTime_of_addressed counted addressed, SlotStatus.isTimeExtension, extension]
    rfl
  have decisive : asksForTime (session.verdict operation)
      (.ok reply.answer.encode :: further).head? = false := by
    rw [List.head?_cons, asksForTime_of_addressed counted conforms.addressed,
      SlotStatus.isTimeExtension, conforms.processed]
    rfl
  rw [requests, parts, openingExtensions_append _ asked, openingExtensions_of_decisive decisive,
    List.length_map, Nat.add_zero]

/-- A call that gets a reply that keeps to the protocol succeeds, and reads no further. -/
theorem perform_of_conforms (counted : session.HasWritten number) {operation : Operation}
    (fits : operation.payload.length ≤ maxPayloadSize)
    (whole : session.writeOutcome operation = .ok (session.commandFor operation).frame.length)
    {reply : Reply} (conforms : reply.Conforms session.config number operation)
    {further : List (Except Fault Octets)}
    (scripted : session.pipe.replies = reply.frames.map .ok ++ further) :
    (session.perform operation).answer = .ok (operation.content reply.answer) ∧
      (session.perform operation).session.pipe.replies = further := by
  -- The limit grants all requests, so the final answer decides.
  have asked := requests_of_conforms counted conforms scripted
  obtain ⟨answer, _, left⟩ := perform_of_few fits whole (asked ▸ conforms.granted)
  rw [asked] at answer left
  have size : (reply.frames.map (.ok : Octets → Except Fault Octets)).length
      = reply.requests.length + 1 := by
    simp [Reply.frames]
  have deciding : session.pipe.replies[reply.requests.length]? = some (.ok reply.answer.encode) := by
    simp [scripted, Reply.frames]
  constructor
  · rw [answer, deciding]
    show (session.verdict operation (reply.answer.encode.take readLimit)).bind _ = _
    rw [verdict_of_addressed counted conforms.addressed]
    exact Operation.conclude_of_processed conforms.processed conforms.unchained
  · rw [left, scripted, ← size, List.drop_left]

/-- Calls that get replies that keep to the protocol succeed, and read those replies alone. -/
theorem run_of_conversation {config : Config} {operations : List Operation}
    {replies : List Reply} (conversation : Conversation config number operations replies)
    (settings : session.config = config) (counted : session.HasWritten number)
    (whole : TakenWhole session.pipe.writes operations) {further : List (Except Fault Octets)}
    (scripted : session.pipe.replies = script Fault replies ++ further) :
    (session.run operations).map Step.answer
        = List.zipWith (fun operation reply => .ok (operation.content reply.answer))
            operations replies ∧
      (session.after operations).pipe.replies = further := by
  -- Each call takes the next number, the next write and the next reply.
  induction conversation generalizing session with
  | nil => exact ⟨rfl, by simpa [script, after] using scripted⟩
  | @cons number operation reply operations replies fits conforms rest ih =>
    subst settings
    have parts : session.pipe.replies
        = reply.frames.map .ok ++ (script Fault replies ++ further) := by
      simp [scripted, script]
    obtain ⟨answer, left⟩ :=
      perform_of_conforms counted fits (writeOutcome_of_whole whole) conforms parts
    have writes : TakenWhole (session.perform operation).session.pipe.writes operations := by
      rw [writes_perform fits]
      exact whole.tail
    obtain ⟨answers, remaining⟩ :=
      ih (session.config_perform operation) (counted.perform_of_fits fits) writes left
    refine ⟨?_, remaining⟩
    simp only [run, List.map_cons, List.zipWith_cons_cons, answer, answers]

end Session

variable [BulkFault Fault]

/--
A new session gets every call answered by a reader that keeps to the protocol.

Each call yields what its own final answer holds, the script of replies is read to where the reader
ended, and the Answer-To-Reset of a power-on is kept.
-/
theorem run_answers_conversation {config : Config} {pipe : Pipe Fault} {session : Session Fault}
    (started : Session.start config pipe = .ok session) {operations : List Operation}
    {replies : List Reply} (conversation : Conversation config 0 operations replies)
    (whole : TakenWhole pipe.writes operations) {further : List (Except Fault Octets)}
    (scripted : pipe.replies = script Fault replies ++ further) :
    (session.run operations).map Step.answer
        = List.zipWith (fun operation reply => .ok (operation.content reply.answer))
            operations replies ∧
      (session.after operations).pipe.replies = further ∧
      ∀ step ∈ session.run operations, ∀ atr, step.answer = .ok (.atr atr) →
        step.session.lastAtr = some atr ∧ step.session.power = .poweredOn := by
  -- A new session numbers its first command zero, which is where the conversation starts.
  obtain ⟨settings, piped, counted⟩ := Session.of_start started
  subst piped
  obtain ⟨answers, left⟩ :=
    Session.run_of_conversation conversation settings counted whole scripted
  refine ⟨answers, left, ?_⟩
  -- What is kept is a matter of each call alone, whatever the reader sends.
  exact Session.forall_run (fun session operation atr => Session.card_of_perform_atr)
    session operations

/-- A power-on that is granted more time once and announces too little, and a status request. -/
theorem run_answers_conversation_extended :
    let request : Response :=
      { kind := .dataBlock, dataLength := 0, slot := 0, sequence := 0, status := ⟨0x80⟩
        error := 1, chainParameter := 0, payload := [] }
    let atr : Response :=
      { kind := .dataBlock, dataLength := 2, slot := 0, sequence := 0, status := ⟨0⟩
        error := 0, chainParameter := 0, payload := [0x3B, 0x00, 0xFF] }
    let status : Response :=
      { kind := .slotStatus, dataLength := 0, slot := 0, sequence := 1, status := ⟨0⟩
        error := 0, chainParameter := 3, payload := [0xFF] }
    let replies : List Reply := [⟨[request], atr⟩, ⟨[], status⟩]
    let pipe : Pipe TransportError :=
      { writes := [.accepted 10], replies := script TransportError replies }
    let session : Session TransportError :=
      { config := .default, sequence := .initial, lastAtr := none, power := .unknown, pipe }
    Session.start .default pipe = .ok session ∧
      Conversation .default 0 [.powerOn, .slotStatus] replies ∧
      TakenWhole pipe.writes [.powerOn, .slotStatus] ∧
      (session.run [.powerOn, .slotStatus]).map Step.answer
        = [.ok (.atr ⟨[0x3B, 0x00]⟩), .ok (.response status)] ∧
      (session.after [.powerOn, .slotStatus]).pipe.replies = [] := by
  intro request atr status replies pipe session
  have started : Session.start .default pipe = .ok session :=
    Session.start_of_valid Config.validate_default
  have conversation : Conversation .default 0 [.powerOn, .slotStatus] replies := by
    refine .cons (by decide) ?_ (.cons (by decide) ?_ .nil)
    · refine ⟨by decide, ?_, ⟨rfl, rfl, rfl, by decide⟩, by decide, by simp⟩
      intro asked member
      cases List.mem_singleton.mp member
      exact ⟨⟨rfl, rfl, rfl, by decide⟩, by decide⟩
    · exact ⟨by decide, by simp, ⟨rfl, rfl, rfl, by decide⟩, by decide, by simp⟩
  have whole : TakenWhole pipe.writes [.powerOn, .slotStatus] := by
    intro pair member
    cases List.mem_singleton.mp member
    exact Or.inr rfl
  obtain ⟨answers, left, _⟩ :=
    run_answers_conversation started conversation whole (List.append_nil _).symm
  exact ⟨started, conversation, whole, answers, left⟩

end Ccid

import Ccid.Proofs.Session.Processing
import Ccid.Proofs.Session.Recoding

/-!
Octets beyond the announced length make no difference to a call that takes data.

A frame announces how many octets follow its header, and padding may come after them. Replies that
are the same as far as their frames announce lead to the same data and to the same session. The data
is what was received after the header, as far as the announced length goes.
-/

namespace Ccid

/-- How many octets a frame announces after its header. -/
def announcedLength (frame : Octets) : Nat :=
  ofLittleEndian ((frame.drop 1).take 4)

/-- A frame as far as it announces, and as far as one read goes. -/
def announcedPart (frame : Octets) : Octets :=
  frame.take (min (headerSize + announcedLength frame) readLimit)

/-- The header of a frame is in the first read, so it announces as much there. -/
theorem announcedLength_take (frame : Octets) :
    announcedLength (frame.take readLimit) = announcedLength frame := by
  simp [announcedLength, readLimit, List.drop_take, List.take_take]

/-- It makes no difference whether a frame is cut by a read before or after. -/
theorem announcedPart_take (frame : Octets) :
    (announcedPart frame).take readLimit = announcedPart (frame.take readLimit) := by
  rw [announcedPart, announcedPart, announcedLength_take, List.take_take, List.take_take,
    Nat.min_comm]

/-- Octets that cannot be read as a response cannot be read as far as they announce either. -/
theorem Unreadable.announcedPart {raw : Octets} {error : DecodeError}
    (unreadable : Unreadable raw error) : Unreadable (Ccid.announcedPart raw) error := by
  -- At least a full header is kept, of the octets that are there.
  have kept : headerSize ≤ min (headerSize + announcedLength raw) readLimit := by
    simp only [headerSize, readLimit]
    omega
  cases unreadable with
  | truncated short =>
    rw [Ccid.announcedPart, List.take_of_length_le (by omega)]
    exact .truncated short
  | unknownKind full first unknown =>
    refine .unknownKind ?_ ?_ unknown
    · rw [Ccid.announcedPart, List.length_take]
      omega
    · have some : min (headerSize + announcedLength raw) readLimit ≠ 0 :=
        Nat.ne_of_gt (Nat.lt_of_lt_of_le (by decide) kept)
      rwa [Ccid.announcedPart, List.head?_take, if_neg some]

namespace Response

/-- A response without the octets beyond its announced length. -/
def trimmed (response : Response) : Response :=
  { response with payload := response.data }

/-- The data is within the announced length, so it is all there. -/
@[simp] theorem data_trimmed (response : Response) : response.trimmed.data = response.data := by
  simp [trimmed, data, List.take_take]

/-- The frame of a response announces what the response does. -/
@[simp] theorem announcedLength_encode (response : Response) :
    announcedLength response.encode = response.dataLength.toNat := by
  -- The announced length is a 32-bit word, and it is the second field of four octets.
  have field : (response.encode.drop 1).take 4 = littleEndian 4 response.dataLength.toNat := by
    simp [encode, littleEndian]
  rw [announcedLength, field, ofLittleEndian_littleEndian 4 response.dataLength.toNat_lt]

/-- A frame that one read takes is, as far as it announces, that of the trimmed response. -/
theorem announcedPart_encode {response : Response} (readable : response.encode.length ≤ readLimit) :
    announcedPart response.encode = response.trimmed.encode := by
  -- The end of the read is not before the end of the frame, so only the announced length counts.
  have cut : announcedPart response.encode
      = response.encode.take (headerSize + response.dataLength.toNat) := by
    rw [announcedPart, announcedLength_encode, ← List.take_take,
      List.take_of_length_le readable]
  rw [cut, Nat.add_comm]
  simp [trimmed, data, encode, littleEndian, headerSize]

end Response

/-- The recoding that takes the padding from every transfer, and changes no number. -/
def Recoding.trimming : Recoding :=
  { shift := 0
    transfer := announcedPart
    response := Response.trimmed
    take_transfer := announcedPart_take
    transfer_encode := fun _ readable => Response.announcedPart_encode readable
    transfer_unreadable := fun unreadable => unreadable.announcedPart
    sequence_response := fun original => (UInt8.add_zero original.sequence).symm
    slot_response := fun _ => rfl
    kind_response := fun _ => rfl
    status_response := fun _ => rfl }

namespace Operation

/-- A call that takes data concludes the same from a response without its padding. -/
theorem conclude_trimmed {operation : Operation} (takes : operation.takesData = true)
    (response : Response) : operation.conclude response.trimmed = operation.conclude response := by
  -- The status, the error, the chain parameter and the data are the same.
  have status : response.trimmed.status = response.status := rfl
  cases operation with
  | powerOn =>
    simp only [conclude, Response.accepted, status]
    cases response.status.isFailed
    · simp [Except.map]
    · rfl
  | transmit apdu =>
    have chain : response.trimmed.chainParameter = response.chainParameter := rfl
    simp only [conclude, Response.accepted, status]
    cases response.status.isFailed
    · simp [Except.bind, chain]
    · rfl
  | powerOff | slotStatus => simp [takesData] at takes

/-- What a call concludes from an exchange, it concludes from it without padding. -/
theorem bind_conclude_trimmed {operation : Operation} (takes : operation.takesData = true)
    (answer : Except ExchangeError Response) :
    answer.bind operation.conclude = (retold 0 Response.trimmed answer).bind operation.conclude := by
  cases answer with
  | error error => simp [Except.bind]
  | ok response => simp [Except.bind, conclude_trimmed takes]

end Operation

/-- A warning that an answer has more octets than it announces, or fewer. -/
def Notice.isLengthWarning : Notice → Bool
  | .paddingDropped _ | .dataShort .. => true
  | _ => false

variable {Fault : Type}

/-- Whether something that is seen is such a warning. -/
def Event.isLengthWarning : Event Fault → Bool
  | .notice entry => entry.isLengthWarning
  | _ => false

/--
Replies of which those in the same place are the same fault, or frames that differ in padding alone.

A frame has no padding unless it is longer than it announces, or than what one read takes.
-/
def SameButPadding (first second : List (Except Fault Octets)) : Prop :=
  first.map (Except.map announcedPart) = second.map (Except.map announcedPart)

/-- What is seen, with the padding taken from the transfers and without the warnings of it. -/
def unpadded (events : List (Event Fault)) : List (Event Fault) :=
  (events.map (Event.recoded .trimming)).filter fun event => !event.isLengthWarning

/-- Padding is taken from events one by one. -/
theorem unpadded_append (first second : List (Event Fault)) :
    unpadded (first ++ second) = unpadded first ++ unpadded second := by
  rw [unpadded, List.map_append, List.filter_append]
  rfl

/-- A response's warning is all about its padding. -/
theorem Response.unpadded_lengthWarning (response : Response) :
    unpadded (response.lengthWarning.map Event.notice : List (Event Fault)) = [] := by
  simp only [lengthWarning]
  split
  · rfl
  · split <;> rfl

/-- Apart from warnings, a call tells the log the same of a response without its padding. -/
theorem Operation.unpadded_notices_trimmed {operation : Operation}
    (takes : operation.takesData = true) (response : Response) :
    unpadded ((operation.notices response.trimmed).map Event.notice : List (Event Fault))
      = unpadded ((operation.notices response).map Event.notice) := by
  -- What is told depends on the status, the chain parameter and the data, and these are the same.
  have status : response.trimmed.status = response.status := rfl
  have chain : response.trimmed.chainParameter = response.chainParameter := rfl
  cases operation with
  | powerOn =>
    simp only [notices, status]
    split
    · rfl
    · simp only [List.map_append, unpadded_append, Response.unpadded_lengthWarning,
        Response.data_trimmed]
  | transmit apdu =>
    simp only [notices, status, chain]
    split
    · rfl
    · simp only [Response.unpadded_lengthWarning]
  | powerOff | slotStatus => simp [takesData] at takes

namespace Session

/-- A session with other replies to come. -/
def rescripted (session : Session Fault) (replies : List (Except Fault Octets)) : Session Fault :=
  { session with pipe := { session.pipe with replies } }

/-- A session is its settings, its sequence, its card, and what its transfers will come to. -/
theorem eq_of_parts {first second : Session Fault} (config : first.config = second.config)
    (sequence : first.sequence = second.sequence) (card : first.card = second.card)
    (writes : first.pipe.writes = second.pipe.writes)
    (replies : first.pipe.replies = second.pipe.replies) : first = second := by
  obtain ⟨_, _, _, _, ⟨_, _⟩⟩ := first
  obtain ⟨_, _, _, _, ⟨_, _⟩⟩ := second
  obtain ⟨rfl, rfl⟩ := Card.mk.inj card
  subst config sequence writes replies
  rfl

variable [BulkFault Fault] {session : Session Fault} {operation : Operation}
  {other : List (Except Fault Octets)}

/-- Without padding, the exchanges on the same replies but padding are the same. -/
theorem issue_unpadded (same : SameButPadding other session.pipe.replies)
    (operation : Operation) :
    ((session.rescripted other).issue operation).recoded .trimming session.card
      = (session.issue operation).recoded .trimming session.card := by
  -- Without padding, the two sessions are the same.
  have alike : (session.rescripted other).recoded .trimming session.card
      = session.recoded .trimming session.card := by
    have replies : recodedReplies .trimming other
        = recodedReplies .trimming session.pipe.replies := same
    simp only [recoded, rescripted, replies]
  have first := exchange_recoded .trimming session.card (session.rescripted other)
    operation.kind (operation.reserved session.config) operation.payload
  rw [alike, exchange_recoded] at first
  exact first.symm

/-- The exchanges fail alike on the same replies but padding, or their responses differ in that. -/
theorem answer_issue_unpadded (same : SameButPadding other session.pipe.replies)
    (operation : Operation) :
    retold 0 Response.trimmed ((session.rescripted other).issue operation).answer
      = retold 0 Response.trimmed (session.issue operation).answer :=
  congrArg Step.answer (issue_unpadded same operation)

/-- A call that takes data answers the same on the same replies but padding. -/
theorem answer_perform_unpadded (takes : operation.takesData = true)
    (same : SameButPadding other session.pipe.replies) :
    ((session.rescripted other).perform operation).answer = (session.perform operation).answer := by
  rw [perform_answer, perform_answer, Operation.bind_conclude_trimmed takes,
    answer_issue_unpadded same, ← Operation.bind_conclude_trimmed takes]

/-- A call reads as many of the same replies but padding. -/
theorem reads_perform_unpadded (same : SameButPadding other session.pipe.replies)
    (operation : Operation) :
    ((session.rescripted other).perform operation).reads = (session.perform operation).reads := by
  rw [perform_reads, perform_reads, ← Step.reads_recoded .trimming session.card,
    issue_unpadded same, Step.reads_recoded]

/-- A call leaves the same session on the same replies but padding, up to those not yet read. -/
theorem session_perform_unpadded (takes : operation.takesData = true)
    (same : SameButPadding other session.pipe.replies) :
    ((session.rescripted other).perform operation).session
      = (session.perform operation).session.rescripted
          (other.drop (session.perform operation).reads) := by
  obtain ⟨_, sequence, pipe⟩ := session.perform_session operation
  obtain ⟨_, otherSequence, otherPipe⟩ := (session.rescripted other).perform_session operation
  have issued := congrArg Step.session (issue_unpadded same operation)
  refine eq_of_parts ?config ?sequence ?card ?writes ?replies
  case config => exact (config_perform ..).trans (session.config_perform operation).symm
  case sequence =>
    -- Nothing is added to either number.
    have upcoming := congrArg (·.sequence.upcoming) issued
    simp only [Step.recoded, recoded, Recoding.trimming, UInt8.add_zero] at upcoming
    exact otherSequence.trans ((congrArg Sequence.mk upcoming).trans sequence.symm)
  case card =>
    -- The card is what the answer makes of it.
    rw [card_perform, answer_perform_unpadded takes same]
    exact (session.card_perform operation).symm
  case writes =>
    have writes := congrArg (·.pipe.writes) issued
    exact (congrArg Pipe.writes otherPipe).trans (writes.trans (congrArg Pipe.writes pipe).symm)
  case replies =>
    rw [replies_perform, reads_perform_unpadded same]
    rfl

/-- Without padding, what is seen of a call is the same on the same replies but padding. -/
theorem events_perform_unpadded (takes : operation.takesData = true)
    (same : SameButPadding other session.pipe.replies) :
    unpadded ((session.rescripted other).perform operation).events
      = unpadded (session.perform operation).events := by
  have seen : unpadded ((session.rescripted other).issue operation).events
      = unpadded (session.issue operation).events :=
    congrArg (fun step => step.events.filter fun event => !event.isLengthWarning)
      (issue_unpadded same operation)
  have answers := answer_issue_unpadded same operation
  rw [perform_eq, perform_eq]
  -- Either both exchanges fail, or their responses differ in padding alone.
  cases again : ((session.rescripted other).issue operation).answer with
  | error error =>
    cases answer : (session.issue operation).answer with
    | error => exact seen
    | ok response => simp [again, answer] at answers
  | ok padded =>
    cases answer : (session.issue operation).answer with
    | error => simp [again, answer] at answers
    | ok response =>
      have trimmed : padded.trimmed = response.trimmed := by
        simpa [again, answer] using answers
      simp only [unpadded_append, seen]
      rw [← Operation.unpadded_notices_trimmed takes padded, trimmed,
        Operation.unpadded_notices_trimmed takes]

end Session

/-- The octets are the longest ones that a payload begins with, among those within a limit. -/
structure LongestPrefix (limit : Nat) (payload octets : Octets) : Prop where
  start : octets <+: payload
  within : octets.length ≤ limit
  longest : ∀ longer, longer <+: payload → longer.length ≤ limit → longer.length ≤ octets.length

/-- The longest prefix within a limit is cut off at it. -/
theorem LongestPrefix.of_take (limit : Nat) (payload : Octets) :
    LongestPrefix limit payload (payload.take limit) where
  start := List.take_prefix limit payload
  within := List.length_take_le limit payload
  longest longer start within := by
    have length := start.length_le
    rw [List.length_take]
    omega

/-- The card's octets in an answer. -/
def Answer.octets : Answer → Octets
  | .atr reset => reset.octets
  | .response received => received.data
  | .data octets => octets

/-- A call that takes data yields the data of its response. -/
theorem Operation.octets_of_conclude {operation : Operation} (takes : operation.takesData = true)
    {response : Response} {answer : Answer} (concluded : operation.conclude response = .ok answer) :
    answer.octets = response.data := by
  -- Only the Answer-To-Reset and the data of a transmission are left to look at.
  obtain ⟨_, _, rfl⟩ := (conclude_eq_ok_iff takes).mp concluded
  cases operation with
  | powerOn | transmit apdu => exact response.data_eq.symm
  | powerOff | slotStatus => simp [takesData] at takes

/-- What a call that takes data yields is what its last read got, as far as that announced. -/
theorem Session.octets_of_perform {Fault : Type} [BulkFault Fault] {session : Session Fault}
    {operation : Operation} (takes : operation.takesData = true) {answer : Answer}
    (answered : (session.perform operation).answer = .ok answer) :
    ∃ final, (session.pipe.replies.take (session.perform operation).reads).getLast?
        = some (.ok final) ∧
      LongestPrefix (announcedLength final) ((final.take readLimit).drop headerSize)
        answer.octets := by
  obtain ⟨response, issued, concluded⟩ := issue_of_perform_ok answered
  obtain ⟨skipped, final, read, _, accepted⟩ := (session.issue_exchanged operation).of_ok issued
  -- The octets of the last read are the response's frame.
  have frame : final.take readLimit = response.encode := (checkResponse_eq_ok_iff.mp accepted).1
  refine ⟨final, ?_, ?_⟩
  · rw [perform_reads, read, List.getLast?_concat]
  · rw [← announcedLength_take, frame, response.announcedLength_encode, response.drop_encode,
      Operation.octets_of_conclude takes concluded]
    exact .of_take ..

/--
Padding makes no difference to a call that takes data.

Replies may differ beyond what their frames announce, or beyond what one read takes. The call comes
to the same and reads as many of them, and it leaves the same session. What is seen of it is the same
as well, apart from the padding in the transfers and from warnings of it.

The data is never more than was announced, and never less than was announced and received.
-/
theorem data_independent_of_padding {Fault : Type} [BulkFault Fault] (session : Session Fault)
    {operation : Operation} (takes : operation.takesData = true)
    {other : List (Except Fault Octets)}
    (same : SameButPadding other session.pipe.replies) :
    let step := session.perform operation
    let again := (session.rescripted other).perform operation
    again.answer = step.answer ∧ again.reads = step.reads ∧
      step.session.pipe.replies = session.pipe.replies.drop step.reads ∧
      again.session = step.session.rescripted (other.drop step.reads) ∧
      unpadded again.events = unpadded step.events ∧
      ∀ answer, step.answer = .ok answer →
        ∃ final, (session.pipe.replies.take step.reads).getLast? = some (.ok final) ∧
          LongestPrefix (announcedLength final) ((final.take readLimit).drop headerSize)
            answer.octets := by
  intro step again
  refine ⟨?_, ?_, ?_, ?_, ?_, ?_⟩
  · exact Session.answer_perform_unpadded takes same
  · exact Session.reads_perform_unpadded same operation
  · exact session.replies_perform operation
  · exact Session.session_perform_unpadded takes same
  · exact Session.events_perform_unpadded takes same
  · intro answer answered
    exact Session.octets_of_perform takes answered

/-- A request for more time and an answer to a transmission, both padded. -/
theorem data_independent_of_padding_extended :
    let request : Octets := [0x80, 0, 0, 0, 0, 0, 5, 0x80, 1, 0]
    let answer : Octets := [0x80, 2, 0, 0, 0, 0, 5, 0, 0, 0, 0x90, 0x00]
    let session : Session TransportError :=
      { config := .default
        sequence := ⟨5⟩
        lastAtr := some ⟨[0x3B]⟩
        power := .poweredOn
        pipe := { writes := [], replies := [.ok request, .ok answer] } }
    let padded := session.rescripted [.ok (request ++ [0xAA]), .ok (answer ++ [0xBB, 0xCC])]
    let transmission : Operation := .transmit [0x00, 0xA4]
    SameButPadding padded.pipe.replies session.pipe.replies ∧
      (padded.perform transmission).answer = .ok (.data [0x90, 0x00]) ∧
      (padded.perform transmission).reads = 2 := by
  intro request answer session padded transmission
  have same : SameButPadding padded.pipe.replies session.pipe.replies := by cbv
  obtain ⟨answered, read, _⟩ :=
    data_independent_of_padding session (show transmission.takesData = true from rfl) same
  refine ⟨same, answered.trans ?_, read.trans ?_⟩ <;> cbv

end Ccid

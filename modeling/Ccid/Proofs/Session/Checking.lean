import Ccid.Proofs.Message.Framing
import Ccid.Session.Exchange

/-! Which transfers answer a command, and how the others are refused. -/

namespace Ccid

/-- A frame is judged by its number, then by its slot, then by its kind. -/
theorem checkResponse_encode (command : Command) (current : UInt8) (response : Response) :
    checkResponse command current response.encode =
      if response.sequence ≠ current then
        .error (.sequenceMismatch current response.sequence)
      else if response.slot ≠ command.slot then
        .error (.slotMismatch command.slot response.slot)
      else if response.kind ≠ command.kind.expected then
        .error (.unexpectedKind command.kind.expected response.kind.code)
      else .ok response := by
  -- A frame is read back as its response, so only the comparisons are left of the check.
  simp only [checkResponse, Response.decode_encode]

/-- Octets that are accepted as an answer are a frame. -/
theorem decode_of_checkResponse {command : Command} {current : UInt8} {transfer : Octets}
    {response : Response} (accepted : checkResponse command current transfer = .ok response) :
    ∃ read, Response.decode transfer = .ok read := by
  -- Without a reading, the check already ends with a refusal.
  cases found : Response.decode transfer with
  | ok read => exact ⟨read, rfl⟩
  | error error => cases error <;> simp [checkResponse, found] at accepted

/-- A transfer answers a command exactly when it is a frame with its number, slot and reply kind. -/
theorem checkResponse_eq_ok_iff {command : Command} {current : UInt8} {transfer : Octets}
    {response : Response} :
    checkResponse command current transfer = .ok response ↔
      transfer = response.encode ∧ response.sequence = current ∧
        response.slot = command.slot ∧ response.kind = command.kind.expected := by
  constructor
  · -- What is accepted was read, and is therefore the frame of what was read.
    intro accepted
    obtain ⟨read, found⟩ := decode_of_checkResponse accepted
    have frame := Response.eq_encode_of_decode found
    rw [frame, checkResponse_encode] at accepted
    -- Every branch but the last one is a refusal.
    by_cases number : read.sequence = current
    · by_cases slot : read.slot = command.slot
      · by_cases kind : read.kind = command.kind.expected
        · simp only [number, slot, kind, ne_eq, not_true_eq_false, if_false,
            Except.ok.injEq] at accepted
          subst accepted
          exact ⟨frame, number, slot, kind⟩
        · simp [number, slot, kind] at accepted
      · simp [number, slot] at accepted
    · simp [number] at accepted
  · -- A frame that agrees on all three counts passes all three comparisons.
    rintro ⟨rfl, number, slot, kind⟩
    rw [checkResponse_encode]
    simp [number, slot, kind]

/-- A frame under another number is refused for its number, before its slot or kind is looked at. -/
theorem checkResponse_of_otherNumber (command : Command) {current : UInt8} {response : Response}
    (other : response.sequence ≠ current) :
    checkResponse command current response.encode
      = .error (.sequenceMismatch current response.sequence) := by
  rw [checkResponse_encode, if_pos other]

/-- The refusals of a transfer that carries no number or another one than the expected. -/
inductive NumberRefusal (current : UInt8) (transfer : Octets) : ExchangeError → Prop
  | short : NumberRefusal current transfer (.shortRead transfer.length)
  | kind (expected : ResponseKind) (code : UInt8) :
    NumberRefusal current transfer (.unexpectedKind expected code)
  | number {actual : UInt8} : transfer[6]? = some actual → actual ≠ current →
    NumberRefusal current transfer (.sequenceMismatch current actual)

/-- A transfer without the expected number is refused for its header or for its number. -/
theorem checkResponse_of_stale (command : Command) {current : UInt8} {transfer : Octets}
    (stale : ∀ octet ∈ transfer[6]?, octet ≠ current) :
    ∃ error, checkResponse command current transfer = .error error ∧
      NumberRefusal current transfer error := by
  -- Octets are too short for a frame, or of no known kind, or they are read as a response.
  unfold checkResponse
  split
  case h_1 length short =>
    -- Only a transfer's own length is ever reported as too short.
    have same : length = transfer.length := by
      unfold Response.decode at short
      split at short
      · split at short <;> simp at short
      · simpa using short.symm
    subst same
    exact ⟨_, rfl, .short⟩
  case h_2 code _ => exact ⟨_, rfl, .kind _ code⟩
  case h_3 response found =>
    -- The number that was read stands where the transfer carries it.
    have place : transfer[6]? = some response.sequence := by
      rw [Response.eq_encode_of_decode found]
      exact response.encode_sequence
    have other : response.sequence ≠ current := stale _ place
    rw [if_pos other]
    exact ⟨_, rfl, .number place other⟩

end Ccid

import Ccid.Proofs.Session.Calls

/-! Calls made in a row: how their commands are numbered, and what they leave. -/

namespace Ccid

variable {Fault : Type}

/-- A session that wrote so many frames numbers its next command by that count, modulo 256. -/
def Session.HasWritten (session : Session Fault) (count : Nat) : Prop :=
  session.sequence.upcoming = UInt8.ofNat count

/-- The usual settings are sound. -/
theorem Config.validate_default : Config.default.validate = .ok () := by
  -- Ten seconds are ten thousand milliseconds.
  rw [Config.validate, if_neg (by decide)]

/-- A session starts with sound settings only, and then with nothing issued and nothing known. -/
theorem Session.start_eq_ok_iff {config : Config} {pipe : Pipe Fault} {session : Session Fault} :
    Session.start config pipe = .ok session ↔
      config.validate = .ok () ∧
        session = { config, sequence := .initial, lastAtr := none, power := .unknown, pipe } := by
  -- Unsound settings start no session, and sound ones start exactly one.
  unfold Session.start
  cases sound : config.validate with
  | error error => simp
  | ok _ => simp [eq_comm]

/-- A session starts with sound settings. -/
theorem Session.start_of_valid {config : Config} {pipe : Pipe Fault}
    (sound : config.validate = .ok ()) :
    Session.start config pipe
      = .ok { config, sequence := .initial, lastAtr := none, power := .unknown, pipe } :=
  Session.start_eq_ok_iff.mpr ⟨sound, rfl⟩

/-- What a session begins with: its settings and its pipe, and nothing written. -/
theorem Session.of_start {config : Config} {pipe : Pipe Fault} {session : Session Fault}
    (started : Session.start config pipe = .ok session) :
    session.config = config ∧ session.pipe = pipe ∧ session.HasWritten 0 := by
  obtain ⟨_, rfl⟩ := Session.start_eq_ok_iff.mp started
  exact ⟨rfl, rfl, rfl⟩

/-- A count of frames and the number of the next one grow together, around the octet's end too. -/
theorem ofNat_add (count more : Nat) :
    UInt8.ofNat count + UInt8.ofNat more = UInt8.ofNat (count + more) := by
  -- Both sides are the same remainder by 256.
  apply UInt8.toNat_inj.mp
  rw [UInt8.toNat_add, UInt8.toNat_ofNat', UInt8.toNat_ofNat', UInt8.toNat_ofNat']
  omega

/-- Counts within a window of 256 are told apart by their numbers. -/
theorem eq_of_ofNat_eq {first second : Nat} (same : UInt8.ofNat first = UInt8.ofNat second)
    (ordered : first ≤ second) (window : second ≤ first + 255) : first = second := by
  -- Equal numbers are equal remainders by 256, and no two counts of the window share one.
  have remainders := congrArg UInt8.toNat same
  rw [UInt8.toNat_ofNat', UInt8.toNat_ofNat'] at remainders
  omega

namespace Session

variable [BulkFault Fault]

/-- The count of frames grows by what a call writes, however the call ends. -/
theorem HasWritten.perform {session : Session Fault} {count : Nat}
    (counted : session.HasWritten count) (operation : Operation) :
    (session.perform operation).session.HasWritten
      (count + (session.perform operation).written.length) := by
  unfold HasWritten at counted ⊢
  rw [upcoming_perform, counted, ofNat_add]

/-- A call whose payload fits counts for one frame. -/
theorem HasWritten.perform_of_fits {session : Session Fault} {count : Nat}
    (counted : session.HasWritten count) {operation : Operation}
    (fits : operation.payload.length ≤ maxPayloadSize) :
    (session.perform operation).session.HasWritten (count + 1) := by
  have next := counted.perform operation
  rw [session.written_perform, if_pos fits] at next
  exact next

/-- What holds of every single call holds of every call of a run. -/
theorem forall_run {property : Step Fault Answer → Prop}
    (single : ∀ (session : Session Fault) (operation : Operation),
      property (session.perform operation))
    (session : Session Fault) (operations : List Operation) :
    ∀ step ∈ session.run operations, property step := by
  -- Each call of a run is a single call, on the session that the calls before it left.
  induction operations generalizing session with
  | nil => simp [run]
  | cons operation rest ih =>
    intro step member
    rcases List.mem_cons.mp member with rfl | later
    · exact single session operation
    · exact ih (session.perform operation).session step later

/-- What every single call shows of itself, on any session, a run shows call by call. -/
theorem map_run {Shown : Type} {view : Step Fault Answer → Shown} {shown : Operation → Shown}
    (single : ∀ (session : Session Fault) (operation : Operation),
      view (session.perform operation) = shown operation)
    (session : Session Fault) (operations : List Operation) :
    (session.run operations).map view = operations.map shown := by
  induction operations generalizing session with
  | nil => rfl
  | cons operation rest ih => rw [run, List.map_cons, single, ih, List.map_cons]

/-- The session that calls in a row leave. -/
def after (session : Session Fault) : List Operation → Session Fault
  | [] => session
  | operation :: rest => (session.perform operation).session.after rest

end Session

end Ccid

import Ccid.Proofs.Session.Runs

/-!
What a session writes in the course of a run.

Each call whose command fits one packet is written once, whatever becomes of it, and the others are
not written at all. The number that a command carries is the count of the writes before it, and a
power-on selects the voltage of the settings.
-/

namespace Ccid

namespace Operation

/-- Whether the command of a call fits one packet, of which the header takes 10 octets of 64. -/
def fits (operation : Operation) : Bool :=
  operation.payload.length ≤ 54

/-- The octet that a call's frame opens with. -/
def opening : Operation → UInt8
  | .powerOn => 0x62
  | .powerOff => 0x63
  | .slotStatus => 0x65
  | .transmit _ => 0x6F

/-- The octet by which a power-on selects a voltage; other calls select none. -/
def powerSelect (config : Config) : Operation → UInt8
  | .powerOn =>
    match config.voltage with
    | .automatic => 0
    | .volts5 => 1
    | .volts3 => 2
    | .volts1_8 => 3
  | .powerOff | .slotStatus | .transmit _ => 0

/-- What a call is written as when so many writes came before it. -/
def octets (config : Config) (number : Nat) (operation : Operation) : Octets :=
  operation.opening :: (littleEndian 4 operation.payload.length
    ++ config.slot :: UInt8.ofNat number :: operation.powerSelect config :: 0 :: 0
    :: operation.payload)

/-- A call fits exactly if its payload does. -/
theorem fits_iff {operation : Operation} :
    operation.fits = true ↔ operation.payload.length ≤ maxPayloadSize :=
  decide_eq_true_iff

/-- A call's command has the code that its frame opens with. -/
theorem code_kind (operation : Operation) : operation.kind.code = operation.opening := by
  cases operation <;> rfl

/-- The kind-specific octet of a call's command selects the voltage of the settings. -/
theorem reserved_eq (config : Config) (operation : Operation) :
    operation.reserved config = operation.powerSelect config := by
  cases operation with
  | powerOn =>
    -- Each of the four voltages has the code that selects it.
    simp only [reserved, powerSelect]
    cases config.voltage <;> rfl
  | powerOff | slotStatus | transmit => rfl

end Operation

variable {Fault : Type}

namespace Session

variable {session : Session Fault} {number : Nat}

/-- The frame of a call's command is told by the settings and the count of the writes before it. -/
theorem frame_commandFor (counted : session.HasWritten number) (operation : Operation) :
    (session.commandFor operation).frame = operation.octets session.config number := by
  -- The session's next number is the count, and no call uses the parameter.
  have upcoming : session.sequence.upcoming = UInt8.ofNat number := counted
  have unused : littleEndian 2 (0 : UInt16).toNat = [0, 0] := rfl
  simp only [Command.frame, commandFor, command, upcoming, unused, Operation.code_kind,
    Operation.reserved_eq, Operation.octets, List.cons_append, List.nil_append]

/-- The numbers of the next command and of the last one follow from the count of the writes. -/
theorem HasWritten.numbers (counted : session.HasWritten number) :
    session.sequence.upcoming.toNat = number % 256 ∧
      session.sequence.current.toNat = (number + 255) % 256 := by
  have upcoming : session.sequence.upcoming = UInt8.ofNat number := counted
  -- The number before is one less around the octet's end, which is 255 more.
  rw [Sequence.current, upcoming, UInt8.toNat_sub, UInt8.toNat_ofNat']
  constructor
  · rfl
  · simp only [UInt8.reduceToNat]
    omega

variable [BulkFault Fault]

/-- A call writes its octets if they fit one packet, and nothing otherwise. -/
theorem written_perform_of_count (counted : session.HasWritten number) (operation : Operation) :
    (session.perform operation).written =
      if operation.fits then [operation.octets session.config number] else [] := by
  simp only [written_perform, frame_commandFor counted, Operation.fits_iff]

/-- Calls in a row write those that fit, each under the count of the writes before it. -/
theorem written_run (counted : session.HasWritten number) (operations : List Operation) :
    (session.run operations).flatMap Step.written
      = (operations.filter Operation.fits).mapIdx fun earlier operation =>
          operation.octets session.config (number + earlier) := by
  -- A call that is written moves the count on by one, and any other call leaves it.
  induction operations generalizing session number with
  | nil => rfl
  | cons operation rest ih =>
    have written := written_perform_of_count counted operation
    have next := counted.perform operation
    rw [run, List.flatMap_cons, ih next, config_perform, written]
    cases fits : operation.fits with
    | false => simp [fits]
    | true =>
      have shift : ∀ earlier, number + 1 + earlier = number + (earlier + 1) := by omega
      simp [fits, List.mapIdx_cons, shift]

/-- After calls in a row the count has grown by what they wrote. -/
theorem HasWritten.after (counted : session.HasWritten number) (operations : List Operation) :
    (session.after operations).HasWritten
      (number + ((session.run operations).flatMap Step.written).length) := by
  induction operations generalizing session number with
  | nil => exact counted
  | cons operation rest ih =>
    have later := ih (counted.perform operation)
    rw [Nat.add_assoc, ← List.length_append] at later
    exact later

end Session

variable [BulkFault Fault]

/--
A run writes each call that fits one packet once, and the other calls not at all.

The write that comes after so many others is the octets of its call under that count, however the
calls before it ended. The sequence of numbers is then as far as the count of all writes.
-/
theorem run_writes {config : Config} {pipe : Pipe Fault} {session : Session Fault}
    (started : Session.start config pipe = .ok session) (operations : List Operation) :
    let steps := session.run operations
    let writes := steps.flatMap Step.written
    let reached := session.after operations
    steps.map (fun step => step.written.length)
        = operations.map (fun operation => if operation.payload.length ≤ 54 then 1 else 0) ∧
      writes = (operations.filter Operation.fits).mapIdx
        (fun number operation => operation.octets config number) ∧
      reached.sequence.upcoming.toNat = writes.length % 256 ∧
      reached.sequence.current.toNat = (writes.length + 255) % 256 := by
  intro steps writes reached
  obtain ⟨rfl, _, counted⟩ := Session.of_start started
  have reachedCount := counted.after operations
  rw [Nat.zero_add] at reachedCount
  refine ⟨?_, ?_, reachedCount.numbers⟩
  · -- How often a call is written depends on its payload alone.
    apply Session.map_run
    intro session operation
    rw [session.written_perform, apply_ite List.length]
    rfl
  · have written := Session.written_run counted operations
    simp only [Nat.zero_add] at written
    exact written

/--
Five calls for slot 5 and three volts: the first write fails, and the third takes three octets only.

The payload of 55 octets is never written, and the others are numbered past it.
-/
theorem run_writes_miscounted :
    let config : Config := { Config.default with slot := 5, voltage := .volts3 }
    let pipe : Pipe TransportError :=
      { writes := [.failed .timeout, .all, .accepted 3], replies := [] }
    let session : Session TransportError :=
      { config, sequence := .initial, lastAtr := none, power := .unknown, pipe }
    let operations : List Operation :=
      [.powerOn, .powerOff, .transmit (List.replicate 55 0), .transmit [0x00, 0xB0], .slotStatus]
    let steps := session.run operations
    Session.start config pipe = .ok session ∧
      steps.map (fun step => step.written.length) = [1, 1, 0, 1, 1] ∧
      steps.flatMap Step.written
        = [[0x62, 0, 0, 0, 0, 5, 0, 2, 0, 0], [0x63, 0, 0, 0, 0, 5, 1, 0, 0, 0],
          [0x6F, 2, 0, 0, 0, 5, 2, 0, 0, 0, 0x00, 0xB0], [0x65, 0, 0, 0, 0, 5, 3, 0, 0, 0]] ∧
      (session.after operations).sequence.upcoming.toNat = 4 := by
  intro config pipe session operations steps
  have started : Session.start config pipe = .ok session :=
    Session.start_of_valid Config.validate_default
  obtain ⟨counts, writes, upcoming, _⟩ := run_writes started operations
  have frames : (operations.filter Operation.fits).mapIdx
      (fun number operation => operation.octets config number)
        = [[0x62, 0, 0, 0, 0, 5, 0, 2, 0, 0], [0x63, 0, 0, 0, 0, 5, 1, 0, 0, 0],
          [0x6F, 2, 0, 0, 0, 5, 2, 0, 0, 0, 0x00, 0xB0], [0x65, 0, 0, 0, 0, 5, 3, 0, 0, 0]] := by
    decide
  rw [writes, frames] at upcoming
  exact ⟨started, counts, writes.trans frames, upcoming⟩

end Ccid

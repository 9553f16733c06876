import Mathlib.Algebra.Ring.Nat
import Ccid.Proofs.Session.Runs
import Ccid.Usb.Event

/-!
The deadlines of a session's transfers.

A deadline is sound if it has whole milliseconds that 32 bits count: then the bus takes it as it is,
and never for none at all. A session starts with a sound deadline only, and every transfer of every
call on it is made under that one.
-/

namespace Ccid

namespace Duration

/-- A span as a count of nanoseconds. -/
def inNanos (span : Duration) : Nat :=
  span.seconds.toNat * 10 ^ 9 + span.nanos.toNat

/-- The whole milliseconds of a span are what remains of its nanoseconds. -/
theorem millis_eq (span : Duration) : span.millis = span.inNanos / 10 ^ 6 := by
  -- A second is a whole number of milliseconds, so nothing of it is lost.
  unfold millis inNanos
  omega

/-- A count of milliseconds is the whole milliseconds of its span. -/
@[simp] theorem millis_ofMillis (count : UInt64) : (ofMillis count).millis = count.toNat := by
  -- Neither the seconds nor the nanoseconds within one are too large for their words.
  have seconds : count.toNat / 1000 < 2 ^ 64 :=
    Nat.lt_of_le_of_lt (Nat.div_le_self _ _) count.toNat_lt
  have nanos : count.toNat % 1000 * 1000000 < 2 ^ 32 := by omega
  rw [millis, ofMillis, UInt64.toNat_ofNat', UInt32.toNat_ofNat', Nat.mod_eq_of_lt seconds,
    Nat.mod_eq_of_lt nanos]
  omega

/-- A span of one millisecond at least, and below 2 ^ 32 of them. -/
def Sound (span : Duration) : Prop :=
  10 ^ 6 ≤ span.inNanos ∧ span.inNanos < 2 ^ 32 * 10 ^ 6

/-- A span is sound by its whole milliseconds alone. -/
theorem sound_iff_millis {span : Duration} :
    span.Sound ↔ 1 ≤ span.millis ∧ span.millis < UInt32.size := by
  -- Both bounds are whole milliseconds, so what the division cuts off does not matter.
  have size : UInt32.size = 2 ^ 32 := rfl
  rw [Sound, millis_eq, size]
  omega

/-- A span is sound exactly if the bus takes it as it is, and not for none. -/
theorem sound_iff_deadline {span : Duration} :
    span.Sound ↔ Usb.deadline span ≠ 0 ∧ Usb.deadline span = span.millis := by
  -- A remainder is the number itself below the modulus, and never beyond it.
  have size : UInt32.size = 2 ^ 32 := rfl
  rw [sound_iff_millis, Usb.deadline, size]
  omega

end Duration

/-- Settings are accepted exactly if their deadline is sound. -/
theorem Config.validate_eq_ok_iff {config : Config} :
    config.validate = .ok () ↔ config.timeout.Sound := by
  -- The check looks at the whole milliseconds, which tell whether the deadline is sound.
  rw [Duration.sound_iff_millis, validate]
  split
  · rename_i outside
    constructor
    · intro impossible
      simp at impossible
    · omega
  · rename_i within
    simp only [true_iff]
    omega

/-- Settings without a sound deadline are refused with that deadline. -/
theorem Config.validate_of_unsound {config : Config} (unsound : ¬ config.timeout.Sound) :
    config.validate = .error (.timeoutOutOfRange config.timeout) := by
  -- The check has two outcomes, and the other one is for sound deadlines.
  have refused : config.validate ≠ .ok () := fun accepted =>
    unsound (validate_eq_ok_iff.mp accepted)
  unfold validate at refused ⊢
  split
  · rfl
  · simp [*] at refused

/-- A session starts exactly with a sound deadline. -/
theorem Session.start_isOk_iff {Fault : Type} {config : Config} {pipe : Pipe Fault} :
    (∃ session, Session.start config pipe = .ok session) ↔ config.timeout.Sound := by
  -- Nothing but the check of the settings can fail.
  simp only [start_eq_ok_iff, exists_and_left, exists_eq, and_true, Config.validate_eq_ok_iff]

/-- No session starts without a sound deadline, and the refusal names the deadline. -/
theorem Session.start_of_unsound {Fault : Type} {config : Config} (pipe : Pipe Fault)
    (unsound : ¬ config.timeout.Sound) :
    Session.start config pipe = .error (.config (.timeoutOutOfRange config.timeout)) := by
  -- The check comes first, and its refusal is passed on.
  simp only [start, Config.validate_of_unsound unsound]

variable {Fault : Type}

/-- A transfer is made under this deadline, and a read asks for 1024 octets. -/
def Event.Timed (timeout : Duration) : Event Fault → Prop
  | .notice _ => True
  | .write _ given _ => given = timeout
  | .read limit given _ => given = timeout ∧ limit = 1024

/-- What is told is no transfer. -/
theorem Event.timed_of_mem_notices {timeout : Duration} {entries : List Notice}
    {event : Event Fault} (member : event ∈ entries.map Event.notice) : event.Timed timeout := by
  obtain ⟨entry, _, rfl⟩ := List.mem_map.mp member
  trivial

/-- A frame is written under the deadline of its session. -/
theorem Event.timed_of_mem_departure {session : Session Fault} {frame : Octets}
    {outcome : Except Fault Nat} {event : Event Fault}
    (member : event ∈ session.departure frame outcome) : event.Timed session.config.timeout := by
  -- The frame is told and then written.
  simp only [Session.departure, List.mem_cons, List.not_mem_nil, or_false] at member
  rcases member with rfl | rfl
  · trivial
  · rfl

/-- A transfer arrives under the deadline of the read that asked for it. -/
theorem Event.timed_of_mem_arrival {timeout : Duration} {sent : Octets} {event : Event Fault}
    (member : event ∈ arrival timeout sent) : event.Timed timeout := by
  -- The transfer is read and then told.
  simp only [arrival, List.mem_cons, List.not_mem_nil, or_false] at member
  rcases member with rfl | rfl
  · exact ⟨rfl, rfl⟩
  · trivial

variable [BulkFault Fault]

/-- The reads of a wait are made under its deadline. -/
theorem timed_awaitAnswer (check : Octets → Except ExchangeError Response) (limit : UInt32)
    (timeout : Duration) (granted : UInt32) (replies : List (Except Fault Octets)) :
    ∀ event ∈ (awaitAnswer check limit timeout granted replies).events, event.Timed timeout := by
  -- Each read passes the deadline on unchanged to the reads after it.
  fun_induction awaitAnswer check limit timeout granted replies with
  | case1 | case2 => simp [Event.Timed, readLimit]
  | case3 | case4 | case6 => exact fun _ => Event.timed_of_mem_arrival
  | case5 _ _ _ _ _ _ _ _ _ _ later =>
    intro event member
    rcases List.mem_append.mp member with seen | read
    · rcases List.mem_append.mp seen with arrived | told
      · exact Event.timed_of_mem_arrival arrived
      · rw [List.mem_singleton.mp told]
        trivial
    · exact later event read

/-- The transfers of an exchange are made under its session's deadline. -/
theorem Exchanged.timed {session : Session Fault} {command : Command}
    {step : Step Fault Response} (exchanged : Exchanged session command step) :
    ∀ event ∈ step.events, event.Timed session.config.timeout := by
  -- There is a write unless the command is refused, and reads only after the write.
  cases exchanged with
  | refused => simp
  | unwritten | miscounted => exact fun _ => Event.timed_of_mem_departure
  | awaited =>
    intro event member
    rcases List.mem_append.mp member with written | read
    · exact Event.timed_of_mem_departure written
    · exact timed_awaitAnswer _ _ _ _ _ event read

namespace Session

/-- The transfers of a call are made under its session's deadline. -/
theorem timed_perform (session : Session Fault) (operation : Operation) :
    ∀ event ∈ (session.perform operation).events, event.Timed session.config.timeout := by
  -- After its exchange a call makes no transfer.
  obtain ⟨entries, events⟩ := session.perform_events operation
  rw [events]
  intro event member
  rcases List.mem_append.mp member with exchanged | told
  · exact (session.issue_exchanged operation).timed event exchanged
  · exact Event.timed_of_mem_notices told

/-- The transfers of a run are made under the deadline that its session began with. -/
theorem timed_run (session : Session Fault) (operations : List Operation) :
    ∀ step ∈ session.run operations, ∀ event ∈ step.events,
      event.Timed session.config.timeout := by
  -- No call changes the settings, so every call of the run has the first one's deadline.
  induction operations generalizing session with
  | nil => simp [run]
  | cons operation rest ih =>
    intro step member
    rcases List.mem_cons.mp member with rfl | later
    · exact session.timed_perform operation
    · have timed := ih (session.perform operation).session step later
      rw [config_perform] at timed
      exact timed

end Session

end Ccid

import Ccid.Cli.Run

/-!
The ways in which a command line's visit to a reader may go.

The reader cannot be had, or the settings are refused, or a session is used; then the reader is put
away. Transfers are seen of the use alone, since looking for a reader, claiming it and putting it
away transfer nothing.
-/

namespace Ccid

namespace Usb

/-- Whether something seen on a bus is a transfer. -/
def Event.isTransfer : Event → Bool
  | .write .. | .read .. => true
  | _ => false

/-- The transfers among what is seen on a bus. -/
def transfers (events : List Event) : List Event :=
  events.filter Event.isTransfer

/-- The transfers of two parts are those of the first and then those of the second. -/
@[simp] theorem transfers_append (first second : List Event) :
    transfers (first ++ second) = transfers first ++ transfers second :=
  List.filter_append ..

/-- Claiming the interface of an open device transfers nothing. -/
theorem transfers_claimOpened (device : Device) (endpoints : BulkPair) :
    transfers (claimOpened device endpoints).events = [] := by
  fun_cases claimOpened device endpoints <;> rfl

/-- Taking the interface of an open device from the system's driver transfers nothing either. -/
theorem transfers_detachAndClaim (device : Device) (endpoints : BulkPair) :
    transfers (detachAndClaim device endpoints).events = [] := by
  -- Where the claim is made at all, it comes last.
  fun_cases detachAndClaim device endpoints with
  | case1 => rfl
  | case2 | case3 => exact transfers_claimOpened device endpoints

/-- Opening and claiming a device transfers nothing. -/
theorem transfers_claim (device : Device) (endpoints : BulkPair) :
    transfers (device.claim endpoints).events = [] := by
  fun_cases device.claim endpoints with
  | case1 => rfl
  | case2 => exact transfers_detachAndClaim device endpoints

/-- Looking for a reader among devices transfers nothing. -/
theorem transfers_claimFirst (vendor product : UInt16) (devices : List Device) :
    transfers (claimFirst vendor product devices).events = [] := by
  -- Devices that are passed over leave no event, and the search ends with the first claim.
  fun_induction claimFirst vendor product devices with
  | case1 | case2 => rfl
  | case3 device => exact transfers_claim device _
  | case4 | case5 => assumption

/-- Looking for a reader and claiming it transfers nothing. -/
theorem transfers_claimReader (bus : Bus) (vendor product : UInt16) :
    transfers (bus.claimReader vendor product).events = [] := by
  fun_cases bus.claimReader vendor product with
  | case1 => rfl
  | case2 => exact transfers_claimFirst vendor product _

/-- Putting a reader away transfers nothing. -/
@[simp] theorem transfers_putAway (reader : Reader) : transfers reader.putAway = [] := rfl

end Usb

namespace Cli

/-- The attempt of a command line to have its reader. -/
def Invocation.attempt (invocation : Invocation) (bus : Usb.Bus) : Usb.Attempt :=
  bus.claimReader invocation.vendor invocation.product

/-- A command line has its reader, and begins a session on it. -/
def Invocation.Opens (invocation : Invocation) (bus : Usb.Bus) (session : Session Usb.Fault) :
    Prop :=
  ∃ reader, (invocation.attempt bus).outcome = .ok reader ∧
    Session.start invocation.config reader.device.pipe = .ok session

/-- What is seen of a command line until it has its reader, or not. -/
def Invocation.arrival (invocation : Invocation) (bus : Usb.Bus) : List Usb.Event :=
  .notice (.opening invocation.vendor invocation.product) :: (invocation.attempt bus).events

/-- The ways in which a command line's visit to its reader may go. -/
inductive Visited (invocation : Invocation) (bus : Usb.Bus) (use : Session Usb.Fault → Use) :
    Run → Prop
  /-- There is no reader to be had. -/
  | unclaimed {error : Usb.ReaderError} : (invocation.attempt bus).outcome = .error error →
    Visited invocation bus use
      { outcome := .error (.reader error), events := invocation.arrival bus }
  /-- The settings are refused, and the reader is put away unused. -/
  | unsound {reader : Usb.Reader} {error : ExchangeError} :
    (invocation.attempt bus).outcome = .ok reader →
    Session.start invocation.config reader.device.pipe = .error error →
    Visited invocation bus use
      { outcome := .error (.exchange error)
        events := invocation.arrival bus ++ reader.putAway }
  /-- A session is used, and the reader is put away afterwards. -/
  | used {reader : Usb.Reader} {session : Session Usb.Fault} :
    (invocation.attempt bus).outcome = .ok reader →
    Session.start invocation.config reader.device.pipe = .ok session →
    Visited invocation bus use
      { outcome := (use session).outcome
        events :=
          invocation.arrival bus ++ reader.observed (use session).events ++ reader.putAway }

/-- Every visit goes one of these ways. -/
theorem Invocation.withSession_visited (invocation : Invocation) (bus : Usb.Bus)
    (use : Session Usb.Fault → Use) :
    Visited invocation bus use (invocation.withSession bus use) := by
  -- The attempt decides first, and then the settings do.
  fun_cases Invocation.withSession invocation bus use with
  | case1 _ _ _ failed => exact .unclaimed failed
  | case2 _ _ _ claimed _ refused => exact .unsound claimed refused
  | case3 _ _ _ claimed _ started => exact .used claimed started

/-- Until a command line has its reader, nothing is transferred. -/
@[simp] theorem Invocation.transfers_arrival (invocation : Invocation) (bus : Usb.Bus) :
    Usb.transfers (invocation.arrival bus) = [] :=
  Usb.transfers_claimReader bus invocation.vendor invocation.product

namespace Visited

variable {invocation : Invocation} {bus : Usb.Bus} {use : Session Usb.Fault → Use} {run : Run}

/-- A visit that comes to a session is the use of it, between the arrival and the putting away. -/
theorem eq_of_start (visited : Visited invocation bus use run) {reader : Usb.Reader}
    (claimed : (invocation.attempt bus).outcome = .ok reader) {session : Session Usb.Fault}
    (started : Session.start invocation.config reader.device.pipe = .ok session) :
    run =
      { outcome := (use session).outcome
        events :=
          invocation.arrival bus ++ reader.observed (use session).events ++ reader.putAway } := by
  -- There is one attempt, and one start on the reader that it yields.
  cases visited with
  | unclaimed failed =>
    rw [claimed] at failed
    contradiction
  | unsound claimedAgain refused =>
    rw [claimed] at claimedAgain
    cases claimedAgain
    rw [started] at refused
    contradiction
  | used claimedAgain startedAgain =>
    rw [claimed] at claimedAgain
    cases claimedAgain
    rw [started] at startedAgain
    cases startedAgain
    rfl

/-- A visit ends as the use of its session does, if it comes to one. -/
theorem outcome_of_start (visited : Visited invocation bus use run) {reader : Usb.Reader}
    (claimed : (invocation.attempt bus).outcome = .ok reader) {session : Session Usb.Fault}
    (started : Session.start invocation.config reader.device.pipe = .ok session) :
    run.outcome = (use session).outcome := by
  rw [visited.eq_of_start claimed started]

/-- A visit that succeeds comes to a session, and its use succeeds with the same report. -/
theorem outcome_eq_ok_iff (visited : Visited invocation bus use run) {report : Report} :
    run.outcome = .ok report ↔
      ∃ (reader : Usb.Reader) (session : Session Usb.Fault),
        (invocation.attempt bus).outcome = .ok reader ∧
          Session.start invocation.config reader.device.pipe = .ok session ∧
          (use session).outcome = .ok report := by
  constructor
  · intro succeeded
    cases visited with
    | unclaimed | unsound => simp at succeeded
    | used claimed started => exact ⟨_, _, claimed, started, succeeded⟩
  · rintro ⟨reader, session, claimed, started, succeeded⟩
    rw [visited.outcome_of_start claimed started, succeeded]

/-- The transfers of a visit are those of the session that is used in it, if there is one. -/
theorem transfers_eq (visited : Visited invocation bus use run) :
    Usb.transfers run.events = [] ∨
      ∃ (reader : Usb.Reader) (session : Session Usb.Fault),
        (invocation.attempt bus).outcome = .ok reader ∧
          Session.start invocation.config reader.device.pipe = .ok session ∧
          Usb.transfers run.events = Usb.transfers (reader.observed (use session).events) := by
  -- What comes before the use and after it is filtered away.
  cases visited with
  | unclaimed => exact .inl (invocation.transfers_arrival bus)
  | unsound => exact .inl (by simp)
  | @used reader session claimed started =>
    exact .inr ⟨reader, session, claimed, started, by simp⟩

end Visited

/-- A visit succeeds exactly if it comes to a session whose use succeeds. -/
theorem Invocation.outcome_withSession_iff {invocation : Invocation} {bus : Usb.Bus}
    {use : Session Usb.Fault → Use} {told : Report} :
    (invocation.withSession bus use).outcome = .ok told ↔
      ∃ session, invocation.Opens bus session ∧ (use session).outcome = .ok told := by
  rw [(invocation.withSession_visited bus use).outcome_eq_ok_iff]
  constructor
  · rintro ⟨reader, session, claimed, started, used⟩
    exact ⟨session, ⟨reader, claimed, started⟩, used⟩
  · rintro ⟨session, ⟨reader, claimed, started⟩, used⟩
    exact ⟨reader, session, claimed, started, used⟩

end Cli

end Ccid

import Ccid.Proofs.Cli.Visits
import Ccid.Proofs.Cli.Words
import Ccid.Proofs.Session.Deadlines

/-!
No transfer waits forever.

Settings without a deadline that the bus takes as it is are refused before anything is transferred.
So every transfer of a session is made under the one deadline that was accepted, and a command line
comes to a session exactly if 32 bits count its milliseconds, and there are any.
-/

namespace Ccid

namespace Usb

/-- A transfer on a bus is made under this deadline, and a read asks for 1024 octets. -/
def Event.Timed (timeout : Duration) : Event → Prop
  | .write _ _ given _ => given = timeout
  | .read _ limit given _ => given = timeout ∧ limit = 1024
  | _ => True

/-- The transfers of a session are made on the bus under the deadline that the session gives. -/
theorem Reader.timed_of_mem_observed {timeout : Duration} {reader : Reader}
    {events : List (Ccid.Event Fault)} (timed : ∀ event ∈ events, event.Timed timeout)
    {seen : Event} (member : seen ∈ reader.observed events) : seen.Timed timeout := by
  -- Between the session and the bus an event gains its endpoint and nothing else.
  obtain ⟨event, happened, rfl⟩ := List.mem_map.mp member
  cases event with
  | notice => trivial
  | write | read => exact timed _ happened

end Usb

namespace Cli

section Uses

variable (session : Session Usb.Fault)

/-- Sending octets makes two calls at most, both of them under the session's deadline. -/
theorem timed_transmit (apdu : Octets) :
    ∀ event ∈ (transmit apdu session).events, event.Timed session.config.timeout := by
  -- The second call is made on what the first one leaves, under the same settings.
  have on := session.timed_perform .powerOn
  have sent := (session.perform .powerOn).session.timed_perform (.transmit apdu)
  rw [Session.config_perform] at sent
  fun_cases transmit apdu session with
  | case1 => exact on
  | case2 => exact List.forall_mem_append.mpr ⟨on, sent⟩

/-- Checking a card makes two calls at most, both of them under the session's deadline. -/
theorem timed_check (opening : Octets) :
    ∀ event ∈ (check opening session).events, event.Timed session.config.timeout := by
  have off := session.timed_perform .powerOff
  have on := (session.perform .powerOff).session.timed_perform .powerOn
  rw [Session.config_perform] at on
  -- What is told between the calls is no transfer.
  have told (response : Response) : ∀ event ∈ session.powerOff.events ++
      [.notice (.checkedPowerOff response.report)], event.Timed session.config.timeout :=
    List.forall_mem_append.mpr ⟨off, List.forall_mem_singleton.mpr trivial⟩
  fun_cases check opening session with
  | case1 => exact off
  | case2 _ response | case3 _ response | case4 _ response =>
    exact List.forall_mem_append.mpr ⟨told response, on⟩

end Uses

namespace Invocation

variable {invocation : Invocation} {bus : Usb.Bus}

/-- A command line comes to a session: one starts on the reader it has, and its use decides. -/
def ReachesSession (invocation : Invocation) (bus : Usb.Bus) : Prop :=
  ∃ (reader : Usb.Reader) (session : Session Usb.Fault),
    (invocation.attempt bus).outcome = .ok reader ∧
      Session.start invocation.config reader.device.pipe = .ok session ∧
        ∀ use, (invocation.withSession bus use).outcome = (use session).outcome

/-- With a reader, a command line comes to a session exactly if its deadline is sound. -/
theorem reachesSession_iff {reader : Usb.Reader}
    (claimed : (invocation.attempt bus).outcome = .ok reader) :
    invocation.ReachesSession bus ↔ invocation.config.timeout.Sound := by
  -- The reader is given, so all depends on the start, and that on the deadline alone.
  constructor
  · rintro ⟨_, session, _, started, _⟩
    exact Session.start_isOk_iff.mp ⟨session, started⟩
  · intro sound
    obtain ⟨session, started⟩ : ∃ session,
        Session.start invocation.config reader.device.pipe = .ok session :=
      Session.start_isOk_iff.mpr sound
    exact ⟨reader, session, claimed, started, fun use =>
      (invocation.withSession_visited bus use).outcome_of_start claimed started⟩

/-- The deadline of a command line is sound by its count of milliseconds. -/
theorem sound_iff :
    invocation.config.timeout.Sound ↔
      1 ≤ invocation.timeoutMillis.toNat ∧ invocation.timeoutMillis.toNat ≤ 4294967295 := by
  -- The settings have the very deadline, in milliseconds, that the command line gives.
  rw [Duration.sound_iff_millis, config, Duration.millis_ofMillis]
  have size : UInt32.size = 4294967296 := rfl
  omega

/-- Every transfer of a visit is made under a sound deadline, and that of the command line. -/
theorem timed_withSession {use : Session Usb.Fault → Use}
    (timed : ∀ session, ∀ event ∈ (use session).events, event.Timed session.config.timeout)
    {event : Usb.Event} (member : event ∈ (invocation.withSession bus use).events)
    (transfer : event.isTransfer = true) :
    invocation.config.timeout.Sound ∧ event.Timed invocation.config.timeout := by
  have kept : event ∈ Usb.transfers (invocation.withSession bus use).events :=
    List.mem_filter.mpr ⟨member, transfer⟩
  rcases (invocation.withSession_visited bus use).transfers_eq with
    none | ⟨reader, session, _, started, own⟩
  · rw [none] at kept
    simp at kept
  · -- A transfer of the session has the deadline that the session was started with.
    rw [own] at kept
    have settings : session.config = invocation.config := (Session.of_start started).1
    have seen := Usb.Reader.timed_of_mem_observed (timed session) (List.mem_filter.mp kept).1
    rw [settings] at seen
    exact ⟨Session.start_isOk_iff.mp ⟨session, started⟩, seen⟩

/-- What is seen of a use of octets is seen with the octets that the text denotes. -/
theorem exists_octets_of_mem {text : String} {run : Octets → Run} {event : Usb.Event}
    (member : event ∈ (withOctets text run).events) : ∃ octets, event ∈ (run octets).events := by
  unfold withOctets at member
  split at member
  · simp at member
  · rename_i octets _
    exact ⟨octets, member⟩

/-- Every transfer of a command line is made under a sound deadline, and that of its own. -/
theorem timed_run {event : Usb.Event} (member : event ∈ (invocation.run bus).events)
    (transfer : event.isTransfer = true) :
    invocation.config.timeout.Sound ∧ event.Timed invocation.config.timeout := by
  -- A list of readers needs no session, and the other commands use theirs for one call or two.
  unfold run at member
  split at member
  · simp at member
  · exact timed_withSession (fun session => session.timed_perform .powerOn) member transfer
  · exact timed_withSession (fun session => session.timed_perform .powerOff) member transfer
  · exact timed_withSession (fun session => session.timed_perform .slotStatus) member transfer
  · obtain ⟨octets, seen⟩ := exists_octets_of_mem member
    exact timed_withSession (fun session => timed_transmit session octets) seen transfer
  · obtain ⟨octets, seen⟩ := exists_octets_of_mem member
    exact timed_withSession (fun session => timed_check session octets) seen transfer

/--
A command line with the deadline written in front of its command comes to a session exactly if
that deadline is one that the bus takes as it is, if it has a reader at all.
-/
theorem reachesSession_ofWords_iff {command : Command} {rest : List String}
    (read : ofWords (Named.name command :: rest) = .ok invocation) {reader : Usb.Reader}
    (claimed : (invocation.attempt bus).outcome = .ok reader) (millis : Nat) :
    (∃ timed, ofWords ("--timeout-ms" :: millis.repr :: Named.name command :: rest) = .ok timed ∧
        timed.ReachesSession bus)
      ↔ 1 ≤ millis ∧ millis ≤ 4294967295 := by
  -- What 64 bits cannot hold is no command line, and is too large in any case.
  rw [ofWords_timeout, read, Except.bind]
  have size : UInt64.size = 18446744073709551616 := rfl
  by_cases fits : millis < UInt64.size
  · -- The deadline decides nothing about the reader.
    have same : ({ invocation with timeoutMillis := UInt64.ofNat millis }.attempt bus).outcome
        = .ok reader := claimed
    have word : (UInt64.ofNat millis).toNat = millis := by
      rw [UInt64.toNat_ofNat', Nat.mod_eq_of_lt fits]
    simp only [if_pos fits, Except.ok.injEq, exists_eq_left', reachesSession_iff same, sound_iff,
      word]
  · simp only [if_neg fits, reduceCtorEq, false_and, exists_false, false_iff]
    omega

end Invocation

end Cli

/--
No transfer waits forever.

Settings are accepted exactly if their deadline is one millisecond at least and below 2 ^ 32 of
them, which is to say that the bus takes it as it is, and not for none. A session starts with such
settings only, and every transfer of it is made under their deadline. A command line that has a
reader comes to a session exactly for a deadline from 1 to 4294967295 milliseconds, and transfers
nothing under any other.
-/
theorem no_transfer_waits_forever {Fault : Type} [BulkFault Fault] (config : Config)
    (pipe : Pipe Fault) :
    (config.validate = .ok ()
        ↔ 10 ^ 6 ≤ config.timeout.inNanos ∧ config.timeout.inNanos < 2 ^ 32 * 10 ^ 6) ∧
      (config.validate = .ok ()
        ↔ Usb.deadline config.timeout ≠ 0 ∧
          Usb.deadline config.timeout = config.timeout.millis) ∧
      (config.validate ≠ .ok () →
        Session.start config pipe = .error (.config (.timeoutOutOfRange config.timeout))) ∧
      (config.validate = .ok () →
        ∃ session, Session.start config pipe = .ok session ∧ session.pipe = pipe ∧
          Usb.deadline config.timeout ≠ 0 ∧
            ∀ operations, ∀ step ∈ session.run operations, ∀ event ∈ step.events,
              event.Timed config.timeout) ∧
      ∀ (invocation : Cli.Invocation) (bus : Usb.Bus),
        (∀ event ∈ (invocation.run bus).events, event.isTransfer = true →
          1 ≤ invocation.timeoutMillis.toNat ∧ invocation.timeoutMillis.toNat ≤ 4294967295 ∧
            event.Timed (.ofMillis invocation.timeoutMillis)) ∧
          ∀ reader, (invocation.attempt bus).outcome = .ok reader →
            (invocation.ReachesSession bus
              ↔ 1 ≤ invocation.timeoutMillis.toNat ∧
                invocation.timeoutMillis.toNat ≤ 4294967295) ∧
            ∀ (command : Cli.Command) (rest : List String),
              Cli.Invocation.ofWords (Named.name command :: rest) = .ok invocation →
              ∀ millis : Nat,
                (∃ timed, Cli.Invocation.ofWords
                    ("--timeout-ms" :: millis.repr :: Named.name command :: rest) = .ok timed ∧
                    timed.ReachesSession bus)
                  ↔ 1 ≤ millis ∧ millis ≤ 4294967295 := by
  refine ⟨Config.validate_eq_ok_iff, ?_, ?_, ?_, ?_⟩
  · rw [Config.validate_eq_ok_iff, Duration.sound_iff_deadline]
  · intro refused
    exact Session.start_of_unsound pipe fun sound => refused (Config.validate_eq_ok_iff.mpr sound)
  · intro accepted
    have sound := Config.validate_eq_ok_iff.mp accepted
    obtain ⟨session, started⟩ : ∃ session, Session.start config pipe = .ok session :=
      Session.start_isOk_iff.mpr sound
    obtain ⟨settings, transport, _⟩ := Session.of_start started
    have timed := session.timed_run
    rw [settings] at timed
    exact ⟨session, started, transport, (Duration.sound_iff_deadline.mp sound).1, timed⟩
  · intro invocation bus
    refine ⟨?_, ?_⟩
    · intro event member transfer
      obtain ⟨sound, timed⟩ := Cli.Invocation.timed_run member transfer
      obtain ⟨positive, bounded⟩ := Cli.Invocation.sound_iff.mp sound
      exact ⟨positive, bounded, timed⟩
    · intro reader claimed
      refine ⟨?_, ?_⟩
      · rw [Cli.Invocation.reachesSession_iff claimed, Cli.Invocation.sound_iff]
      · intro command rest read millis
        exact Cli.Invocation.reachesSession_ofWords_iff read claimed millis

/-- A reader on its own, and deadlines at both ends of what is accepted. -/
theorem no_transfer_waits_forever_bounds :
    let least : Config := { Config.default with timeout := { seconds := 0, nanos := 1000000 } }
    let below : Config := { Config.default with timeout := { seconds := 0, nanos := 999999 } }
    let settings : Usb.AlternateSetting :=
      { number := 0, interfaceClass := 0x0B, subclass := 0
        endpoints := [⟨0x81, 2⟩, ⟨0x02, 2⟩] }
    let device : Usb.Device :=
      { bus := 1, address := 5, ids := .ok { vendor := 0x072F, product := 0x90CC }
        configuration := .ok [[settings]], opening := .ok (), kernelDriver := .ok false
        detaching := .ok (), claiming := .ok (), releasing := .ok ()
        pipe := { writes := [], replies := [.ok [0x81, 0, 0, 0, 0, 0, 0, 2, 0, 0]] } }
    let bus : Usb.Bus := { devices := .ok [device] }
    let invocation : Cli.Invocation :=
      { vendor := 0x072F, product := 0x90CC, timeoutMillis := 10000, slot := 0, json := false
        verbosity := 0, action := .status }
    let written : Usb.Event :=
      .write 0x02 [0x65, 0, 0, 0, 0, 0, 0, 0, 0, 0] (.ofMillis 10000) (.ok 10)
    let words (millis : Nat) := ["--timeout-ms", millis.repr, "status"]
    (∃ session, Session.start least device.pipe = .ok session ∧
      ∀ step ∈ session.run [.slotStatus], ∀ event ∈ step.events, event.Timed least.timeout) ∧
      Session.start below device.pipe = .error (.config (.timeoutOutOfRange below.timeout)) ∧
      (written ∈ (invocation.run bus).events ∧
        written.Timed (.ofMillis invocation.timeoutMillis)) ∧
      (∃ timed, Cli.Invocation.ofWords (words 4294967295) = .ok timed ∧
        timed.ReachesSession bus) ∧
      ¬ ∃ timed, Cli.Invocation.ofWords (words 4294967296) = .ok timed ∧
        timed.ReachesSession bus := by
  intro least below settings device bus invocation written words
  obtain ⟨accepted, _, _, created, visits⟩ := no_transfer_waits_forever least device.pipe
  obtain ⟨accepts, _, refused, _⟩ := no_transfer_waits_forever below device.pipe
  obtain ⟨session, started, _, _, held⟩ := created (accepted.mpr (by decide))
  obtain ⟨timed, reaches⟩ := visits invocation bus
  have found : (invocation.run bus).events[6]? = some written := by cbv
  have seen : written ∈ (invocation.run bus).events := List.mem_of_getElem? found
  have read : Cli.Invocation.ofWords ["status"] = .ok invocation := by cbv
  have bounds := (reaches ⟨device, ⟨0, 0x81, 0x02⟩⟩ rfl).2 .status [] read
  refine ⟨⟨session, started, held _⟩, ?_, ⟨seen, ?_⟩, ?_, ?_⟩
  · exact refused fun taken => absurd (accepts.mp taken) (by decide)
  · exact (timed written seen rfl).2.2
  · exact (bounds 4294967295).mpr (by decide)
  · intro reached
    exact absurd ((bounds 4294967296).mp reached) (by decide)

end Ccid

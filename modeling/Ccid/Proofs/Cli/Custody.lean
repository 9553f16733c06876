import Ccid.Proofs.Cli.Uses
import Ccid.Proofs.Cli.Visits
import Ccid.Proofs.Usb.Custody

/-!
Who holds an interface in the course of a command line.

A command line that has its reader holds it until it is put away. The settings may be refused, a
call may fail, and the card may be a wrong one, but none of these is a way around the release. Where
no claim succeeds, nothing is transferred and nothing is released.
-/

namespace Ccid

namespace Cli

/-- A use of a session transfers on the session's pipe and nowhere else. -/
def KeepsToPipe (use : Session Usb.Fault → Use) : Prop :=
  ∀ session : Session Usb.Fault, ∃ left, session.pipe.Carries (use session).events left

section Uses

variable {session : Session Usb.Fault} {use : Use}

/-- A use that shows what a single call shows keeps to the session's pipe. -/
theorem keepsToPipe_of_call {use : Session Usb.Fault → Use} (operation : Operation)
    (same : ∀ session : Session Usb.Fault,
      (use session).events = (session.perform operation).events) : KeepsToPipe use := by
  intro session
  rw [same]
  exact ⟨_, session.carries_perform operation⟩

/-- The sending of octets keeps to the session's pipe in both of its calls. -/
theorem Transmitted.carries {apdu : Octets} (transmitted : Transmitted apdu session use) :
    ∃ left, session.pipe.Carries use.events left := by
  have on := session.carries_perform .powerOn
  have sent := (session.perform .powerOn).session.carries_perform (.transmit apdu)
  cases transmitted with
  | unpowered => exact ⟨_, on⟩
  | sent => exact ⟨_, on.append sent⟩

/-- A check keeps to the session's pipe in both of its calls. -/
theorem Checked.carries {opening : Octets} (checked : Checked opening session use) :
    ∃ left, session.pipe.Carries use.events left := by
  have off := session.carries_perform .powerOff
  have on := (session.perform .powerOff).session.carries_perform .powerOn
  cases checked with
  | unanswered => exact ⟨_, off⟩
  | unpowered | mismatched | opened =>
    exact ⟨_, (off.append (.notice .nothing)).append on⟩

end Uses

namespace Invocation

variable {invocation : Invocation} {bus : Usb.Bus}

/-- With a reader that is had, a command line goes from the claim to the putting away. -/
theorem custody_of_ok {reader : Usb.Reader}
    (had : (invocation.attempt bus).outcome = .ok reader) {during : List (Event Usb.Fault)}
    {left : Pipe Usb.Fault} (carries : reader.device.pipe.Carries during left) :
    bus.Offers invocation.vendor invocation.product reader ∧
      Usb.Custody reader
        (invocation.arrival bus ++ reader.observed during ++ reader.putAway) := by
  obtain ⟨offers, claimed⟩ := Usb.Bus.offers_of_ok had
  obtain ⟨opened, events⟩ := claimed.of_ok had
  -- In front of the claim, the device is looked up and opened.
  let before := Usb.Event.notice (.opening invocation.vendor invocation.product)
    :: reader.device.preparation reader.endpoints
  have free : ∀ event ∈ before, event.Free :=
    List.forall_mem_cons.mpr ⟨⟨rfl, rfl⟩, fun _ => Usb.Device.free_of_mem_preparation⟩
  have handled : before.filter Usb.Event.isHandling
      = [.openDevice reader.device.bus reader.device.address (.ok ())] := by
    rw [← opened, ← Usb.Device.handling_preparation reader.device reader.endpoints]
    rfl
  have arrived : invocation.arrival bus
      = before ++ [.claim reader.endpoints.interface (.ok ())] := by
    rw [arrival, attempt, events]
    rfl
  refine ⟨offers, ?_⟩
  rw [arrived, List.append_assoc, List.append_assoc]
  exact .held free handled carries

/-- What is seen is that no interface is held, or that a reader is which the bus offers. -/
def HoldsOffered (invocation : Invocation) (bus : Usb.Bus) (events : List Usb.Event) : Prop :=
  Usb.Unheld events ∨
    ∃ reader, bus.Offers invocation.vendor invocation.product reader ∧ Usb.Custody reader events

/-- A visit to a reader holds one that the bus offers, or none. -/
theorem holdsOffered_of_visited {use : Session Usb.Fault → Use} (keeps : KeepsToPipe use)
    {run : Run} (visited : Visited invocation bus use run) :
    invocation.HoldsOffered bus run.events := by
  cases visited with
  | unclaimed failed =>
    have told : ∀ event ∈ [Usb.Event.notice (.opening invocation.vendor invocation.product)],
        event.Free := List.forall_mem_singleton.mpr ⟨rfl, rfl⟩
    exact .inl ((Usb.Bus.unheld_of_error failed).behind told)
  | @unsound reader _ had =>
    -- The reader is put away without a transfer.
    have custody := custody_of_ok had .nothing
    rw [Usb.Reader.observed, List.map_nil, List.append_nil] at custody
    exact .inr ⟨reader, custody⟩
  | @used reader session had started =>
    -- The session begins on the pipe of the reader's device.
    obtain ⟨left, carries⟩ := keeps session
    rw [(Session.of_start started).2.1] at carries
    exact .inr ⟨reader, custody_of_ok had carries⟩

/-- A command line holds a reader that the bus offers, or none. -/
theorem holdsOffered_run (invocation : Invocation) (bus : Usb.Bus) :
    invocation.HoldsOffered bus (invocation.run bus).events := by
  have idle : invocation.HoldsOffered bus [] := .inl .nothing
  have visit {use : Session Usb.Fault → Use} (keeps : KeepsToPipe use) :
      invocation.HoldsOffered bus (invocation.withSession bus use).events :=
    holdsOffered_of_visited keeps (invocation.withSession_visited bus use)
  have decoding (text : String) {use : Octets → Session Usb.Fault → Use}
      (keeps : ∀ octets, KeepsToPipe (use octets)) :
      invocation.HoldsOffered bus
        (withOctets text fun octets => invocation.withSession bus (use octets)).events := by
    -- A text that denotes no octets is the end of the command line.
    unfold withOctets
    split
    · exact idle
    · exact visit (keeps _)
  unfold run
  -- A list of readers holds none, and every other command visits its reader for one use.
  split
  · exact idle
  · exact visit (keepsToPipe_of_call .powerOn fun _ => rfl)
  · exact visit (keepsToPipe_of_call .powerOff fun _ => rfl)
  · exact visit (keepsToPipe_of_call .slotStatus fun _ => rfl)
  · exact decoding _ fun apdu session => (transmit_transmitted apdu session).carries
  · exact decoding _ fun opening session => (check_checked opening session).carries

end Invocation

/--
An interface that is claimed is released, once and whatever happens in between.

A command line makes one claim at most. If the claim succeeds, it is that of a reader which the bus
offers: its device alone is opened, before the claim, and closed at the end; the interface is
released once, after the claim; and every transfer takes place between the two, through the reader's
endpoints. Otherwise nothing is transferred or released. An attempt that yields no reader leaves no
interface claimed.
-/
theorem claimed_interface_released (invocation : Invocation) (bus : Usb.Bus) :
    let events := (invocation.run bus).events
    events.countP Usb.Event.isClaim ≤ 1 ∧
      (∀ interface, .claim interface (.ok ()) ∈ events →
        ∃ reader, bus.Offers invocation.vendor invocation.product reader ∧
          Usb.Custody reader events ∧
          events.filter Usb.Event.isClaim = [.claim interface (.ok ())] ∧
          events.filter Usb.Event.isRelease = [.release interface reader.device.releasing] ∧
          (∃ kept, events.filter Usb.Event.isHandling
            = [.openDevice reader.device.bus reader.device.address (.ok ()), .close kept]) ∧
          ∀ event ∈ events, event.GoesThrough reader.endpoints) ∧
      (∀ event ∈ events, event.isTransfer = true ∨ event.isRelease = true →
        ∃ interface, .claim interface (.ok ()) ∈ events) ∧
      ∀ vendor product error, (bus.claimReader vendor product).outcome = .error error →
        ∀ interface, .claim interface (.ok ()) ∉ (bus.claimReader vendor product).events := by
  intro events
  have abandoned : ∀ vendor product error,
      (bus.claimReader vendor product).outcome = .error error →
      ∀ interface, .claim interface (.ok ()) ∉ (bus.claimReader vendor product).events := by
    intro vendor product error failed interface claimed
    exact absurd ((Usb.Bus.unheld_of_error failed).idle _ claimed) (by simp [Usb.Event.isHolding])
  rcases invocation.holdsOffered_run bus with unheld | ⟨reader, offers, custody⟩
  · refine ⟨unheld.claims, fun interface claimed => ?_, fun event member held => ?_, abandoned⟩
    · exact absurd (unheld.idle _ claimed) (by simp [Usb.Event.isHolding])
    · -- Nothing that needs a held interface is seen.
      have idle := unheld.idle event member
      cases event <;> simp_all [Usb.Event.isHolding, Usb.Event.isTransfer, Usb.Event.isRelease]
  · -- The one claim is the one that the custody begins with.
    have claims := custody.claims_eq
    have made : .claim reader.endpoints.interface (.ok ()) ∈ events :=
      (List.mem_filter.mp (claims ▸ List.mem_singleton_self _)).1
    refine ⟨?_, fun interface claimed => ?_, fun _ _ _ => ⟨_, made⟩, abandoned⟩
    · rw [List.countP_eq_length_filter, claims]
      exact Nat.le_refl 1
    · -- The claim that is seen is the only one.
      have only : .claim interface (.ok ()) ∈ events.filter Usb.Event.isClaim :=
        List.mem_filter.mpr ⟨claimed, rfl⟩
      rw [claims, List.mem_singleton] at only
      cases only
      exact ⟨reader, offers, custody, claims, custody.releases_eq, custody.handling_eq,
        fun _ => custody.goesThrough⟩

/-- A reader that is taken from a driver, claimed under settings without a deadline, and released. -/
theorem claimed_interface_released_refusedSettings :
    let setting : Usb.AlternateSetting :=
      { number := 3, interfaceClass := 0x0B, subclass := 0, endpoints := [⟨0x81, 2⟩, ⟨0x02, 2⟩] }
    let device : Usb.Device :=
      { bus := 1, address := 4, ids := .ok { vendor := 0x072F, product := 0x90CC }
        configuration := .ok [[setting]], opening := .ok (), kernelDriver := .ok true
        detaching := .ok (), claiming := .ok (), releasing := .error .noDevice
        pipe := { writes := [], replies := [] } }
    let bus : Usb.Bus := { devices := .ok [device] }
    let invocation : Invocation :=
      { vendor := 0x072F, product := 0x90CC, timeoutMillis := 0, slot := 0, json := false
        verbosity := 0, action := .powerOn }
    let events := (invocation.run bus).events
    .claim 3 (.ok ()) ∈ events ∧ Usb.transfers events = [] ∧
      ∃ outcome, events.filter Usb.Event.isRelease = [.release 3 outcome] := by
  intro setting device bus invocation events
  have found : (invocation.run bus).events[5]? = some (.claim 3 (.ok ())) := by cbv
  have claimed : .claim 3 (.ok ()) ∈ events := List.mem_of_getElem? found
  have silent : Usb.transfers (invocation.run bus).events = [] := by cbv
  obtain ⟨_, released, _, _⟩ := claimed_interface_released invocation bus
  obtain ⟨reader, _, _, _, releases, _⟩ := released 3 claimed
  exact ⟨claimed, silent, reader.device.releasing, releases⟩

end Cli

end Ccid

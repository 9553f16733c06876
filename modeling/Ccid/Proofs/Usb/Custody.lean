import Ccid.Proofs.Session.Carrying
import Ccid.Proofs.Usb.Searching

/-!
What it is to hold the interface of a reader.

The device is opened and its interface is claimed, a session may transfer, and then the interface is
released and the device is closed. An attempt to have a reader either claims one that the bus
offers, as the last thing that is seen of it, or leaves no interface held.
-/

namespace Ccid

namespace Usb

namespace Event

/-- Whether a claim of an interface is made, successful or not. -/
def isClaim : Event → Bool
  | .claim .. => true
  | _ => false

/-- Whether an interface is released. -/
def isRelease : Event → Bool
  | .release .. => true
  | _ => false

/-- Whether a device is opened or closed, or is tried to be. -/
def isHandling : Event → Bool
  | .openDevice .. | .close .. => true
  | _ => false

/-- Whether an interface comes to be held, is used, or is released. -/
def isHolding : Event → Bool
  | .claim _ (.ok ()) | .write .. | .read .. | .release .. => true
  | _ => false

/-- A write goes through the outward endpoint of a pair, and a read through the inward one. -/
def GoesThrough (endpoints : BulkPair) : Event → Prop
  | .write endpoint .. => endpoint = endpoints.bulkOut
  | .read endpoint .. => endpoint = endpoints.bulkIn
  | _ => True

end Event

/-- An event is neither a claim nor one for which an interface has to be held. -/
def Event.Free (event : Event) : Prop :=
  event.isClaim = false ∧ event.isHolding = false

/-- No interface is held at any time, and at most one claim is refused. -/
structure Unheld (events : List Event) : Prop where
  idle : ∀ event ∈ events, event.isHolding = false
  claims : events.countP Event.isClaim ≤ 1

/--
A reader is held for a time.

Its device is opened and its interface is claimed, what its pipe has in store is transferred, and
then the interface is released and the device is closed.
-/
inductive Custody (reader : Reader) : List Event → Prop
  | held {before : List Event} {during : List (Ccid.Event Fault)} {left : Pipe Fault}
    {kept : Option UInt8} : (∀ event ∈ before, event.Free) →
    before.filter Event.isHandling
      = [.openDevice reader.device.bus reader.device.address (.ok ())] →
    reader.device.pipe.Carries during left →
    Custody reader
      (before ++ .claim reader.endpoints.interface (.ok ())
        :: (reader.observed during
          ++ [.release reader.endpoints.interface reader.device.releasing, .close kept]))

/-- A bus has a reader on it that has these identifiers and works through its pair of endpoints. -/
structure Bus.Offers (bus : Bus) (vendor product : UInt16) (reader : Reader) : Prop where
  present : ∃ devices, bus.devices = .ok devices ∧ reader.device ∈ devices
  works : reader.device.Works vendor product reader.endpoints

/-- What no session does is not among what is seen of a session on a reader. -/
theorem Reader.filter_observed {reader : Reader} {kind : Event → Bool}
    (never : ∀ event, kind (.ofSession reader.endpoints event) = false)
    (events : List (Ccid.Event Fault)) : (reader.observed events).filter kind = [] := by
  simp [Reader.observed, List.filter_map, Function.comp_def, never]

/-- Events that are free are no claims and no releases. -/
theorem filter_of_free {events : List Event} (free : ∀ event ∈ events, event.Free) :
    events.filter Event.isClaim = [] ∧ events.filter Event.isRelease = [] := by
  constructor
  · exact List.filter_eq_nil_iff.mpr fun event member => by simp [(free event member).1]
  · refine List.filter_eq_nil_iff.mpr fun event member => ?_
    -- A release would be one without a held interface.
    have idle := (free event member).2
    cases event <;> simp_all [Event.isHolding, Event.isRelease]

/-- Where nothing is seen, nothing is held. -/
theorem Unheld.nothing : Unheld [] :=
  ⟨fun _ member => absurd member List.not_mem_nil, by simp⟩

/-- Free events in front of others do not make an interface held. -/
theorem Unheld.behind {before events : List Event} (unheld : Unheld events)
    (free : ∀ event ∈ before, event.Free) : Unheld (before ++ events) := by
  refine ⟨List.forall_mem_append.mpr ⟨fun event member => (free event member).2, unheld.idle⟩, ?_⟩
  rw [List.countP_append, List.countP_eq_length_filter, (filter_of_free free).1]
  simpa using unheld.claims

namespace Custody

variable {reader : Reader} {events : List Event}

/-- While a reader is held in the course of events, its interface is claimed once and for all. -/
theorem claims_eq (custody : Custody reader events) :
    events.filter Event.isClaim = [.claim reader.endpoints.interface (.ok ())] := by
  cases custody with
  | @held before during _ _ free _ _ =>
    have none : (reader.observed during).filter Event.isClaim = [] :=
      Reader.filter_observed (fun event => by cases event <;> rfl) during
    simp [List.filter_cons, (filter_of_free free).1, none, Event.isClaim]

/-- A reader that is held is released once. -/
theorem releases_eq (custody : Custody reader events) :
    events.filter Event.isRelease
      = [.release reader.endpoints.interface reader.device.releasing] := by
  cases custody with
  | @held before during _ _ free _ _ =>
    have none : (reader.observed during).filter Event.isRelease = [] :=
      Reader.filter_observed (fun event => by cases event <;> rfl) during
    simp [List.filter_cons, (filter_of_free free).2, none, Event.isRelease]

/-- No device but that of the reader is opened, and it is closed once. -/
theorem handling_eq (custody : Custody reader events) :
    ∃ kept, events.filter Event.isHandling
      = [.openDevice reader.device.bus reader.device.address (.ok ()), .close kept] := by
  cases custody with
  | @held before during _ kept _ opened _ =>
    have none : (reader.observed during).filter Event.isHandling = [] :=
      Reader.filter_observed (fun event => by cases event <;> rfl) during
    exact ⟨kept, by simp [List.filter_cons, opened, none, Event.isHandling]⟩

/-- Transfers go through the endpoints of the reader that is held. -/
theorem goesThrough (custody : Custody reader events) {event : Event} (member : event ∈ events) :
    event.GoesThrough reader.endpoints := by
  cases custody with
  | held free _ _ =>
    simp only [List.mem_append, List.mem_cons, List.not_mem_nil, or_false] at member
    rcases member with early | rfl | seen | rfl | rfl
    · -- A transfer before the claim would be one without a held interface.
      have idle := (free event early).2
      cases event <;> simp_all [Event.isHolding, Event.GoesThrough]
    · trivial
    · obtain ⟨happened, _, rfl⟩ := List.mem_map.mp seen
      cases happened <;> first | rfl | trivial
    · trivial
    · trivial

end Custody

section Claiming

variable {device : Device} {endpoints : BulkPair} {attempt : Attempt}

/-- Until the claim of an interface, nothing is claimed or held. -/
theorem Device.free_of_mem_preparation {event : Event}
    (member : event ∈ device.preparation endpoints) : event.Free := by
  -- The device is opened, and a driver of the system may have to let go of the interface.
  simp only [Device.preparation, Device.approach, Device.eviction, List.mem_append, List.mem_cons,
    List.not_mem_nil, or_false] at member
  rcases member with (rfl | rfl) | rfl | evicted
  · exact ⟨rfl, rfl⟩
  · exact ⟨rfl, rfl⟩
  · exact ⟨rfl, rfl⟩
  · split at evicted
    · obtain rfl := List.mem_singleton.mp evicted
      exact ⟨rfl, rfl⟩
    · simp at evicted

/-- Until the claim of an interface, its device is opened and nothing else is. -/
theorem Device.handling_preparation (device : Device) (endpoints : BulkPair) :
    (device.preparation endpoints).filter Event.isHandling
      = [.openDevice device.bus device.address device.opening] := by
  unfold Device.preparation Device.approach Device.eviction
  split <;> rfl

/-- A claim that succeeds is the last that is seen of it. -/
theorem Claimed.of_ok (claimed : Claimed device endpoints attempt) {reader : Reader}
    (had : attempt.outcome = .ok reader) :
    device.opening = .ok () ∧
      attempt.events
        = device.preparation endpoints ++ [.claim endpoints.interface (.ok ())] := by
  cases claimed with
  | unopened | undetached | refused => simp at had
  | had opened => exact ⟨opened, rfl⟩

/-- A claim that fails leaves no interface held. -/
theorem Claimed.unheld_of_error (claimed : Claimed device endpoints attempt) {error : ReaderError}
    (failed : attempt.outcome = .error error) : Unheld attempt.events := by
  have prepared : ∀ event ∈ device.preparation endpoints, event.Free :=
    fun _ => Device.free_of_mem_preparation
  cases claimed with
  | unopened =>
    simpa using Unheld.nothing.behind fun event member =>
      prepared event (List.mem_append_left _ member)
  | undetached =>
    have closed : Unheld [.close none] := ⟨by simp [Event.isHolding], by simp [Event.isClaim]⟩
    exact closed.behind prepared
  | @refused fault =>
    have refused : Unheld [.claim endpoints.interface (.error fault), .close none] :=
      ⟨by simp [Event.isHolding], by simp [Event.isClaim, List.countP_cons]⟩
    exact refused.behind prepared
  | had => simp at failed

end Claiming

section Attempting

variable {bus : Bus} {vendor product : UInt16}

/-- An attempt that fails leaves no interface held. -/
theorem Bus.unheld_of_error {error : ReaderError}
    (failed : (bus.claimReader vendor product).outcome = .error error) :
    Unheld (bus.claimReader vendor product).events := by
  cases visible : bus.devices with
  | error fault =>
    rw [Bus.claimReader, visible]
    exact .nothing
  | ok devices =>
    have sought : Sought vendor product devices _ := Bus.claimReader_sought visible
    -- Without a claim there is nothing to see, and a claim that fails leaves nothing held.
    generalize bus.claimReader vendor product = attempt at failed sought
    cases sought with
    | missed | stopped => exact .nothing
    | tried _ _ claimed => exact claimed.unheld_of_error failed

/-- An attempt that succeeds claims a reader that the bus offers. -/
theorem Bus.offers_of_ok {reader : Reader}
    (had : (bus.claimReader vendor product).outcome = .ok reader) :
    bus.Offers vendor product reader ∧
      Claimed reader.device reader.endpoints (bus.claimReader vendor product) := by
  cases visible : bus.devices with
  | error fault => simp [Bus.claimReader, visible] at had
  | ok devices =>
    obtain ⟨claimed, earlier, first⟩ := (Bus.claimReader_sought visible).firstListed_of_ok had
    have present := List.mem_of_find?_eq_some first.find?_eq
    exact ⟨⟨⟨devices, visible, present⟩, first.works⟩, claimed⟩

end Attempting

end Usb

end Ccid

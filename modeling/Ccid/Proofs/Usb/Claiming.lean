import Ccid.Usb.Reader

/-!
The ways in which the claim of a device's interface may go.

The device has to be opened, a driver of the system that holds the interface has to let go of it,
and then the interface is claimed. Each of the three may fail, and a device that was opened in vain
is closed again.
-/

namespace Ccid.Usb

/-- What is seen of a device until it is open, or not. -/
def Device.approach (device : Device) (endpoints : BulkPair) : List Event :=
  [.notice (.claiming endpoints.interface endpoints.bulkIn endpoints.bulkOut),
    .openDevice device.bus device.address device.opening]

/-- Whether a driver of the system is known to hold the device's interface. -/
def Device.isHeld (device : Device) : Bool :=
  device.kernelDriver.toOption.getD false

/-- What is seen of an interface until no driver of the system holds it, or one keeps it. -/
def Device.eviction (device : Device) (interface : UInt8) : List Event :=
  .queryDriver interface device.kernelDriver
    :: if device.isHeld then [.detachDriver interface device.detaching] else []

/-- No driver of the system holds the device's interface, or the one that does lets go of it. -/
def Device.Freed (device : Device) : Prop :=
  device.isHeld = true → device.detaching = .ok ()

/-- What is seen of a device that was opened until its interface is claimed, or not. -/
def Device.preparation (device : Device) (endpoints : BulkPair) : List Event :=
  device.approach endpoints ++ device.eviction endpoints.interface

/-- The ways in which the claim of a device's interface may go. -/
inductive Claimed (device : Device) (endpoints : BulkPair) : Attempt → Prop
  /-- The device cannot be opened. -/
  | unopened {fault : Fault} : device.opening = .error fault →
    Claimed device endpoints
      { outcome := .error (.usb fault), events := device.approach endpoints }
  /-- A driver of the system keeps the interface. -/
  | undetached {fault : Fault} : device.opening = .ok () → device.isHeld = true →
    device.detaching = .error fault →
    Claimed device endpoints
      { outcome := .error (.usb fault)
        events := device.preparation endpoints ++ [.close none] }
  /-- The claim itself is refused. -/
  | refused {fault : Fault} : device.opening = .ok () → device.Freed →
    device.claiming = .error fault →
    Claimed device endpoints
      { outcome := .error (claimError endpoints.interface fault)
        events :=
          device.preparation endpoints
            ++ [.claim endpoints.interface (.error fault), .close none] }
  /-- The interface is claimed. -/
  | had : device.opening = .ok () → device.Freed → device.claiming = .ok () →
    Claimed device endpoints
      { outcome := .ok { device, endpoints }
        events := device.preparation endpoints ++ [.claim endpoints.interface (.ok ())] }

variable {device : Device} (endpoints : BulkPair)

/-- With no driver of the system in the way, the interface of an open device is claimed at once. -/
theorem detachAndClaim_of_freed (freed : device.Freed) :
    detachAndClaim device endpoints =
      { outcome := (claimOpened device endpoints).outcome
        events :=
          device.eviction endpoints.interface ++ (claimOpened device endpoints).events } := by
  -- A driver that holds the interface lets go of it.
  cases held : device.kernelDriver.toOption.getD false with
  | true =>
    have released := freed held
    simp [detachAndClaim, Device.eviction, Device.isHeld, held, released]
  | false => simp [detachAndClaim, Device.eviction, Device.isHeld, held]

/-- A driver of the system that keeps the interface is the end of the claim. -/
theorem detachAndClaim_of_kept (held : device.isHeld = true) {fault : Fault}
    (kept : device.detaching = .error fault) :
    detachAndClaim device endpoints =
      { outcome := .error (.usb fault)
        events := device.eviction endpoints.interface ++ [.close none] } := by
  rw [Device.isHeld] at held
  simp [detachAndClaim, Device.eviction, Device.isHeld, held, kept]

/-- A device that opens is claimed as an open device. -/
theorem Device.claim_of_opened (opened : device.opening = .ok ()) :
    device.claim endpoints =
      { outcome := (detachAndClaim device endpoints).outcome
        events := device.approach endpoints ++ (detachAndClaim device endpoints).events } := by
  simp [Device.claim, Device.approach, opened]

/-- Every claim goes one of these ways. -/
theorem Device.claim_claimed (device : Device) (endpoints : BulkPair) :
    Claimed device endpoints (device.claim endpoints) := by
  cases opening : device.opening with
  | error fault =>
    -- Of a device that does not open nothing more is seen.
    have attempt : device.claim endpoints =
        { outcome := .error (.usb fault), events := device.approach endpoints } := by
      simp [Device.claim, Device.approach, opening]
    rw [attempt]
    exact .unopened opening
  | ok _ =>
    rw [Device.claim_of_opened endpoints opening]
    by_cases freed : device.Freed
    · -- The claim comes last and decides.
      rw [detachAndClaim_of_freed endpoints freed, ← List.append_assoc]
      cases claiming : device.claiming with
      | error fault =>
        have refused : claimOpened device endpoints =
            { outcome := .error (claimError endpoints.interface fault)
              events := [.claim endpoints.interface (.error fault), .close none] } := by
          simp [claimOpened, claiming]
        rw [refused]
        exact .refused opening freed claiming
      | ok _ =>
        have had : claimOpened device endpoints =
            { outcome := .ok { device, endpoints }
              events := [.claim endpoints.interface (.ok ())] } := by
          simp [claimOpened, claiming]
        rw [had]
        exact .had opening freed claiming
    · -- A driver holds the interface and does not let go of it, so the claim is not made.
      obtain ⟨held, kept⟩ := Classical.not_imp.mp freed
      cases detaching : device.detaching with
      | error fault =>
        rw [detachAndClaim_of_kept endpoints held detaching, ← List.append_assoc]
        exact .undetached opening held detaching
      | ok _ => exact absurd detaching kept

end Ccid.Usb

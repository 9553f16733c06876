import Ccid.Json.Basic
import Ccid.Usb.Bus
import Ccid.Usb.Event

/-! The card readers on a bus: listing them, claiming one, and putting it away. -/

namespace Ccid.Usb

/-- Why no reader can be had. -/
inductive ReaderError where
  | usb (fault : Fault)
  /-- No device with these identifiers has a card reader's interface. -/
  | notFound (vendor product : UInt16)
  /-- Another process holds the interface. -/
  | interfaceBusy (interface : UInt8) (fault : Fault)
  deriving DecidableEq, Repr

/-- What went wrong, in words. -/
def ReaderError.message : ReaderError → String
  | .usb fault => "Error occurred while communicating with libusb: " ++ fault.message
  | .notFound vendor product =>
    "No device " ++ Hex.word .lower vendor ++ ":" ++ Hex.word .lower product
      ++ " with a CCID interface found"
  | .interfaceBusy interface fault =>
    "CCID interface " ++ interface.toNat.repr
      ++ " is held by another process (is pcscd running? stop it and retry): " ++ fault.message

/-- A device that has a card reader's interface. -/
structure ReaderInfo where
  vendor : UInt16
  product : UInt16
  bus : UInt8
  address : UInt8
  interface : UInt8
  deriving DecidableEq, Repr

namespace ReaderInfo

/-- A listed reader as an object. -/
def json (info : ReaderInfo) : Json :=
  .obj
    [("vendor_id", .ofNat info.vendor.toNat),
      ("product_id", .ofNat info.product.toNat),
      ("bus", .ofNat info.bus.toNat),
      ("address", .ofNat info.address.toNat),
      ("interface", .ofNat info.interface.toNat)]

/-- The listed reader that a record with all fields denotes. -/
def ofJson? (value : Json) : Option ReaderInfo := do
  let members ← value.record? ["vendor_id", "product_id", "bus", "address", "interface"]
  let vendor ← Json.field? members "vendor_id" Json.uint16?
  let product ← Json.field? members "product_id" Json.uint16?
  let bus ← Json.field? members "bus" Json.uint8?
  let address ← Json.field? members "address" Json.uint8?
  let interface ← Json.field? members "interface" Json.uint8?
  return { vendor, product, bus, address, interface }

end ReaderInfo

/-- The entry for a device, if it can be inspected and has a card reader's interface. -/
def Device.info? (device : Device) : Option ReaderInfo :=
  match device.ids, device.configuration with
  | .ok ids, .ok configuration =>
    configuration.bulkPair?.map fun endpoints =>
      { vendor := ids.vendor
        product := ids.product
        bus := device.bus
        address := device.address
        interface := endpoints.interface }
  | _, _ => none

/-- Every reader on the bus; devices that cannot be inspected are left out. -/
def Bus.readers (bus : Bus) : Except ReaderError (List ReaderInfo) :=
  match bus.devices with
  | .error fault => .error (.usb fault)
  | .ok devices => .ok (devices.filterMap Device.info?)

/-- A device whose card reader's interface is claimed. -/
structure Reader where
  device : Device
  endpoints : BulkPair

/-- An attempt to have a reader: its outcome, and what was seen. -/
structure Attempt where
  outcome : Except ReaderError Reader
  events : List Event

/-- A refused claim, which points at another process where that is the likely cause. -/
def claimError (interface : UInt8) (fault : Fault) : ReaderError :=
  if fault = .busy ∨ fault = .access then .interfaceBusy interface fault else .usb fault

/-- Claims the interface of an open device, and closes the device if that fails. -/
def claimOpened (device : Device) (endpoints : BulkPair) : Attempt :=
  let interface := endpoints.interface
  let claimed := Event.claim interface device.claiming
  match device.claiming with
  | .error fault =>
    { outcome := .error (claimError interface fault), events := [claimed, .close none] }
  | .ok () => { outcome := .ok { device, endpoints }, events := [claimed] }

/-- Takes the interface of an open device from the system's driver, if need be, and claims it. -/
def detachAndClaim (device : Device) (endpoints : BulkPair) : Attempt :=
  let interface := endpoints.interface
  let queried := Event.queryDriver interface device.kernelDriver
  -- A driver that cannot be asked about counts as absent.
  if device.kernelDriver.toOption.getD false then
    let detached := Event.detachDriver interface device.detaching
    match device.detaching with
    | .error fault => { outcome := .error (.usb fault), events := [queried, detached, .close none] }
    | .ok () =>
      let attempt := claimOpened device endpoints
      { attempt with events := queried :: detached :: attempt.events }
  else
    let attempt := claimOpened device endpoints
    { attempt with events := queried :: attempt.events }

/-- Opens a device and claims its card reader's interface. -/
def Device.claim (device : Device) (endpoints : BulkPair) : Attempt :=
  let told := Event.notice
    (.claiming endpoints.interface endpoints.bulkIn endpoints.bulkOut)
  let opened := Event.openDevice device.bus device.address device.opening
  match device.opening with
  | .error fault => { outcome := .error (.usb fault), events := [told, opened] }
  | .ok () =>
    let attempt := detachAndClaim device endpoints
    { attempt with events := told :: opened :: attempt.events }

/-- Whether a device's descriptor can be read and has the given identifiers. -/
def Device.hasIds (device : Device) (vendor product : UInt16) : Bool :=
  match device.ids with
  | .ok ids => ids.vendor == vendor && ids.product == product
  | .error _ => false

/--
Claims the first card reader's interface on devices with the given identifiers.

A device whose configuration cannot be read ends the search.
-/
def claimFirst (vendor product : UInt16) : List Device → Attempt
  | [] => { outcome := .error (.notFound vendor product), events := [] }
  | device :: rest =>
    if device.hasIds vendor product then
      match device.configuration with
      | .error fault => { outcome := .error (.usb fault), events := [] }
      | .ok configuration =>
        match configuration.bulkPair? with
        | some endpoints => device.claim endpoints
        | none => claimFirst vendor product rest
    else claimFirst vendor product rest

/-- Claims the first reader with the given identifiers. -/
def Bus.claimReader (bus : Bus) (vendor product : UInt16) : Attempt :=
  match bus.devices with
  | .error fault => { outcome := .error (.usb fault), events := [] }
  | .ok devices => claimFirst vendor product devices

/-- What is seen of a session on a reader. -/
def Reader.observed (reader : Reader) (events : List (Ccid.Event Fault)) : List Event :=
  events.map (Event.ofSession reader.endpoints)

/-- What is seen when a reader is put away: its interface is released, and the device is closed. -/
def Reader.putAway (reader : Reader) : List Event :=
  let interface := reader.endpoints.interface
  let held := match reader.device.releasing with
    | .ok () => none
    | .error _ => some interface
  [.release interface reader.device.releasing, .close held]

end Ccid.Usb

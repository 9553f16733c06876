import Ccid.Octets

/-! The interfaces of a USB device, and the bulk endpoints of the first that is a card reader's. -/

namespace Ccid.Usb

/-- The interface class of card readers. -/
def cardReaderClass : UInt8 := 0x0B

/-- The only subclass that card readers have. -/
def cardReaderSubclass : UInt8 := 0x00

/-- The way that an endpoint carries data. -/
inductive Direction where
  /-- From the device to the host. -/
  | inward
  /-- From the host to the device. -/
  | outward
  deriving DecidableEq, Repr

/-- An endpoint by its address and attributes. -/
structure Endpoint where
  address : UInt8
  attributes : UInt8
  deriving DecidableEq, Repr

/-- The direction of an endpoint, in the highest bit of its address. -/
def Endpoint.direction (endpoint : Endpoint) : Direction :=
  if endpoint.address.toNat < 128 then .outward else .inward

/-- Whether an endpoint carries bulk transfers, as the two lowest bits of its attributes tell. -/
def Endpoint.isBulk (endpoint : Endpoint) : Bool :=
  endpoint.attributes.toNat % 4 == 2

/-- One setting that an interface can be put to. -/
structure AlternateSetting where
  /-- The number of the interface. -/
  number : UInt8
  interfaceClass : UInt8
  subclass : UInt8
  endpoints : List Endpoint
  deriving DecidableEq, Repr

/-- The interfaces of a device, each with its settings. -/
abbrev Configuration := List (List AlternateSetting)

/-- An interface and the endpoints that its bulk transfers go through. -/
structure BulkPair where
  interface : UInt8
  bulkIn : UInt8
  bulkOut : UInt8
  deriving DecidableEq, Repr

namespace AlternateSetting

/-- Whether a setting is a card reader's. -/
def isCardReader (setting : AlternateSetting) : Bool :=
  setting.interfaceClass == cardReaderClass && setting.subclass == cardReaderSubclass

/-- The address of a setting's last bulk endpoint in a direction. -/
def lastBulk? (setting : AlternateSetting) (direction : Direction) : Option UInt8 :=
  let fitting := setting.endpoints.filter fun endpoint =>
    endpoint.isBulk && endpoint.direction == direction
  fitting.getLast?.map Endpoint.address

/-- The bulk endpoints of a setting that is a card reader's and has them both. -/
def bulkPair? (setting : AlternateSetting) : Option BulkPair :=
  if setting.isCardReader then
    match setting.lastBulk? .inward, setting.lastBulk? .outward with
    | some bulkIn, some bulkOut => some { interface := setting.number, bulkIn, bulkOut }
    | _, _ => none
  else none

end AlternateSetting

/-- The bulk endpoints of the first setting, interface by interface, that has them. -/
def Configuration.bulkPair? (configuration : Configuration) : Option BulkPair :=
  configuration.flatten.findSome? AlternateSetting.bulkPair?

end Ccid.Usb

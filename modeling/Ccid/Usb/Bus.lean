import Ccid.Usb.Configuration
import Ccid.Usb.Fault

/-! A USB bus: its devices, and how every call on it ends. -/

namespace Ccid.Usb

/-- The identifiers of a device's maker and model. -/
structure DeviceIds where
  vendor : UInt16
  product : UInt16
  deriving DecidableEq, Repr

/-- A device on the bus, with the outcome of every call on it. -/
structure Device where
  /-- The number of the bus segment. -/
  bus : UInt8
  address : UInt8
  /-- What reading its descriptor yields. -/
  ids : Except Fault DeviceIds
  /-- What reading its active configuration yields. -/
  configuration : Except Fault Configuration
  opening : Except Fault Unit
  /-- Whether a driver of the system holds the interface. -/
  kernelDriver : Except Fault Bool
  detaching : Except Fault Unit
  claiming : Except Fault Unit
  releasing : Except Fault Unit
  /-- What the transfers yield once the device is open. -/
  pipe : Pipe Fault

/-- A bus: its devices in order, or the fault that keeps them out of sight. -/
structure Bus where
  devices : Except Fault (List Device)

end Ccid.Usb

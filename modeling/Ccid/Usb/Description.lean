import Ccid.Bulk.Description
import Ccid.Usb.Bus

/-! Buses described as JSON, where a missing member means zero, nothing, or success. -/

namespace Ccid.Usb

/-- The fault that a text names. -/
def Fault.ofJson? : Json → Option Fault
  | .str text => Named.ofName? text
  | _ => none

/-- The outcome of a call whose fault, if there is one, is the given member. -/
def outcome? {Value : Type} (members : List (String × Json)) (name : String) (value : Value) :
    Option (Except Fault Value) := do
  let fault ← Json.optional? members name (fun json => (Fault.ofJson? json).map some) none
  match fault with
  | some fault => return .error fault
  | none => return .ok value

/-- The endpoint that an array of address and attributes denotes. -/
def Endpoint.ofJson? : Json → Option Endpoint
  | .arr [address, attributes] => do
    return { address := ← address.uint8?, attributes := ← attributes.uint8? }
  | _ => none

/-- The setting that an object denotes. -/
def AlternateSetting.ofJson? : Json → Option AlternateSetting
  | .obj members => do
    let number ← Json.optional? members "number" Json.uint8? 0
    let interfaceClass ← Json.optional? members "class" Json.uint8? 0
    let subclass ← Json.optional? members "subclass" Json.uint8? 0
    let endpoints ← Json.optional? members "endpoints" Json.items? []
    let endpoints ← endpoints.mapM Endpoint.ofJson?
    return { number, interfaceClass, subclass, endpoints }
  | _ => none

/-- The settings of an interface that an array denotes. -/
def settingsOfJson? (value : Json) : Option (List AlternateSetting) := do
  let settings ← value.items?
  settings.mapM AlternateSetting.ofJson?

/-- The device that an object denotes. -/
def Device.ofJson? : Json → Option Device
  | .obj members => do
    let vendor ← Json.optional? members "vid" Json.uint16? 0
    let product ← Json.optional? members "pid" Json.uint16? 0
    let bus ← Json.optional? members "bus" Json.uint8? 0
    let address ← Json.optional? members "address" Json.uint8? 0
    let ids ← outcome? members "descriptor_error" ({ vendor, product } : DeviceIds)
    let interfaces ← Json.optional? members "interfaces" Json.items? []
    let interfaces ← interfaces.mapM settingsOfJson?
    let configuration ← outcome? members "config_error" (interfaces : Configuration)
    let opening ← outcome? members "open_error" ()
    let driver ← Json.optional? members "kernel_driver" Json.bool? false
    let kernelDriver ← outcome? members "kernel_driver_error" driver
    let detaching ← outcome? members "detach_error" ()
    let claiming ← outcome? members "claim_error" ()
    let releasing ← outcome? members "release_error" ()
    let pipe ← Pipe.ofMembers? Fault.ofJson? members
    return { bus, address, ids, configuration, opening, kernelDriver, detaching, claiming,
             releasing, pipe }
  | _ => none

/-- The bus that an object denotes; a bus that cannot be reached shows no devices either. -/
def Bus.ofJson? : Json → Option Bus
  | .obj members => do
    let devices ← Json.optional? members "devices" Json.items? []
    let devices ← devices.mapM Device.ofJson?
    let reached ← outcome? members "context_error" ()
    let listed ← outcome? members "devices_error" devices
    return { devices := reached.bind fun () => listed }
  | _ => none

end Ccid.Usb

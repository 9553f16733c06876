import Ccid.Bulk
import Ccid.Hex
import Ccid.Json.Basic

/-! Pipes described as JSON: the transfers that are read, and the outcomes of writes. -/

namespace Ccid

/-- The fault that a text or an object with a text denotes. -/
def TransportError.ofJson? : Json → Option TransportError
  | .str "Timeout" => some .timeout
  | .str "Disconnected" => some .disconnected
  | .obj [("Io", .str text)] => some (.io text)
  | _ => none

/-- The octets that a text of hexadecimal digits denotes. -/
def Json.hex? (value : Json) : Option Octets := do
  let text ← value.str?
  (Hex.decode text).toOption

/-- The outcome of a read that a description gives. -/
def replyOfJson? {Fault : Type} (fault? : Json → Option Fault) :
    Json → Option (Except Fault Octets)
  | .obj [("frame", frame)] => frame.hex?.map .ok
  | .obj [("error", fault)] => (fault? fault).map .error
  | _ => none

/-- The outcome of a write that a description gives. -/
def WriteOutcome.ofJson? {Fault : Type} (fault? : Json → Option Fault) :
    Json → Option (WriteOutcome Fault)
  | .str "all" => some .all
  | .obj [("accept", count)] => (count.natBelow? UInt64.size).map .accepted
  | .obj [("error", fault)] => (fault? fault).map .failed
  | _ => none

/-- The pipe that the members `writes` and `replies` of a description give. -/
def Pipe.ofMembers? {Fault : Type} (fault? : Json → Option Fault)
    (members : List (String × Json)) : Option (Pipe Fault) := do
  let writes ← Json.optional? members "writes" Json.items? []
  let writes ← writes.mapM (WriteOutcome.ofJson? fault?)
  let replies ← Json.optional? members "replies" Json.items? []
  let replies ← replies.mapM (replyOfJson? fault?)
  return { writes, replies }

end Ccid

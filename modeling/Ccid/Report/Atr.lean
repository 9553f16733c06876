import Ccid.Atr
import Ccid.Hex

/-! The report of an Answer-To-Reset. -/

namespace Ccid.Atr

/-- The line on the card's convention, where it announces one. -/
def conventionLine (atr : Atr) : String :=
  match atr.convention with
  | some convention => "  convention: " ++ Named.name convention ++ "\n"
  | none => ""

/-- The line on the card's protocols, where its interface octets are complete. -/
def protocolsLine (atr : Atr) : String :=
  match atr.protocols with
  | some protocols =>
    let names := protocols.map fun protocol => "T=" ++ protocol.toNat.repr
    "  protocols: " ++ String.intercalate ", " names ++ "\n"
  | none => ""

/-- The line on the historical octets. -/
def historicalLine (atr : Atr) : String :=
  "  historical bytes: " ++
    match atr.historicalOctets with
    | some octets => Hex.upper octets
    | none => "(truncated ATR)"

/-- A report of several lines, the first of which holds all octets. -/
def report (atr : Atr) : String :=
  "ATR = " ++ Hex.upper atr.octets ++ "\n" ++ atr.conventionLine ++ atr.protocolsLine
    ++ atr.historicalLine

/-- A report as an object. -/
def reportJson (atr : Atr) : Json :=
  .obj
    [("atr", .str (Hex.upper atr.octets)),
      ("convention", .ofOption Json.ofNamed atr.convention),
      ("protocols", .ofOption Json.ofOctets atr.protocols),
      ("historical_bytes", .ofOption (fun octets => .str (Hex.upper octets)) atr.historicalOctets)]

end Ccid.Atr

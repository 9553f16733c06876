import Ccid.Json.Basic

/-!
The Answer-To-Reset that a card returns when it is powered on.

Its octets are `TS T0 {TAi TBi TCi TDi} historical rest`. `T0` and every `TDi` announce in their
high half which interface octets follow. The low half of `T0` counts the historical octets, and
the low half of `TDi` names a protocol.
-/

namespace Ccid

/-- The coding of the bits on the card's line. -/
inductive Convention where
  | direct
  | inverse
  deriving DecidableEq, Repr

instance : Named Convention where
  all := [.direct, .inverse]
  name
    | .direct => "Direct"
    | .inverse => "Inverse"
  find_name kind := by cases kind <;> decide

/-- An Answer-To-Reset as received. -/
structure Atr where
  octets : Octets
  deriving DecidableEq, Repr

namespace Atr

/-- What a walk over the interface octets finds. -/
structure Layout where
  /-- The protocols announced, each once, in the order of their first announcement. -/
  protocols : List UInt8
  /-- Where the historical octets begin, which may lie beyond the end. -/
  historicalStart : Nat
  /-- How many historical octets there are to be. -/
  historicalLength : Nat
  deriving DecidableEq, Repr

/-- The half of an octet that announces interface octets. -/
def announced (octet : UInt8) : Nat :=
  octet.toNat / 16

/-- The half of an octet that counts historical octets or names a protocol. -/
def lowHalf (octet : UInt8) : UInt8 :=
  UInt8.ofNat (octet.toNat % 16)

/-- How many of TA, TB and TC an announcement holds. -/
def skipped (announcement : Nat) : Nat :=
  announcement % 2 + announcement / 2 % 2 + announcement / 4 % 2

/-- Whether an announcement holds a TD, after which another announcement follows. -/
def continues (announcement : Nat) : Bool :=
  announcement / 8 % 2 == 1

/-- A list with one more member at its end, unless it has that member already. -/
def addProtocol (protocols : List UInt8) (protocol : UInt8) : List UInt8 :=
  if protocols.contains protocol then protocols else protocols ++ [protocol]

/--
Walks to the next TD, which lies the given number of octets ahead, and on from there.

The answer holds the protocols and the position after the last interface octet.
There is none when an announced TD lies beyond the end.
-/
def walk (position ahead : Nat) (protocols : List UInt8) :
    Octets → Option (List UInt8 × Nat)
  | [] => none
  | octet :: rest =>
    match ahead with
    | ahead + 1 => walk (position + 1) ahead protocols rest
    | 0 =>
      let found := addProtocol protocols (lowHalf octet)
      let announcement := announced octet
      if continues announcement then walk (position + 1) (skipped announcement) found rest
      else some (found, position + 1 + skipped announcement)

/-- Where the parts of an Answer-To-Reset lie; the protocol is T=0 where no TD names one. -/
def layout (atr : Atr) : Option Layout :=
  match atr.octets with
  | _ :: format :: rest =>
    let announcement := announced format
    let walked :=
      if continues announcement then walk 2 (skipped announcement) [] rest
      else some ([], 2 + skipped announcement)
    walked.map fun (protocols, position) =>
      { protocols := if protocols.isEmpty then [0] else protocols
        historicalStart := position
        historicalLength := format.toNat % 16 }
  | _ => none

/-- The convention that the first octet announces. -/
def convention (atr : Atr) : Option Convention :=
  match atr.octets with
  | [] => none
  | first :: _ =>
    if first = 0x3B then some .direct else if first = 0x3F then some .inverse else none

/-- The protocols that the card announces. -/
def protocols (atr : Atr) : Option (List UInt8) :=
  atr.layout.map Layout.protocols

/-- The historical octets, unless the answer is shorter than its structure claims. -/
def historicalOctets (atr : Atr) : Option Octets :=
  atr.layout.bind fun layout =>
    if layout.historicalStart + layout.historicalLength ≤ atr.octets.length then
      some ((atr.octets.drop layout.historicalStart).take layout.historicalLength)
    else none

/-- Whether the answer begins with the given octets. -/
def startsWith (atr : Atr) (opening : Octets) : Bool :=
  opening.isPrefixOf atr.octets

/-- An Answer-To-Reset as an array of octets. -/
def json (atr : Atr) : Json :=
  .ofOctets atr.octets

/-- The Answer-To-Reset that an array of octets denotes. -/
def ofJson? (value : Json) : Option Atr :=
  value.octets?.map Atr.mk

end Atr

end Ccid

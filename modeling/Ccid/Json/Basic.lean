import Ccid.Octets
import Ccid.Named

/-! JSON values, and the reading of numbers, names and records from them. -/

namespace Ccid

/-- A JSON value. -/
inductive Json where
  | null
  | bool (value : Bool)
  /-- A whole number that fits 64 bits, with or without sign. -/
  | int (value : Int)
  /-- Any other number, as it is written. -/
  | real (literal : String)
  | str (text : String)
  | arr (items : List Json)
  | obj (members : List (String × Json))
  deriving BEq, Repr

namespace Json

/-- A count as a JSON number. -/
def ofNat (value : Nat) : Json :=
  .int (Int.ofNat value)

/-- Octets as an array of numbers. -/
def ofOctets (octets : Octets) : Json :=
  .arr (octets.map fun octet => ofNat octet.toNat)

/-- A kind by its name. -/
def ofNamed {Kind : Type} [Named Kind] (kind : Kind) : Json :=
  .str (Named.name kind)

/-- A value that may be absent; absence is null. -/
def ofOption {Value : Type} (encode : Value → Json) : Option Value → Json
  | some value => encode value
  | none => .null

/-- The whole number below a bound that a value is. -/
def natBelow? (bound : Nat) : Json → Option Nat
  | .int (.ofNat value) => if value < bound then some value else none
  | _ => none

/-- The 8-bit number that a value is. -/
def uint8? (value : Json) : Option UInt8 :=
  (value.natBelow? UInt8.size).map UInt8.ofNat

/-- The 16-bit number that a value is. -/
def uint16? (value : Json) : Option UInt16 :=
  (value.natBelow? UInt16.size).map UInt16.ofNat

/-- The 32-bit number that a value is. -/
def uint32? (value : Json) : Option UInt32 :=
  (value.natBelow? UInt32.size).map UInt32.ofNat

/-- The 64-bit number that a value is. -/
def uint64? (value : Json) : Option UInt64 :=
  (value.natBelow? UInt64.size).map UInt64.ofNat

/-- A count below a bound reads back as itself. -/
@[simp] theorem natBelow?_ofNat (bound value : Nat) :
    (ofNat value).natBelow? bound = if value < bound then some value else none :=
  rfl

/-- An 8-bit number reads back as itself. -/
@[simp] theorem uint8?_ofNat (value : UInt8) : (ofNat value.toNat).uint8? = some value := by
  simp [uint8?, value.toNat_lt]

/-- A 16-bit number reads back as itself. -/
@[simp] theorem uint16?_ofNat (value : UInt16) : (ofNat value.toNat).uint16? = some value := by
  simp [uint16?, value.toNat_lt]

/-- A 32-bit number reads back as itself. -/
@[simp] theorem uint32?_ofNat (value : UInt32) : (ofNat value.toNat).uint32? = some value := by
  simp [uint32?, value.toNat_lt]

/-- A 64-bit number reads back as itself. -/
@[simp] theorem uint64?_ofNat (value : UInt64) : (ofNat value.toNat).uint64? = some value := by
  simp [uint64?, value.toNat_lt]

/-- The truth value that a value is. -/
def bool? : Json → Option Bool
  | .bool value => some value
  | _ => none

/-- The text that a value is. -/
def str? : Json → Option String
  | .str text => some text
  | _ => none

/-- The items of an array. -/
def items? : Json → Option (List Json)
  | .arr items => some items
  | _ => none

/-- The octets that an array of small numbers lists. -/
def octets? (value : Json) : Option Octets := do
  let items ← value.items?
  items.mapM uint8?

/-- Octets read back as themselves. -/
@[simp] theorem octets?_ofOctets (octets : Octets) : (ofOctets octets).octets? = some octets := by
  -- Every item is an octet, so no item ends the reading.
  induction octets with
  | nil => rfl
  | cons octet rest ih => simp_all [octets?, ofOctets, items?]

/-- The kind that a value names, by a text or by an object whose only member is its name. -/
def named? {Kind : Type} [Named Kind] : Json → Option Kind
  | .str text => Named.ofName? text
  | .obj [(text, .null)] => Named.ofName? text
  | _ => none

/-- A kind's name reads back as the kind. -/
@[simp] theorem named?_ofNamed {Kind : Type} [Named Kind] (kind : Kind) :
    named? (ofNamed kind) = some kind := by
  simp [ofNamed, named?]

/--
The members of a record with the given fields.

An object gives them by name.
An array gives them by position, in the order of the fields, and has no item beyond the last.
-/
def record? (fields : List String) : Json → Option (List (String × Json))
  | .obj members => some members
  | .arr items => if items.length ≤ fields.length then some (fields.zip items) else none
  | _ => none

/-- A record's field, read by the given reader. -/
def field? {Value : Type} (members : List (String × Json)) (name : String)
    (read : Json → Option Value) : Option Value :=
  (members.lookup name).bind read

/-- A record's field, or a value that stands in where the field is missing. -/
def fieldOr? {Value : Type} (members : List (String × Json)) (name : String)
    (read : Json → Option Value) (absent : Value) : Option Value :=
  match members.lookup name with
  | some value => read value
  | none => some absent

/-- A described member, where null stands for absence as well. -/
def optional? {Value : Type} (members : List (String × Json)) (name : String)
    (read : Json → Option Value) (absent : Value) : Option Value :=
  match members.lookup name with
  | none | some .null => some absent
  | some value => read value

end Json

end Ccid

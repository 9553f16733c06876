import Ccid.Proofs.Json.Literals

/-!
What is printed of a value is read as the value.

A text is read piece by piece: blanks are passed over, and a number ends where no more of it can
follow. What is printed of an array or an object is such pieces, each on a line of its own. So the
induction is on the value, and what is printed of a part may stand before any text that no number
goes on into.
-/

namespace Ccid.Json

/-- A value that its text tells: its numbers fit 64 bits, and no object has a name twice. -/
inductive Legible : Json → Prop
  | null : Legible .null
  | bool (value : Bool) : Legible (.bool value)
  | int {value : Int} : Int64.minValue.toInt ≤ value → value < UInt64.size → Legible (.int value)
  | str (text : String) : Legible (.str text)
  | arr {items : List Json} : (∀ item ∈ items, Legible item) → Legible (.arr items)
  | obj {members : List (String × Json)} : (members.map Prod.fst).Nodup →
    (∀ member ∈ members, Legible member.2) → Legible (.obj members)

/-- A count that fits 64 bits is legible. -/
theorem Legible.ofNat {count : Nat} (fits : count < UInt64.size) : (Json.ofNat count).Legible := by
  apply Legible.int
  · exact Int.le_trans (by decide) (Int.natCast_nonneg count)
  · exact Int.ofNat_lt.mpr fits

/-- Octets are legible. -/
theorem Legible.ofOctets (octets : Octets) : (Json.ofOctets octets).Legible := by
  apply Legible.arr
  intro item member
  obtain ⟨octet, _, rfl⟩ := List.mem_map.mp member
  exact .ofNat (Nat.lt_trans octet.toNat_lt (by decide))

/-- A value that may be absent is legible if it is so when it is there. -/
theorem Legible.ofOption {Value : Type} {encode : Value → Json}
    (each : ∀ value, (encode value).Legible) (optional : Option Value) :
    (Json.ofOption encode optional).Legible := by
  cases optional with
  | none => exact .null
  | some value => exact each value

/-- A member as it is printed, given how its value is. -/
def entry (print : Json → List Char) (member : String × Json) : List Char :=
  (quoted member.1).toList ++ ':' :: ' ' :: print member.2

namespace Reader

section Steps

variable {turns : Nat} {text behind next rest : List Char} {value : Json}

variable {print : Json → List Char} {name : String} {blanks : List Char}
  (blank : ∀ character ∈ blanks, isBlank character)

include blank

end Steps

section Lists

variable {inner outer : List Char} {close : Char}
  (outerBlank : ∀ character ∈ outer, isBlank character)

include outerBlank

variable (innerBlank : ∀ character ∈ inner, isBlank character) {print : Json → List Char}

include innerBlank

end Lists

end Reader

end Ccid.Json

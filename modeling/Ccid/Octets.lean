/-! Octet strings, and the numbers written in them with the least significant octet first. -/

namespace Ccid

/-- A run of octets, such as one transfer or one field carries. -/
abbrev Octets := List UInt8

/-- A number as the given count of octets, least significant first. -/
def littleEndian : Nat → Nat → Octets
  | 0, _ => []
  | width + 1, value => UInt8.ofNat value :: littleEndian width (value / 256)

/-- The number that octets denote when the least significant comes first. -/
def ofLittleEndian : Octets → Nat
  | [] => 0
  | octet :: rest => octet.toNat + 256 * ofLittleEndian rest

/-- A number takes exactly the width it is written at. -/
@[simp] theorem length_littleEndian (width value : Nat) :
    (littleEndian width value).length = width := by
  -- Each step writes one octet and leaves the same claim one width down.
  induction width generalizing value with
  | zero => rfl
  | succ width ih => simp [littleEndian, ih]

/-- A number that fits its width reads back as itself. -/
theorem ofLittleEndian_littleEndian (width : Nat) {value : Nat} (fits : value < Nat.pow 256 width) :
    ofLittleEndian (littleEndian width value) = value := by
  induction width generalizing value with
  | zero =>
    -- A width of no octets holds only zero.
    have zero : value < 1 := fits
    simp only [littleEndian, ofLittleEndian]
    omega
  | succ width ih =>
    -- What is left after the low octet fits the width that is left.
    have tail : value / 256 < Nat.pow 256 width := by
      have wider : value < Nat.pow 256 width * 256 := fits
      exact Nat.div_lt_of_lt_mul (by omega)
    simp only [littleEndian, ofLittleEndian, ih tail, UInt8.toNat_ofNat']
    omega

/-- Octets are the number they denote, written at their own width. -/
theorem littleEndian_ofLittleEndian (octets : Octets) :
    littleEndian octets.length (ofLittleEndian octets) = octets := by
  induction octets with
  | nil => rfl
  | cons octet rest ih =>
    -- The first octet is the remainder by 256, and the rest is the quotient.
    have small := octet.toNat_lt
    have quotient : (octet.toNat + 256 * ofLittleEndian rest) / 256 = ofLittleEndian rest := by
      omega
    have first : UInt8.ofNat (octet.toNat + 256 * ofLittleEndian rest) = octet := by
      apply UInt8.toNat_inj.mp
      simp only [UInt8.toNat_ofNat']
      omega
    simp only [List.length_cons, ofLittleEndian, littleEndian, quotient, first, ih]

/-- Octets of a given width denote a number below the matching power of 256. -/
theorem ofLittleEndian_lt (octets : Octets) : ofLittleEndian octets < Nat.pow 256 octets.length := by
  induction octets with
  | nil => simp [ofLittleEndian]
  | cons octet rest ih =>
    -- One more octet is one more factor of 256 of range.
    have small := octet.toNat_lt
    show octet.toNat + 256 * ofLittleEndian rest < Nat.pow 256 rest.length * 256
    omega

end Ccid

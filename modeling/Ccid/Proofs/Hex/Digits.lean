import Ccid.Hex
import Mathlib.Algebra.Ring.Nat

/-!
Hexadecimal digits and the numbers that they denote.

A digit is one of ten figures and six letters, in either case. Digits in a row denote a number with
the first of them as the most significant one, so that zeros in front make no difference to it.
-/

namespace Ccid.Hex

/-- A character is the digit for a value, in either case. -/
def IsDigit (character : Char) (value : Nat) : Prop :=
  "0123456789abcdef".toList[value]? = some character ∨
    "0123456789ABCDEF".toList[value]? = some character

instance (character : Char) (value : Nat) : Decidable (IsDigit character value) :=
  inferInstanceAs (Decidable (_ ∨ _))

/-- A digit stands for a value below sixteen. -/
theorem IsDigit.small {character : Char} {value : Nat} (digit : IsDigit character value) :
    value < 16 := by
  -- Either row has sixteen digits.
  rcases digit with lower | upper
  · exact (List.getElem?_eq_some_iff.mp lower).1
  · exact (List.getElem?_eq_some_iff.mp upper).1

/-- Only the first hundred and twenty-eight characters have a value. -/
theorem ascii_of_hexValue? {character : Char} {value : Nat}
    (read : hexValue? character = some value) : character.toNat < 128 := by
  unfold hexValue? at read
  grind

/-- A character has the value that it is the digit for. -/
theorem hexValue?_eq_some_iff {character : Char} {value : Nat} :
    hexValue? character = some value ↔ IsDigit character value := by
  constructor
  · intro read
    -- So there are few enough characters to look at each of them.
    have each : ∀ code < 128, ∀ found ∈ hexValue? (Char.ofNat code),
        IsDigit (Char.ofNat code) found := by decide
    have digit := each character.toNat (ascii_of_hexValue? read)
    rw [Char.ofNat_toNat] at digit
    exact digit value read
  · intro digit
    -- In either row, the digit in a place has that place as its value.
    have lower : ∀ place < 16, "0123456789abcdef".toList[place]?.bind hexValue? = some place := by
      decide
    have upper : ∀ place < 16, "0123456789ABCDEF".toList[place]?.bind hexValue? = some place := by
      decide
    have small := digit.small
    rcases digit with found | found
    · have read := lower value small
      rwa [found] at read
    · have read := upper value small
      rwa [found] at read

/-- A digit is among the first hundred and twenty-eight characters. -/
theorem IsDigit.ascii {character : Char} {value : Nat} (digit : IsDigit character value) :
    character.toNat < 128 :=
  ascii_of_hexValue? (hexValue?_eq_some_iff.mpr digit)

/-- A character has no value exactly if it is no digit. -/
theorem hexValue?_eq_none_iff {character : Char} :
    hexValue? character = none ↔ ∀ value, ¬ IsDigit character value := by
  simp only [← hexValue?_eq_some_iff, Option.eq_none_iff_forall_ne_some, ne_eq]

/-- A character is the digit for one value at most. -/
theorem IsDigit.unique {character : Char} {first second : Nat} (one : IsDigit character first)
    (other : IsDigit character second) : first = second := by
  -- Both are what the character is read as.
  rw [← hexValue?_eq_some_iff] at one other
  exact Option.some.inj (one.symm.trans other)

/-- The number that digits denote, the first of them being the most significant. -/
inductive Numeral : List Char → Nat → Prop
  | nil : Numeral [] 0
  | cons {character : Char} {value : Nat} {rest : List Char} {number : Nat} :
    IsDigit character value → Numeral rest number →
    Numeral (character :: rest) (value * 16 ^ rest.length + number)

/-- No digits denote only zero. -/
theorem numeral_nil_iff {number : Nat} : Numeral [] number ↔ number = 0 :=
  ⟨fun numeral => by cases numeral; rfl, fun zero => zero ▸ .nil⟩

/-- The first of some digits counts as often as there are numbers that the others may denote. -/
theorem numeral_cons_iff {character : Char} {rest : List Char} {number : Nat} :
    Numeral (character :: rest) number ↔
      ∃ value tail, IsDigit character value ∧ Numeral rest tail ∧
        number = value * 16 ^ rest.length + tail := by
  constructor
  · intro numeral
    cases numeral with
    | cons digit tail => exact ⟨_, _, digit, tail, rfl⟩
  · rintro ⟨value, tail, digit, numeral, rfl⟩
    exact .cons digit numeral

/-- Digits in a row denote one number. -/
theorem Numeral.unique {digits : List Char} {first second : Nat} (one : Numeral digits first)
    (other : Numeral digits second) : first = second := by
  induction one generalizing second with
  | nil => exact (numeral_nil_iff.mp other).symm
  | cons digit _ ih =>
    obtain ⟨value, tail, again, numeral, rfl⟩ := numeral_cons_iff.mp other
    rw [digit.unique again, ih numeral]

/-- Of two runs of digits, the first counts as often as there are numbers for the second. -/
theorem numeral_append_iff {first second : List Char} {number : Nat} :
    Numeral (first ++ second) number ↔
      ∃ high low, Numeral first high ∧ Numeral second low ∧
        number = high * 16 ^ second.length + low := by
  -- The induction is on the first run; its first digit also counts for the second run's places.
  induction first generalizing number with
  | nil => simp [numeral_nil_iff]
  | cons character rest ih =>
    simp only [List.cons_append, numeral_cons_iff, ih, List.length_append, Nat.pow_add]
    constructor
    · rintro ⟨value, _, digit, ⟨high, low, numeral, tail, rfl⟩, rfl⟩
      exact ⟨_, low, ⟨value, high, digit, numeral, rfl⟩, tail, by grind⟩
    · rintro ⟨_, low, ⟨value, high, digit, numeral, rfl⟩, tail, rfl⟩
      exact ⟨value, _, digit, ⟨high, low, numeral, tail, rfl⟩, by grind⟩

end Ccid.Hex

import Ccid.Numeral

/-! Octet strings as hexadecimal text: two digits an octet, either case when read. -/

namespace Ccid.Hex

/-- The case that the digits above nine are written in. -/
inductive Casing where
  | lower
  | upper
  deriving DecidableEq, Repr

/-- The digit for a value below sixteen. -/
def Casing.digit (casing : Casing) (value : Nat) : Char :=
  if value < 10 then Char.ofNat (48 + value)
  else match casing with
    | .lower => Char.ofNat (87 + value)
    | .upper => Char.ofNat (55 + value)

/-- The digits of an octet string, the high half of each octet first. -/
def digits (casing : Casing) : Octets → List Char
  | [] => []
  | octet :: rest =>
    casing.digit (octet.toNat / 16) :: casing.digit (octet.toNat % 16) :: digits casing rest

/-- An octet string in lower-case digits. -/
def lower (octets : Octets) : String :=
  String.ofList (digits .lower octets)

/-- An octet string in upper-case digits. -/
def upper (octets : Octets) : String :=
  String.ofList (digits .upper octets)

/-- A 16-bit word in four digits, the most significant first. -/
def word (casing : Casing) (value : UInt16) : String :=
  String.ofList (digits casing (littleEndian 2 value.toNat).reverse)

/-- Why a text is no octet string. -/
inductive Error where
  /-- The text has an odd number of octets, so no pairing of digits covers it. -/
  | oddLength
  /-- The octet at this position is no digit. -/
  | invalidDigit (octet : UInt8) (position : Nat)
  deriving DecidableEq, Repr

/-- The value of the digit at a position of a text. -/
def digitAt (octet : UInt8) (position : Nat) : Except Error Nat :=
  match hexValue? (Char.ofNat octet.toNat) with
  | some value => .ok value
  | none => .error (.invalidDigit octet position)

/-- The octets that pairs of digits denote, where the first digit has the given position. -/
def decodePairs (position : Nat) : Octets → Except Error Octets
  | [] => .ok []
  | [_] => .error .oddLength
  | first :: second :: rest => do
    let high ← digitAt first position
    let low ← digitAt second (position + 1)
    let octets ← decodePairs (position + 2) rest
    return UInt8.ofNat (16 * high + low) :: octets

/-- The octets of a text in UTF-8. -/
def utf8 (text : String) : Octets :=
  text.toList.flatMap String.utf8EncodeChar

/-- The octet string that a text denotes; its length is judged before any digit is. -/
def decode (text : String) : Except Error Octets :=
  let octets := utf8 text
  if octets.length % 2 = 1 then .error .oddLength else decodePairs 0 octets

/-- A digit is a character that UTF-8 writes as one octet of the same code. -/
theorem utf8_digit (casing : Casing) {value : Nat} (small : value < 16) :
    String.utf8EncodeChar (casing.digit value) = [UInt8.ofNat (casing.digit value).toNat] := by
  -- Sixteen values, each in one of two cases.
  have each : ∀ other < 16, String.utf8EncodeChar (casing.digit other)
      = [UInt8.ofNat (casing.digit other).toNat] := by
    cases casing <;> decide
  exact each value small

/-- The octet of a digit is read as the digit's value. -/
theorem digitAt_digit (casing : Casing) {value : Nat} (small : value < 16) (position : Nat) :
    digitAt (UInt8.ofNat (casing.digit value).toNat) position = .ok value := by
  have each : ∀ other < 16,
      hexValue? (Char.ofNat (UInt8.ofNat (casing.digit other).toNat).toNat) = some other := by
    cases casing <;> decide
  simp only [digitAt, each value small]

/-- Two digits for every octet. -/
@[simp] theorem length_digits (casing : Casing) (octets : Octets) :
    (digits casing octets).length = 2 * octets.length := by
  induction octets with
  | nil => rfl
  | cons octet rest ih =>
    simp only [digits, List.length_cons, ih]
    omega

/-- Digits are read as the octets that they were written for. -/
theorem decodePairs_digits (casing : Casing) (octets : Octets) (position : Nat) :
    decodePairs position ((digits casing octets).flatMap String.utf8EncodeChar) = .ok octets := by
  induction octets generalizing position with
  | nil => rfl
  | cons octet rest ih =>
    -- Both halves of an octet are below sixteen, and together they are the octet.
    have bound := octet.toNat_lt
    have high : octet.toNat / 16 < 16 := by omega
    have low : octet.toNat % 16 < 16 := by omega
    have joined : UInt8.ofNat (16 * (octet.toNat / 16) + octet.toNat % 16) = octet := by
      rw [Nat.div_add_mod, UInt8.ofNat_toNat]
    simp only [digits, List.flatMap_cons, utf8_digit casing high, utf8_digit casing low,
      List.cons_append, List.nil_append, decodePairs, digitAt_digit casing high,
      digitAt_digit casing low, ih, joined, Bind.bind, Except.bind, Pure.pure, Except.pure]

/-- Written digits take one octet each in UTF-8. -/
theorem length_utf8_digits (casing : Casing) (octets : Octets) :
    ((digits casing octets).flatMap String.utf8EncodeChar).length = 2 * octets.length := by
  induction octets with
  | nil => rfl
  | cons octet rest ih =>
    have bound := octet.toNat_lt
    have high : octet.toNat / 16 < 16 := by omega
    have low : octet.toNat % 16 < 16 := by omega
    simp only [digits, List.flatMap_cons, utf8_digit casing high, utf8_digit casing low,
      List.length_append, List.length_cons, List.length_nil, ih]
    omega

/-- An octet string written in either case is read back as itself. -/
theorem decode_digits (casing : Casing) (octets : Octets) :
    decode (String.ofList (digits casing octets)) = .ok octets := by
  -- The length is even, so the digits are read in pairs.
  simp only [decode, utf8, String.toList_ofList, length_utf8_digits, Nat.mul_mod_right]
  simpa using decodePairs_digits casing octets 0

/-- Octet strings with the same digits are the same. -/
theorem digits_injective (casing : Casing) {first second : Octets}
    (same : digits casing first = digits casing second) : first = second := by
  -- Both are what the common digits denote.
  have read := decode_digits casing first
  rw [same, decode_digits] at read
  exact (Except.ok.inj read).symm

/--
A character of the first 256 in single quotes.

The quote, the backslash and the usual blanks have short escapes.
Every other character without a visible form is written by its number.
-/
def quoted (code : Nat) : String :=
  let body :=
    if code = 0 then "\\0"
    else if code = 9 then "\\t"
    else if code = 10 then "\\n"
    else if code = 13 then "\\r"
    else if code = 39 then "\\'"
    else if code = 92 then "\\\\"
    else if code < 32 ∨ (127 ≤ code ∧ code ≤ 160) ∨ code = 173 then
      "\\u\x7b" ++ String.ofList (Nat.toDigits 16 code) ++ "\x7d"
    else String.singleton (Char.ofNat code)
  "'" ++ body ++ "'"

/-- What went wrong, in words. -/
def Error.message : Error → String
  | .oddLength => "Odd number of digits"
  | .invalidDigit octet position =>
    "Invalid character " ++ quoted octet.toNat ++ " at position " ++ position.repr

end Ccid.Hex

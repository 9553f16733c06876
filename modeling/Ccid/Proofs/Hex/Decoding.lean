import Ccid.Proofs.Hex.Digits
import Mathlib.Data.List.Induction

/-!
Which texts denote octet strings.

A text denotes octets if it has two digits for each of them and nothing else, and it is decoded
exactly then. The decoder works on the octets of the text in UTF-8; a character beyond the first
hundred and twenty-eight has more than one of these and none of them is a digit, so the detour makes
no difference.
-/

namespace Ccid.Hex

/-- Characters that are an even number of digits, in either case. -/
def Paired (characters : List Char) : Prop :=
  characters.length % 2 = 0 ∧ ∀ character ∈ characters, ∃ value, IsDigit character value

/-- The octets that digits denote in pairs, the first digit of a pair being the high half. -/
inductive Denotes : List Char → Octets → Prop
  | nil : Denotes [] []
  | pair {first second : Char} {high low : Nat} {rest : List Char} {octets : Octets} :
    IsDigit first high → IsDigit second low → Denotes rest octets →
    Denotes (first :: second :: rest) (UInt8.ofNat (16 * high + low) :: octets)

namespace Denotes

variable {characters : List Char}

/-- Characters that denote octets are an even number of digits. -/
theorem paired {octets : Octets} (denotes : Denotes characters octets) : Paired characters := by
  induction denotes with
  | nil => exact ⟨rfl, by simp⟩
  | @pair first second high low rest octets high? low? _ ih =>
    obtain ⟨even, digits⟩ := ih
    -- Two digits are put in front of an even number of them.
    refine ⟨?_, ?_⟩
    · rw [List.length_cons, List.length_cons]
      omega
    · rintro character member
      rcases List.mem_cons.mp member with rfl | member
      · exact ⟨high, high?⟩
      · rcases List.mem_cons.mp member with rfl | member
        · exact ⟨low, low?⟩
        · exact digits character member

/-- Characters denote one octet string at most. -/
theorem unique {first second : Octets} (one : Denotes characters first)
    (other : Denotes characters second) : first = second := by
  induction one generalizing second with
  | nil =>
    cases other
    rfl
  | pair high low _ ih =>
    cases other with
    | pair highAgain lowAgain rest =>
      rw [high.unique highAgain, low.unique lowAgain, ih rest]

end Denotes

/-- An even number of digits denotes an octet string, and no other characters do. -/
theorem exists_denotes_iff {characters : List Char} :
    (∃ octets, Denotes characters octets) ↔ Paired characters := by
  constructor
  · rintro ⟨octets, denotes⟩
    exact denotes.paired
  · rintro ⟨even, digits⟩
    -- Two characters are taken at a time, so the induction is on half the length.
    induction characters using List.twoStepInduction with
    | nil => exact ⟨[], .nil⟩
    | singleton character => simp at even
    | cons_cons first second rest ih =>
      have fewer : rest.length % 2 = 0 := by
        rw [List.length_cons, List.length_cons] at even
        omega
      obtain ⟨high, isHigh⟩ := digits first (by simp)
      obtain ⟨low, isLow⟩ := digits second (by simp)
      have others : ∀ character ∈ rest, ∃ value, IsDigit character value :=
        fun character member => digits character (by simp [member])
      obtain ⟨octets, denotes⟩ := ih fewer others
      exact ⟨_, .pair isHigh isLow denotes⟩

/-- The octet of a digit is read as its value, and no other octet has one. -/
theorem digitAt_eq_ok_iff {octet : UInt8} {position value : Nat} :
    digitAt octet position = .ok value ↔ IsDigit (Char.ofNat octet.toNat) value := by
  rw [← hexValue?_eq_some_iff, digitAt]
  cases hexValue? (Char.ofNat octet.toNat) <;> simp

/-- Octets are decoded exactly if the first two have a value and those after them are decoded. -/
theorem decodePairs_cons_eq_ok_iff {position : Nat} {first second : UInt8} {rest octets : Octets} :
    decodePairs position (first :: second :: rest) = .ok octets ↔
      ∃ high low tail, digitAt first position = .ok high ∧
        digitAt second (position + 1) = .ok low ∧ decodePairs (position + 2) rest = .ok tail ∧
        octets = UInt8.ofNat (16 * high + low) :: tail := by
  -- The first of the three that fails decides, so they are taken one after the other.
  simp only [decodePairs, Bind.bind, Except.bind, Pure.pure, Except.pure]
  cases digitAt first position with
  | error error => simp
  | ok high =>
    cases digitAt second (position + 1) with
    | error error => simp
    | ok low => cases decodePairs (position + 2) rest <;> simp [eq_comm]

/-- The characters that octets are the codes of. -/
def characters (codes : Octets) : List Char :=
  codes.map fun code => Char.ofNat code.toNat

/-- Octets are decoded exactly to what the characters with these codes denote. -/
theorem decodePairs_eq_ok_iff {position : Nat} {codes octets : Octets} :
    decodePairs position codes = .ok octets ↔ Denotes (characters codes) octets := by
  induction codes using List.twoStepInduction generalizing position octets with
  | nil =>
    constructor
    · intro decoded
      cases decoded
      exact .nil
    · intro denotes
      cases denotes
      rfl
  | singleton code =>
    -- A character without a partner neither is decoded nor denotes an octet.
    constructor
    · intro decoded
      simp [decodePairs] at decoded
    · intro denotes
      cases denotes
  | cons_cons first second rest ih =>
    rw [decodePairs_cons_eq_ok_iff]
    constructor
    · rintro ⟨high, low, tail, isHigh, isLow, decoded, rfl⟩
      exact .pair (digitAt_eq_ok_iff.mp isHigh) (digitAt_eq_ok_iff.mp isLow) (ih.mp decoded)
    · intro denotes
      cases denotes with
      | pair isHigh isLow rest =>
        exact ⟨_, _, _, digitAt_eq_ok_iff.mpr isHigh, digitAt_eq_ok_iff.mpr isLow, ih.mpr rest, rfl⟩

/-- One of the first hundred and twenty-eight characters is one octet in UTF-8: its code. -/
theorem utf8EncodeChar_ascii {character : Char} (low : character.toNat < 128) :
    String.utf8EncodeChar character = [UInt8.ofNat character.toNat] := by
  have small : character.val.toNat ≤ 127 := Nat.le_of_lt_succ low
  simp only [String.utf8EncodeChar, if_pos small]
  rfl

/-- The octets of any other character in UTF-8 are beyond these codes. -/
theorem le_of_mem_utf8EncodeChar {character : Char} (high : 128 ≤ character.toNat) {octet : UInt8}
    (member : octet ∈ String.utf8EncodeChar character) : 128 ≤ octet.toNat := by
  have large : 128 ≤ character.val.toNat := high
  -- Every octet of the longer encodings carries its highest bit as a mark.
  unfold String.utf8EncodeChar at member
  grind [UInt8.toNat_ofNat']

/-- Characters of the first hundred and twenty-eight are those with the codes of their octets. -/
theorem characters_utf8 {text : List Char} (ascii : ∀ character ∈ text, character.toNat < 128) :
    characters (text.flatMap String.utf8EncodeChar) = text := by
  induction text with
  | nil => rfl
  | cons character rest ih =>
    obtain ⟨low, others⟩ := List.forall_mem_cons.mp ascii
    -- The code of the first character is kept, since it fits an octet.
    have code : (UInt8.ofNat character.toNat).toNat = character.toNat := by
      rw [UInt8.toNat_ofNat']
      omega
    have tail := ih others
    simp only [characters, List.map_flatMap] at tail ⊢
    rw [List.flatMap_cons, utf8EncodeChar_ascii low, List.map_cons, code, Char.ofNat_toNat, tail]
    rfl

/-- An octet is the code of the character that has it as its code. -/
theorem toNat_ofNat_octet (octet : UInt8) : (Char.ofNat octet.toNat).toNat = octet.toNat := by
  -- Codes below the gap that UTF-16 leaves are all valid.
  have valid : octet.toNat.isValidChar := .inl (by have := octet.toNat_lt; omega)
  rw [Char.ofNat, dif_pos valid]
  rfl

/-- A text denotes what the characters with the codes of its octets do. -/
theorem denotes_characters_utf8_iff {text : String} {octets : Octets} :
    Denotes (characters (utf8 text)) octets ↔ Denotes text.toList octets := by
  unfold utf8
  constructor
  · intro denotes
    obtain ⟨_, digits⟩ := denotes.paired
    -- Each character has an octet, and that is the code of a digit.
    have ascii : ∀ character ∈ text.toList, character.toNat < 128 := by
      intro character member
      by_contra high
      obtain ⟨octet, encoded⟩ := List.exists_mem_of_ne_nil _
        (String.utf8EncodeChar_ne_nil (c := character))
      -- A character beyond them would have an octet whose code is no digit.
      have beyond := le_of_mem_utf8EncodeChar (Nat.not_lt.mp high) encoded
      have mapped := List.mem_map_of_mem (f := fun code : UInt8 => Char.ofNat code.toNat)
        (List.mem_flatMap_of_mem member encoded)
      obtain ⟨value, digit⟩ := digits _ mapped
      have low := digit.ascii
      rw [toNat_ofNat_octet] at low
      omega
    rwa [characters_utf8 ascii] at denotes
  · intro denotes
    obtain ⟨_, digits⟩ := denotes.paired
    have ascii : ∀ character ∈ text.toList, character.toNat < 128 := fun character member =>
      (digits character member).elim fun _ digit => digit.ascii
    rwa [characters_utf8 ascii]

/-- A text is decoded exactly to the octets that it denotes. -/
theorem decode_eq_ok_iff {text : String} {octets : Octets} :
    decode text = .ok octets ↔ Denotes text.toList octets := by
  have pairs : decodePairs 0 (utf8 text) = .ok octets ↔ Denotes (characters (utf8 text)) octets :=
    decodePairs_eq_ok_iff
  rw [← denotes_characters_utf8_iff, ← pairs]
  simp only [decode]
  by_cases odd : (utf8 text).length % 2 = 1
  · rw [if_pos odd]
    -- Octets of an odd length are not decoded in pairs either.
    refine ⟨fun refused => by simp at refused, fun decoded => ?_⟩
    have even := (decodePairs_eq_ok_iff.mp decoded).paired.1
    rw [characters, List.length_map] at even
    omega
  · rw [if_neg odd]

/-- A text that is no even number of digits is refused, and only such a text is. -/
theorem exists_decode_error_iff {text : String} :
    (∃ error, decode text = .error error) ↔ ¬ Paired text.toList := by
  rw [← exists_denotes_iff]
  simp only [← decode_eq_ok_iff]
  cases decode text <;> simp

end Ccid.Hex

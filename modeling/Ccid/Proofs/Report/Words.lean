import Ccid.Proofs.Hex.Decoding
import Mathlib.Data.List.Basic

/-!
Texts that are made up of words, and the numbers and octets that words hold.

Words are joined by a mark that no word has, so the text tells them apart: splitting it at the mark
gives them back. A word in turn tells the octets or the number that it is written for.
-/

namespace Ccid

namespace Report

/-- Words that are joined by a mark that none of them has are told by their text. -/
theorem words_eq_of_joined {separator : String} {mark : Char} (single : separator.toList = [mark])
    {first second : List String} (firstWords : first ≠ []) (secondWords : second ≠ [])
    (firstLacks : ∀ word ∈ first, mark ∉ word.toList)
    (secondLacks : ∀ word ∈ second, mark ∉ word.toList)
    (same : separator.intercalate first = separator.intercalate second) : first = second := by
  -- Splitting a joined text at the mark gives the words back.
  have split : ∀ words : List String, words ≠ [] → (∀ word ∈ words, mark ∉ word.toList) →
      List.splitOn mark (separator.intercalate words).toList = words.map String.toList := by
    intro words some lacks
    rw [String.toList_intercalate, single]
    exact List.splitOn_intercalate mark (by simpa using lacks) (by simpa using some)
  have characters : first.map String.toList = second.map String.toList := by
    rw [← split first firstWords firstLacks, same, split second secondWords secondLacks]
  exact List.map_injective_iff.mpr (fun _ _ => String.toList_inj.mp) characters

/-- What stands before the first of a kind of mark is told by the text, and so is what follows. -/
theorem parts_eq_of_marked {mark : Char} {first second rest others : List Char}
    (firstLacks : mark ∉ first) (secondLacks : mark ∉ second)
    (same : first ++ mark :: rest = second ++ mark :: others) : first = second ∧ rest = others := by
  -- The text as far as the first mark is what stands before it.
  have opening : ∀ before behind : List Char, mark ∉ before →
      (before ++ mark :: behind).takeWhile (· != mark) = before := by
    intro before behind lacks
    have passed : ∀ character ∈ before, (character != mark) = true := by
      intro character member
      exact bne_iff_ne.mpr (ne_of_mem_of_not_mem member lacks)
    rw [List.takeWhile_append_of_pos passed, List.takeWhile_cons_of_neg (by simp),
      List.append_nil]
  have sameOpening : first = second := by
    rw [← opening first rest firstLacks, same, opening second others secondLacks]
  subst sameOpening
  exact ⟨rfl, (List.cons.inj (List.append_cancel_left same)).2⟩

/-- The digits of octets have no mark that is no digit. -/
theorem notMem_digits {mark : Char} (other : hexValue? mark = none) (casing : Hex.Casing)
    (octets : Octets) : mark ∉ Hex.digits casing octets := by
  intro member
  -- The digits of octets denote them, and only digits do so.
  have denotes := Hex.decode_eq_ok_iff.mp (Hex.decode_digits casing octets)
  rw [String.toList_ofList] at denotes
  obtain ⟨value, digit⟩ := denotes.paired.2 mark member
  exact Hex.hexValue?_eq_none_iff.mp other value digit

/-- Digits of octets in upper case have no mark that is no digit. -/
theorem notMem_upper {mark : Char} (other : hexValue? mark = none) (octets : Octets) :
    mark ∉ (Hex.upper octets).toList := by
  rw [Hex.upper, String.toList_ofList]
  exact notMem_digits other .upper octets

/-- Octets with the same digits in upper case are the same. -/
theorem upper_inj {first second : Octets} : Hex.upper first = Hex.upper second ↔ first = second := by
  constructor
  · intro same
    exact Hex.digits_injective .upper (String.ofList_inj.mp same)
  · rintro rfl
    rfl

/-- The digits of a word have no mark that is no digit. -/
theorem notMem_word {mark : Char} (other : hexValue? mark = none) (casing : Hex.Casing)
    (value : UInt16) : mark ∉ (Hex.word casing value).toList := by
  rw [Hex.word, String.toList_ofList]
  exact notMem_digits other casing _

/-- Words with the same digits are the same. -/
theorem word_inj {casing : Hex.Casing} {first second : UInt16} :
    Hex.word casing first = Hex.word casing second ↔ first = second := by
  constructor
  · intro same
    -- The digits tell the two octets of a word, and these tell the word.
    have octets := List.reverse_inj.mp (Hex.digits_injective casing (String.ofList_inj.mp same))
    have value := congrArg ofLittleEndian octets
    rw [ofLittleEndian_littleEndian 2 first.toNat_lt, ofLittleEndian_littleEndian 2 second.toNat_lt]
      at value
    exact UInt16.toNat_inj.mp value
  · rintro rfl
    rfl

/-- The decimal digits of a number have no mark that is no such digit. -/
theorem notMem_toDigits {mark : Char} (other : mark.isDigit = false) (value : Nat) :
    mark ∉ Nat.toDigits 10 value := by
  intro member
  have digit := Nat.isDigit_of_mem_toDigits (by decide) (by decide) member
  rw [other] at digit
  cases digit

/-- A number has no mark that is no digit, with zeros in front of it as well. -/
theorem notMem_zeroPadded {mark : Char} (other : mark.isDigit = false) (width value : Nat) :
    mark ∉ (zeroPadded width value).toList := by
  -- A zero is a digit too.
  have zero : mark ≠ '0' := by
    rintro rfl
    cases other
  simp [zeroPadded, notMem_toDigits other, zero]

/-- An octet is told by its number. -/
theorem octet_eq_of_repr {first second : UInt8} (same : first.toNat.repr = second.toNat.repr) :
    first = second := by
  have digits := congrArg String.toList same
  rw [Nat.toList_repr, Nat.toList_repr] at digits
  -- Reading the digits gives the number back.
  have read := congrArg (Nat.ofDigitChars 10 · 0) digits
  simp only [Nat.ofDigitChars_ten_toDigits] at read
  exact UInt8.toNat_inj.mp read

/-- Zeros in front of digits make no difference to the number. -/
theorem ofDigitChars_zeros (count : Nat) (digits : List Char) :
    Nat.ofDigitChars 10 (List.replicate count '0' ++ digits) 0 = Nat.ofDigitChars 10 digits 0 := by
  induction count with
  | zero => rfl
  | succ count ih =>
    rw [List.replicate_succ, List.cons_append, Nat.ofDigitChars_cons]
    exact ih

/-- An octet is told by its number, with zeros in front of it as well. -/
theorem octet_eq_of_zeroPadded {width : Nat} {first second : UInt8}
    (same : zeroPadded width first.toNat = zeroPadded width second.toNat) : first = second := by
  have read := congrArg (Nat.ofDigitChars 10 · 0) (String.ofList_inj.mp same)
  simp only [ofDigitChars_zeros, Nat.ofDigitChars_ten_toDigits] at read
  exact UInt8.toNat_inj.mp read

end Report

end Ccid

import Ccid.Cli.Identifier
import Ccid.Proofs.Hex.Digits

/-!
Which texts are identifiers, and what is wrong with the others.

An identifier is any number of marks, perhaps a plus sign, and then hexadecimal digits whose number
fits 16 bits. Otherwise the first problem from the left counts: nothing may be left behind the
marks, the digits so far may denote too large a number, or a character may be no digit.
-/

namespace Ccid.Cli

open Hex (IsDigit Numeral numeral_cons_iff numeral_nil_iff)

/-- So many marks in a row. -/
def marks (count : Nat) : List Char :=
  (List.replicate count ['0', 'x']).flatten

theorem marks_succ (count : Nat) : marks (count + 1) = '0' :: 'x' :: marks count := rfl

/-- A text begins with a mark. -/
def IsMarked (text : List Char) : Prop :=
  ['0', 'x'] <+: text

/-- Digits begin with no mark, since the second character of a mark is no digit. -/
theorem Numeral.unmarked {digits : List Char} {number : Nat} (numeral : Numeral digits number) :
    ¬ IsMarked digits := by
  rintro ⟨rest, rfl⟩
  obtain ⟨_, _, _, tail, _⟩ := numeral_cons_iff.mp numeral
  obtain ⟨value, _, digit, _⟩ := numeral_cons_iff.mp tail
  -- The letter is in neither row of digits.
  have none : ∀ other < 16, ¬ IsDigit 'x' other := by decide
  exact none value digit.small digit

/-- Marks are taken from a text as far as it begins with them. -/
theorem stripMarks_marks (count : Nat) {rest : List Char} (unmarked : ¬ IsMarked rest) :
    stripMarks (marks count ++ rest) = rest := by
  induction count with
  | zero =>
    -- No mark is left, so the rest is what the recursion stops at.
    show stripMarks rest = rest
    unfold stripMarks
    split
    case h_1 text => exact absurd ⟨text, rfl⟩ unmarked
    case h_2 => rfl
  | succ count ih => exact ih

/-- A text is the marks that are taken from it and what is left, which begins with none. -/
theorem exists_marks (text : List Char) :
    ∃ count, text = marks count ++ stripMarks text ∧ ¬ IsMarked (stripMarks text) := by
  -- Each mark that is taken is one more in front of those taken after it.
  fun_induction stripMarks text with
  | case1 rest ih =>
    obtain ⟨count, split, unmarked⟩ := ih
    exact ⟨count + 1, by rw [marks_succ, List.cons_append, List.cons_append, ← split], unmarked⟩
  | case2 text other =>
    refine ⟨0, rfl, ?_⟩
    rintro ⟨rest, rfl⟩
    exact other rest rfl

/-- Nothing is left behind the marks of a text exactly if it is marks alone. -/
theorem stripMarks_eq_nil_iff {text : List Char} :
    stripMarks text = [] ↔ ∃ count, text = marks count := by
  constructor
  · intro empty
    obtain ⟨count, split, _⟩ := exists_marks text
    rw [empty, List.append_nil] at split
    exact ⟨count, split⟩
  · rintro ⟨count, rfl⟩
    have unmarked : ¬ IsMarked [] := by simp [IsMarked]
    have left := stripMarks_marks count unmarked
    rwa [List.append_nil] at left

/-- Nothing is taken from a text that begins with no sign. -/
theorem stripPlus_of_unsigned {text : List Char} (unsigned : ¬ ['+'] <+: text) :
    stripPlus text = text := by
  unfold stripPlus
  split
  case h_1 rest => exact absurd ⟨rest, rfl⟩ unsigned
  case h_2 => rfl

/--
A text has something behind its marks, and this is behind the sign if there is one.

Marks and sign are taken as far as they go, so that a text has at most one such body.
-/
inductive HasBody : List Char → List Char → Prop
  | signed (count : Nat) (body : List Char) : HasBody (marks count ++ '+' :: body) body
  | unsigned (count : Nat) {body : List Char} : body ≠ [] → ¬ IsMarked body → ¬ ['+'] <+: body →
    HasBody (marks count ++ body) body

/-- The body of a text is what is left when marks and sign are taken from it. -/
theorem hasBody_iff {text body : List Char} :
    HasBody text body ↔ stripMarks text ≠ [] ∧ stripPlus (stripMarks text) = body := by
  constructor
  · intro has
    cases has with
    | signed count body =>
      -- The sign ends the marks, whatever comes behind it.
      have unmarked : ¬ IsMarked ('+' :: body) := by simp [IsMarked]
      rw [stripMarks_marks count unmarked]
      exact ⟨List.cons_ne_nil _ _, rfl⟩
    | unsigned count some unmarked unsigned =>
      rw [stripMarks_marks count unmarked]
      exact ⟨some, stripPlus_of_unsigned unsigned⟩
  · rintro ⟨some, rfl⟩
    obtain ⟨count, split, unmarked⟩ := exists_marks text
    generalize stripMarks text = rest at *
    subst split
    -- What is left behind the marks has a sign in front or not.
    by_cases signed : ['+'] <+: rest
    · obtain ⟨body, rfl⟩ := signed
      exact .signed count body
    · rw [stripPlus_of_unsigned signed]
      exact .unsigned count some unmarked signed

/-- A text without a body is marks alone. -/
theorem hasBody_or_marks (text : List Char) :
    (∃ body, HasBody text body) ∨ ∃ count, text = marks count := by
  by_cases empty : stripMarks text = []
  · exact .inr (stripMarks_eq_nil_iff.mp empty)
  · exact .inl ⟨_, hasBody_iff.mpr ⟨empty, rfl⟩⟩

/-- The ways in which the reading of characters may go on after a number. -/
inductive Reading (value : Nat) (text : List Char) : Except IdentifierError Nat → Prop
  /-- All of them are digits, and the number fits. -/
  | number {tail : Nat} : Numeral text tail → value * 16 ^ text.length + tail < UInt16.size →
    Reading value text (.ok (value * 16 ^ text.length + tail))
  /-- The digits so far make the number too large. -/
  | overflow {digits rest : List Char} {tail : Nat} : text = digits ++ rest → Numeral digits tail →
    UInt16.size ≤ value * 16 ^ digits.length + tail → Reading value text (.error .overflow)
  /-- The number fits so far, and the next character is no digit. -/
  | invalid {digits rest : List Char} {character : Char} {tail : Nat} :
    text = digits ++ character :: rest → Numeral digits tail →
    value * 16 ^ digits.length + tail < UInt16.size → (∀ digit, ¬ IsDigit character digit) →
    Reading value text (.error .invalidDigit)

/-- A reading that goes on after one more digit is a reading from before that digit. -/
theorem Reading.cons {value digit : Nat} {character : Char} {rest : List Char}
    {result : Except IdentifierError Nat} (first : IsDigit character digit)
    (reading : Reading (16 * value + digit) rest result) :
    Reading value (character :: rest) result := by
  -- The digit counts for as many places as there are digits behind it.
  have shift (digits : List Char) (tail : Nat) :
      (16 * value + digit) * 16 ^ digits.length + tail
        = value * 16 ^ (character :: digits).length + (digit * 16 ^ digits.length + tail) := by
    simp only [List.length_cons, Nat.pow_succ]
    grind
  cases reading with
  | number numeral fits =>
    rw [shift] at fits ⊢
    exact .number (.cons first numeral) fits
  | overflow split numeral large =>
    rw [shift] at large
    exact .overflow (congrArg (character :: ·) split) (.cons first numeral) large
  | invalid split numeral fits other =>
    rw [shift] at fits
    exact .invalid (congrArg (character :: ·) split) (.cons first numeral) fits other

/-- Every reading goes one of these ways. -/
theorem readIdentifier_reading {value : Nat} (small : value < UInt16.size) (text : List Char) :
    Reading value text (readIdentifier value text) := by
  -- The number read so far moves with the digits.
  fun_induction readIdentifier value text with
  | case1 value =>
    have read : Reading value [] (.ok (value * 16 ^ ([] : List Char).length + 0)) :=
      .number .nil (by simpa using small)
    simpa using read
  | case2 value character rest unread =>
    -- Nothing but the digits so far stands before this character.
    exact .invalid (List.nil_append _).symm .nil (by simpa using small)
      (Hex.hexValue?_eq_none_iff.mp unread)
  | case3 value character rest digit read fits ih =>
    exact (ih fits).cons (Hex.hexValue?_eq_some_iff.mp read)
  | case4 value character rest digit read large =>
    -- This digit alone makes the number too large, whatever follows.
    have first := Hex.hexValue?_eq_some_iff.mp read
    exact Reading.cons first
      (.overflow (List.nil_append _).symm .nil (by simpa using Nat.le_of_not_lt large))

/-- Digits make a number no smaller than the digits that they begin with. -/
theorem le_of_numeral_append (value : Nat) {first second : List Char} {high tail : Nat}
    (leading : Numeral first high) (numeral : Numeral (first ++ second) tail) :
    value * 16 ^ first.length + high ≤ value * 16 ^ (first ++ second).length + tail := by
  obtain ⟨again, low, other, _, rfl⟩ := Hex.numeral_append_iff.mp numeral
  rw [leading.unique other, List.length_append, Nat.pow_add]
  -- The places of the second run are a factor of at least one.
  have positive : 1 ≤ 16 ^ second.length := Nat.pow_pos (by decide)
  calc value * 16 ^ first.length + again
      ≤ (value * 16 ^ first.length + again) * 16 ^ second.length := by
        exact Nat.le_mul_of_pos_right _ positive
    _ ≤ value * (16 ^ first.length * 16 ^ second.length) + (again * 16 ^ second.length + low) := by
      grind

/-- A run of digits with a character in it that is no digit denotes no number. -/
theorem not_numeral_of_other {first rest : List Char} {character : Char} {number : Nat}
    (other : ∀ digit, ¬ IsDigit character digit) :
    ¬ Numeral (first ++ character :: rest) number := by
  intro numeral
  obtain ⟨_, _, _, second, _⟩ := Hex.numeral_append_iff.mp numeral
  obtain ⟨digit, _, isDigit, _⟩ := numeral_cons_iff.mp second
  exact other digit isDigit

/-- A number that fits by its digits up to a character that is none never was too large before. -/
theorem Reading.not_both {value : Nat} {text : List Char}
    (overflow : Reading value text (.error .overflow))
    (invalid : Reading value text (.error .invalidDigit)) : False := by
  cases overflow with
  | @overflow digits rest tail split numeral large =>
    cases invalid with
    | @invalid fitting after character low also smaller fits other =>
      -- One of the two runs of digits is where the other begins.
      have meet := List.append_eq_append_iff.mp (split.symm.trans also)
      rcases meet with ⟨more, rfl, _⟩ | ⟨more, rfl, next⟩
      · -- The digits that are too large are among those that fit.
        have grown := le_of_numeral_append value numeral smaller
        omega
      · cases more with
        | nil =>
          -- The two runs are the same one.
          rw [List.append_nil] at numeral large
          rw [numeral.unique smaller] at large
          omega
        | cons head more =>
          -- The character that is no digit is among the digits that are too large.
          cases (List.cons.inj next).1
          exact not_numeral_of_other other numeral

/-- Digits whose number fits are read as that number. -/
theorem Reading.eq_of_numeral {value tail : Nat} {text : List Char}
    {result : Except IdentifierError Nat} (reading : Reading value text result)
    (numeral : Numeral text tail) (fits : value * 16 ^ text.length + tail < UInt16.size) :
    result = .ok (value * 16 ^ text.length + tail) := by
  cases reading with
  | number again => rw [again.unique numeral]
  | overflow split leading large =>
    -- The number would be too large from some of its digits on.
    subst split
    have grown := le_of_numeral_append value leading numeral
    omega
  | invalid split _ _ other =>
    subst split
    exact absurd numeral (not_numeral_of_other other)

/-- A reading goes only one way. -/
theorem Reading.unique {value : Nat} {text : List Char}
    {first second : Except IdentifierError Nat} (one : Reading value text first)
    (other : Reading value text second) : first = second := by
  -- Numbers exclude the two problems, and the problems exclude each other.
  cases one with
  | number numeral fits => exact (other.eq_of_numeral numeral fits).symm
  | overflow split leading large =>
    have overflow := Reading.overflow split leading large
    cases other with
    | number numeral fits => exact overflow.eq_of_numeral numeral fits
    | overflow => rfl
    | invalid split leading fits no =>
      exact (overflow.not_both (.invalid split leading fits no)).elim
  | invalid split leading fits no =>
    have invalid := Reading.invalid split leading fits no
    cases other with
    | number numeral fits => exact invalid.eq_of_numeral numeral fits
    | overflow split leading large =>
      exact (Reading.not_both (.overflow split leading large) invalid).elim
    | invalid => rfl

/-- What characters are read as is told by the way in which their reading goes. -/
theorem readIdentifier_eq_iff {text : List Char} {result : Except IdentifierError Nat} :
    readIdentifier 0 text = result ↔ Reading 0 text result := by
  have reading := readIdentifier_reading (by decide : 0 < UInt16.size) text
  exact ⟨fun same => same ▸ reading, reading.unique⟩

/-- The identifier of a text with a body is read from that body, which may not be empty. -/
theorem identifier_of_hasBody {text : String} {body : List Char}
    (has : HasBody text.toList body) :
    identifier text =
      if body = [] then .error .invalidDigit else (readIdentifier 0 body).map UInt16.ofNat := by
  obtain ⟨some, rfl⟩ := hasBody_iff.mp has
  unfold identifier
  -- Something is left behind the marks, and perhaps nothing behind the sign.
  split
  case h_1 none => exact absurd none some
  case h_2 =>
    split
    case h_1 none => rw [if_pos none]
    case h_2 other => rw [if_neg other]

/-- Characters are read as a number of 16 bits exactly if they are digits that denote it. -/
theorem map_readIdentifier_eq_ok_iff {body : List Char} {number : UInt16} :
    (readIdentifier 0 body).map UInt16.ofNat = .ok number ↔ Numeral body number.toNat := by
  constructor
  · intro read
    have reading := readIdentifier_reading (by decide : 0 < UInt16.size) body
    generalize readIdentifier 0 body = result at *
    cases reading with
    | @number tail numeral fits =>
      simp only [Nat.zero_mul, Nat.zero_add] at fits read
      -- A number that fits is the word that it is made into.
      have word : UInt16.ofNat tail = number := Except.ok.inj read
      rw [← word, UInt16.toNat_ofNat', Nat.mod_eq_of_lt fits]
      exact numeral
    | overflow | invalid => simp [Except.map] at read
  · intro numeral
    have fits : 0 * 16 ^ body.length + number.toNat < UInt16.size := by
      simpa using number.toNat_lt_size
    rw [readIdentifier_eq_iff.mpr (.number numeral fits), Nat.zero_mul, Nat.zero_add]
    exact congrArg Except.ok UInt16.ofNat_toNat

namespace HasBody

variable {text : String} {body : List Char}

/-- A text with a body is an identifier exactly if the body is digits whose number fits. -/
theorem identifier_ok_iff (has : HasBody text.toList body) {number : UInt16} :
    identifier text = .ok number ↔ body ≠ [] ∧ Numeral body number.toNat := by
  rw [identifier_of_hasBody has, ← map_readIdentifier_eq_ok_iff]
  split <;> simp [*]

/-- A text with a body that is not empty is refused as the reading of the body is. -/
theorem identifier_error_iff (has : HasBody text.toList body) (some : body ≠ [])
    {error : IdentifierError} :
    identifier text = .error error ↔ Reading 0 body (.error error) := by
  rw [identifier_of_hasBody has, if_neg some, ← readIdentifier_eq_iff]
  cases readIdentifier 0 body <;> simp [Except.map]

/-- The number in a body is too large exactly if that of some digits at its beginning is. -/
theorem identifier_overflow_iff (has : HasBody text.toList body) :
    identifier text = .error .overflow ↔
      ∃ digits rest number, body = digits ++ rest ∧ Numeral digits number ∧ 65535 < number := by
  have size : UInt16.size = 65536 := rfl
  by_cases none : body = []
  · -- Nothing behind the sign begins with no digits but none, and these denote zero.
    rw [identifier_of_hasBody has, if_pos none]
    refine iff_of_false (by simp) ?_
    rintro ⟨digits, rest, number, split, numeral, large⟩
    obtain ⟨rfl, rfl⟩ := List.append_eq_nil_iff.mp (split.symm.trans none)
    rw [numeral_nil_iff] at numeral
    omega
  · rw [has.identifier_error_iff none]
    constructor
    · intro reading
      cases reading with
      | @overflow digits rest tail split numeral large =>
        exact ⟨digits, rest, tail, split, numeral, by omega⟩
    · rintro ⟨digits, rest, number, split, numeral, large⟩
      exact .overflow split numeral (by omega)

/-- A body is no number exactly if it is empty or a character after digits that fit is no digit. -/
theorem identifier_invalidDigit_iff (has : HasBody text.toList body) :
    identifier text = .error .invalidDigit ↔
      body = [] ∨ ∃ digits character rest number, body = digits ++ character :: rest ∧
        Numeral digits number ∧ number ≤ 65535 ∧ ∀ digit, ¬ IsDigit character digit := by
  have size : UInt16.size = 65536 := rfl
  by_cases none : body = []
  · rw [identifier_of_hasBody has, if_pos none]
    exact iff_of_true rfl (.inl none)
  · rw [has.identifier_error_iff none]
    constructor
    · intro reading
      cases reading with
      | @invalid digits rest character tail split numeral fits other =>
        exact .inr ⟨digits, character, rest, tail, split, numeral, by omega, other⟩
    · rintro (empty | ⟨digits, character, rest, number, split, numeral, fits, other⟩)
      · exact absurd empty none
      · exact .invalid split numeral (by omega) other

/-- A text with a body is not empty for an identifier. -/
theorem identifier_ne_empty (has : HasBody text.toList body) :
    identifier text ≠ .error .empty := by
  by_cases none : body = []
  · rw [identifier_of_hasBody has, if_pos none]
    simp
  · rw [ne_eq, has.identifier_error_iff none]
    -- A reading finds a number too large or a character that is no digit, and nothing else.
    intro reading
    cases reading

end HasBody

/-- A text that is marks alone is empty for an identifier. -/
theorem identifier_of_marks {text : String} {count : Nat} (split : text.toList = marks count) :
    identifier text = .error .empty := by
  have empty := stripMarks_eq_nil_iff.mpr ⟨count, split⟩
  simp only [identifier, empty]

/-- Marks, perhaps a plus sign, and digits are a text whose body is the digits. -/
theorem hasBody_of_numeral (count : Nat) {sign digits : List Char} {number : Nat}
    (signed : sign = [] ∨ sign = ['+']) (some : digits ≠ []) (numeral : Numeral digits number) :
    HasBody (marks count ++ (sign ++ digits)) digits := by
  rcases signed with rfl | rfl
  · refine .unsigned count some (Numeral.unmarked numeral) ?_
    -- A sign is no digit either.
    rintro ⟨rest, rfl⟩
    have other : ∀ digit < 16, ¬ IsDigit '+' digit := by decide
    obtain ⟨digit, _, isDigit, _⟩ := numeral_cons_iff.mp numeral
    exact other digit isDigit.small isDigit
  · exact .signed count digits

/--
A text is an identifier exactly if it is marks, perhaps a plus sign, and digits that fit 16 bits.

A text that is marks alone is empty. Otherwise its body is what is behind the marks and the sign.
If the digits that a body begins with make a number too large for 16 bits, the text is refused for
that; if they do not, and what follows them is no digit or nothing is there at all, it is refused
for that.
-/
theorem identifier_reads_language (text : String) :
    (∀ number : UInt16, identifier text = .ok number ↔
        ∃ count sign digits, text.toList = marks count ++ (sign ++ digits) ∧
          (sign = [] ∨ sign = ['+']) ∧ digits ≠ [] ∧ Numeral digits number.toNat) ∧
      (identifier text = .error .empty ↔ ∃ count, text.toList = marks count) ∧
      (identifier text = .error .overflow ↔
        ∃ body, HasBody text.toList body ∧ ∃ digits rest number, body = digits ++ rest ∧
          Numeral digits number ∧ 65535 < number) ∧
      (identifier text = .error .invalidDigit ↔
        ∃ body, HasBody text.toList body ∧
          (body = [] ∨ ∃ digits character rest number, body = digits ++ character :: rest ∧
            Numeral digits number ∧ number ≤ 65535 ∧ ∀ digit, ¬ IsDigit character digit)) := by
  -- Only marks alone are empty, so that a text with another outcome has a body.
  have body_of_ne (other : identifier text ≠ .error .empty) :
      ∃ body, HasBody text.toList body := by
    rcases hasBody_or_marks text.toList with has | ⟨count, split⟩
    · exact has
    · exact absurd (identifier_of_marks split) other
  refine ⟨fun number => ⟨?_, ?_⟩, ⟨?_, ?_⟩, ⟨?_, ?_⟩, ⟨?_, ?_⟩⟩
  · intro read
    obtain ⟨body, has⟩ := body_of_ne (by simp [read])
    obtain ⟨some, numeral⟩ := has.identifier_ok_iff.mp read
    generalize text.toList = characters at has ⊢
    cases has with
    | signed count body => exact ⟨count, ['+'], body, rfl, .inr rfl, some, numeral⟩
    | unsigned count => exact ⟨count, [], body, rfl, .inl rfl, some, numeral⟩
  · -- The digits are the body, whether or not there is a sign in front.
    rintro ⟨count, sign, digits, split, signed, some, numeral⟩
    have has : HasBody text.toList digits := split ▸ hasBody_of_numeral count signed some numeral
    exact has.identifier_ok_iff.mpr ⟨some, numeral⟩
  · -- A text with a body is refused for something else, if it is refused at all.
    intro empty
    rcases hasBody_or_marks text.toList with ⟨body, has⟩ | marked
    · exact absurd empty has.identifier_ne_empty
    · exact marked
  · rintro ⟨count, split⟩
    exact identifier_of_marks split
  · intro refused
    obtain ⟨body, has⟩ := body_of_ne (by simp [refused])
    exact ⟨body, has, has.identifier_overflow_iff.mp refused⟩
  · rintro ⟨body, has, large⟩
    exact has.identifier_overflow_iff.mpr large
  · intro refused
    obtain ⟨body, has⟩ := body_of_ne (by simp [refused])
    exact ⟨body, has, has.identifier_invalidDigit_iff.mp refused⟩
  · rintro ⟨body, has, other⟩
    exact has.identifier_invalidDigit_iff.mpr other

example : identifier "0x0x+00090cC" = .ok 0x90CC := by cbv

example : identifier "12345g" = .error .overflow := by cbv

end Ccid.Cli

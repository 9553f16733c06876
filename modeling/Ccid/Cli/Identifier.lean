import Ccid.Numeral

/-! The identifiers of readers as the command line takes them: hexadecimal, with a mark or without. -/

namespace Ccid.Cli

/-- Why a text is no identifier. -/
inductive IdentifierError where
  /-- Nothing is left once the marks are taken away. -/
  | empty
  | invalidDigit
  /-- The number needs more than 16 bits. -/
  | overflow
  deriving DecidableEq, Repr

/-- What is wrong, in words. -/
def IdentifierError.message : IdentifierError → String
  | .empty => "cannot parse integer from empty string"
  | .invalidDigit => "invalid digit found in string"
  | .overflow => "number too large to fit in target type"

/-- A text without the marks `0x` that it begins with, however many they are. -/
def stripMarks : List Char → List Char
  | '0' :: 'x' :: rest => stripMarks rest
  | text => text

/-- A text without the one plus sign that it may begin with. -/
def stripPlus : List Char → List Char
  | '+' :: rest => rest
  | text => text

/-- The number that digits denote after those already read; the first problem counts. -/
def readIdentifier (value : Nat) : List Char → Except IdentifierError Nat
  | [] => .ok value
  | character :: rest =>
    match hexValue? character with
    | none => .error .invalidDigit
    | some digit =>
      if 16 * value + digit < UInt16.size then readIdentifier (16 * value + digit) rest
      else .error .overflow

/-- The identifier that a text denotes. -/
def identifier (text : String) : Except IdentifierError UInt16 :=
  match stripMarks text.toList with
  | [] => .error .empty
  | unmarked =>
    match stripPlus unmarked with
    | [] => .error .invalidDigit
    | digits => (readIdentifier 0 digits).map UInt16.ofNat

end Ccid.Cli

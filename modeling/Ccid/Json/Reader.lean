import Ccid.Json.Basic
import Ccid.Numeral

/-!
JSON text read as a value.

A number is whole when it is written without fraction and exponent, is not minus zero, and fits
64 bits; every other number is kept as written. Of members with one name the last counts.
-/

namespace Ccid.Json.Reader

/-- Whether a character separates tokens. -/
def isBlank (character : Char) : Bool :=
  character == ' ' || character == '\t' || character == '\n' || character == '\r'

/-- The text from its first character that is no blank. -/
def skipBlanks (text : List Char) : List Char :=
  text.dropWhile isBlank

/-- The 16-bit unit that four hexadecimal digits denote. -/
def unit? (first second third fourth : Char) : Option Nat := do
  let first ← hexValue? first
  let second ← hexValue? second
  let third ← hexValue? third
  let fourth ← hexValue? fourth
  return ((first * 16 + second) * 16 + third) * 16 + fourth

/-- The code that a one-letter escape stands for. -/
def escapeCode? (letter : Char) : Option Nat :=
  if letter == '"' || letter == '\\' || letter == '/' then some letter.toNat
  else if letter == 'b' then some 8
  else if letter == 'f' then some 12
  else if letter == 'n' then some 10
  else if letter == 'r' then some 13
  else if letter == 't' then some 9
  else none

/-- The codes of a quoted text after its opening quote, and the text after its closing quote. -/
def quotedCodes? : List Char → Option (List Nat × List Char)
  | [] => none
  | character :: rest =>
    if character == '"' then some ([], rest)
    else if character == '\\' then
      match rest with
      | [] => none
      | letter :: afterLetter =>
        if letter == 'u' then
          match afterLetter with
          | first :: second :: third :: fourth :: afterUnit => do
            let code ← unit? first second third fourth
            let (codes, remaining) ← quotedCodes? afterUnit
            return (code :: codes, remaining)
          | _ => none
        else do
          let code ← escapeCode? letter
          let (codes, remaining) ← quotedCodes? afterLetter
          return (code :: codes, remaining)
    else if character.toNat < 32 then none
    else do
      let (codes, remaining) ← quotedCodes? rest
      return (character.toNat :: codes, remaining)

/-- The characters of codes, where two surrogate halves make one and a lone half makes none. -/
def characters? : List Nat → Option (List Char)
  | [] => some []
  | code :: rest =>
    if 0xD800 ≤ code ∧ code < 0xDC00 then
      match rest with
      | low :: others =>
        if 0xDC00 ≤ low ∧ low < 0xE000 then do
          let characters ← characters? others
          return Char.ofNat (0x10000 + (code - 0xD800) * 0x400 + (low - 0xDC00)) :: characters
        else none
      | [] => none
    else if 0xDC00 ≤ code ∧ code < 0xE000 then none
    else do
      let characters ← characters? rest
      return Char.ofNat code :: characters

/-- The quoted text after an opening quote, and what follows it. -/
def quoted? (text : List Char) : Option (String × List Char) := do
  let (codes, remaining) ← quotedCodes? text
  let characters ← characters? codes
  return (String.ofList characters, remaining)

/-- Whether a character may stand in a number. -/
def isNumeric (character : Char) : Bool :=
  character.isDigit || character == '-' || character == '+' || character == '.'
    || character == 'e' || character == 'E'

/-- The digits that a text opens with, if there are any, and what follows them. -/
def someDigits? (text : List Char) : Option (List Char × List Char) :=
  let digits := text.takeWhile Char.isDigit
  if digits.isEmpty then none else some (digits, text.dropWhile Char.isDigit)

/-- The text after an optional fraction. -/
def skipFraction? : List Char → Option (List Char)
  | '.' :: rest => (someDigits? rest).map Prod.snd
  | text => some text

/-- The text after an optional exponent. -/
def skipExponent? : List Char → Option (List Char)
  | [] => some []
  | mark :: rest =>
    if mark == 'e' || mark == 'E' then
      match rest with
      | '+' :: digits => (someDigits? digits).map Prod.snd
      | '-' :: digits => (someDigits? digits).map Prod.snd
      | digits => (someDigits? digits).map Prod.snd
    else some (mark :: rest)

/-- The number that a literal denotes. -/
def number? (literal : List Char) : Option Json := do
  let (negative, magnitude) := match literal with
    | '-' :: rest => (true, rest)
    | text => (false, text)
  let (digits, afterDigits) ← someDigits? magnitude
  -- A leading zero stands alone.
  if digits.head? == some '0' && digits.length != 1 then none
  let afterFraction ← skipFraction? afterDigits
  let afterExponent ← skipExponent? afterFraction
  if !afterExponent.isEmpty then none
  let value := Nat.ofDigitChars 10 digits 0
  let whole : Int := if negative then -Int.ofNat value else Int.ofNat value
  if !afterDigits.isEmpty || (negative && value == 0) || whole < Int64.minValue.toInt || whole ≥ UInt64.size then
    return .real (String.ofList literal)
  return .int whole

/-- The text after a word that it has to open with. -/
def afterWord? (word : String) (text : List Char) : Option (List Char) :=
  if word.toList.isPrefixOf text then some (text.drop word.length) else none

/-- Members with one more before them, unless a later member has its name. -/
def consMember (name : String) (value : Json) (members : List (String × Json)) :
    List (String × Json) :=
  if members.any (fun member => member.1 == name) then members else (name, value) :: members

mutual

/-- The value that a text opens with, and what follows it, in at most the given number of turns. -/
def value? : Nat → List Char → Option (Json × List Char)
  | 0, _ => none
  | turns + 1, text =>
    match skipBlanks text with
    | [] => none
    | character :: rest =>
      if character == '"' then do
        let (content, remaining) ← quoted? rest
        return (.str content, remaining)
      else if character == '[' then
        match skipBlanks rest with
        | ']' :: remaining => some (.arr [], remaining)
        | _ => do
          let (items, remaining) ← items? turns rest
          return (.arr items, remaining)
      else if character == '\x7b' then
        match skipBlanks rest with
        | '\x7d' :: remaining => some (.obj [], remaining)
        | _ => do
          let (members, remaining) ← members? turns rest
          return (.obj members, remaining)
      else if character == 't' then (afterWord? "rue" rest).map ((.bool true, ·))
      else if character == 'f' then (afterWord? "alse" rest).map ((.bool false, ·))
      else if character == 'n' then (afterWord? "ull" rest).map ((.null, ·))
      else do
        let literal := (character :: rest).takeWhile isNumeric
        let number ← number? literal
        return (number, (character :: rest).dropWhile isNumeric)

/-- The items of an array up to its closing bracket. -/
def items? : Nat → List Char → Option (List Json × List Char)
  | 0, _ => none
  | turns + 1, text => do
    let (item, afterItem) ← value? turns text
    match skipBlanks afterItem with
    | ']' :: remaining => some ([item], remaining)
    | ',' :: rest => do
      let (items, remaining) ← items? turns rest
      return (item :: items, remaining)
    | _ => none

/-- The members of an object up to its closing brace. -/
def members? : Nat → List Char → Option (List (String × Json) × List Char)
  | 0, _ => none
  | turns + 1, text =>
    match skipBlanks text with
    | '"' :: afterQuote => do
      let (name, afterName) ← quoted? afterQuote
      match skipBlanks afterName with
      | ':' :: afterColon => do
        let (value, afterValue) ← value? turns afterColon
        match skipBlanks afterValue with
        | '\x7d' :: remaining => some ([(name, value)], remaining)
        | ',' :: rest => do
          let (members, remaining) ← members? turns rest
          return (consMember name value members, remaining)
        | _ => none
      | _ => none
    | _ => none

end

end Reader

/-- The value that a text denotes, blanks around it aside. -/
def ofText? (text : String) : Option Json := do
  let characters := text.toList
  -- Every turn but the last takes a character, so two for each character are enough.
  let (value, remaining) ← Reader.value? (2 * characters.length + 2) characters
  if (Reader.skipBlanks remaining).isEmpty then some value else none

end Ccid.Json

import Ccid.Json.Basic
import Ccid.Hex

/-! JSON values as text: on one line, or with a line and an indent for every item. -/

namespace Ccid.Json

/-- A character as it stands inside a quoted text. -/
def escaped (character : Char) : String :=
  let code := character.toNat
  if code = 34 then "\\\""
  else if code = 92 then "\\\\"
  else if code = 8 then "\\b"
  else if code = 9 then "\\t"
  else if code = 10 then "\\n"
  else if code = 12 then "\\f"
  else if code = 13 then "\\r"
  else if code < 32 then "\\u00" ++ Hex.lower [UInt8.ofNat code]
  else String.singleton character

/-- A text in double quotes. -/
def quoted (text : String) : String :=
  "\"" ++ String.join (text.toList.map escaped) ++ "\""

/-- A line break and the indent of a nesting depth. -/
def lineBreak (depth : Nat) : String :=
  "\n" ++ String.ofList (List.replicate (2 * depth) ' ')

/-- The text of a value that has no parts. -/
def scalarText : Json → String
  | .null => "null"
  | .bool true => "true"
  | .bool false => "false"
  | .int value => value.repr
  | .real literal => literal
  | .str text => quoted text
  | .arr _ => "[]"
  | .obj _ => "\x7b\x7d"

mutual

/-- A value on one line, without blanks. -/
def compact : Json → String
  | .arr items => "[" ++ String.intercalate "," (compactItems items) ++ "]"
  | .obj members => "\x7b" ++ String.intercalate "," (compactMembers members) ++ "\x7d"
  | value => scalarText value

/-- The items of an array, each on one line. -/
def compactItems : List Json → List String
  | [] => []
  | item :: rest => compact item :: compactItems rest

/-- The members of an object, each on one line. -/
def compactMembers : List (String × Json) → List String
  | [] => []
  | (name, value) :: rest => (quoted name ++ ":" ++ compact value) :: compactMembers rest

end

mutual

/-- A value at a nesting depth, with a line for every item and member below it. -/
def prettyAt (depth : Nat) : Json → String
  | .arr [] => "[]"
  | .arr items =>
    "[" ++ lineBreak (depth + 1)
      ++ String.intercalate ("," ++ lineBreak (depth + 1)) (prettyItems (depth + 1) items)
      ++ lineBreak depth ++ "]"
  | .obj [] => "\x7b\x7d"
  | .obj members =>
    "\x7b" ++ lineBreak (depth + 1)
      ++ String.intercalate ("," ++ lineBreak (depth + 1)) (prettyMembers (depth + 1) members)
      ++ lineBreak depth ++ "\x7d"
  | value => scalarText value

/-- The items of an array at a nesting depth. -/
def prettyItems (depth : Nat) : List Json → List String
  | [] => []
  | item :: rest => prettyAt depth item :: prettyItems depth rest

/-- The members of an object at a nesting depth. -/
def prettyMembers (depth : Nat) : List (String × Json) → List String
  | [] => []
  | (name, value) :: rest =>
    (quoted name ++ ": " ++ prettyAt depth value) :: prettyMembers depth rest

end

/-- A value with a line for every item and member, indented by two blanks a level. -/
def pretty (value : Json) : String :=
  prettyAt 0 value

end Ccid.Json

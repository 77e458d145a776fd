import ClassDiagram.Json.Basic

/-!
# Writing JSON

`Json.pretty` writes one item or member to a line and indents by two blanks.
Only quotes, backslashes and control characters are escaped.
-/

namespace ClassDiagram.Json

/-! ## Strings -/

/-- A digit of base sixteen. -/
def hexDigit (n : Nat) : Char := Char.ofNat (if n < 10 then 48 + n else 87 + n)

/-- A character as it stands in a string literal. -/
def escapeChar (c : Char) : List Char :=
  if c = '"' then ['\\', '"']
  else if c = '\\' then ['\\', '\\']
  else if c.toNat = 8 then ['\\', 'b']
  else if c = '\t' then ['\\', 't']
  else if c = '\n' then ['\\', 'n']
  else if c.toNat = 12 then ['\\', 'f']
  else if c = '\r' then ['\\', 'r']
  else if c.toNat < 32 then
    ['\\', 'u', '0', '0', hexDigit (c.toNat / 16), hexDigit (c.toNat % 16)]
  else [c]

/-- A string literal. -/
def literal (s : String) : String := "\"" ++ .ofList (s.toList.flatMap escapeChar) ++ "\""

/-! ## Values -/

/-- The start of a line at a depth. -/
def newLine (depth : Nat) : String := "\n" ++ .ofList (List.replicate (2 * depth) ' ')

mutual

/-- A value whose lines after the first stand at a depth. -/
def prettyAt (depth : Nat) : Json String → String
  | .null => "null"
  | .bool true => "true"
  | .bool false => "false"
  | .number digits => digits
  | .string text => literal text
  | .array [] => "[]"
  | .array (item :: items) =>
      "[" ++ newLine (depth + 1) ++ prettyAt (depth + 1) item
        ++ prettyItems (depth + 1) items ++ newLine depth ++ "]"
  | .object [] => "\x7b\x7d"
  | .object ((key, value) :: members) =>
      "\x7b" ++ newLine (depth + 1) ++ literal key ++ ": " ++ prettyAt (depth + 1) value
        ++ prettyMembers (depth + 1) members ++ newLine depth ++ "\x7d"

/-- The items of an array after the first. -/
def prettyItems (depth : Nat) : List (Json String) → String
  | [] => ""
  | item :: items => "," ++ newLine depth ++ prettyAt depth item ++ prettyItems depth items

/-- The members of an object after the first. -/
def prettyMembers (depth : Nat) : List (String × Json String) → String
  | [] => ""
  | (key, value) :: members =>
      "," ++ newLine depth ++ literal key ++ ": " ++ prettyAt depth value
        ++ prettyMembers depth members

end

/-- A value over several lines. -/
def pretty (value : Json String) : String := prettyAt 0 value

end ClassDiagram.Json

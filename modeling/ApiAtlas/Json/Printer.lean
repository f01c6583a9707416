import ApiAtlas.Json.Basic

/-!
# Writing JSON

Two layouts of a JSON value: on one line without blanks, and indented by two spaces with one member
or item to a line. Strings escape the quote, the backslash and control characters only.
-/

namespace ApiAtlas.Json

/-- Numbers use a power of ten from `1e16` on and below `1e-5`, and a positive exponent has its
sign. -/
def layout : Decimal.Layout where
  maxPoint := 16
  minPoint := -5
  plus := "+"

/-- The text of a number. -/
def Number.text : Number → String
  | .int value => toString value
  | .real value => Decimal.write layout value

/-- A hexadecimal digit. -/
def hexDigit (n : Nat) : Char :=
  (Nat.digitChar n)

/-- The characters that stand for one character inside a string. -/
def escapeChar (c : Char) : List Char :=
  if c == '"' then ['\\', '"']
  else if c == '\\' then ['\\', '\\']
  else if c == '\n' then ['\\', 'n']
  else if c == '\r' then ['\\', 'r']
  else if c == '\t' then ['\\', 't']
  else if c.toNat == 0x08 then ['\\', 'b']
  else if c.toNat == 0x0C then ['\\', 'f']
  else if c.toNat < 0x20 then ['\\', 'u', '0', '0', hexDigit (c.toNat / 16), hexDigit (c.toNat % 16)]
  else [c]

/-- A string in quotes. -/
def quote (s : String) : String :=
  "\"" ++ String.ofList (s.toList.flatMap escapeChar) ++ "\""

mutual

/-- A value on one line. -/
def compact : Json → String
  | .null => "null"
  | .bool true => "true"
  | .bool false => "false"
  | .number value => value.text
  | .string value => quote value
  | .array [] => "[]"
  | .array (item :: rest) => "[" ++ compact item ++ compactItems rest
  | .object [] => "\x7b\x7d"
  | .object ((key, value) :: rest) =>
    "\x7b" ++ quote key ++ ":" ++ compact value ++ compactMembers rest

/-- The items after the first, and the closing bracket. -/
def compactItems : List Json → String
  | [] => "]"
  | item :: rest => "," ++ compact item ++ compactItems rest

/-- The members after the first, and the closing brace. -/
def compactMembers : List (String × Json) → String
  | [] => "\x7d"
  | (key, value) :: rest => "," ++ quote key ++ ":" ++ compact value ++ compactMembers rest

end

/-- A new line indented by a number of levels. -/
def newline (level : Nat) : String :=
  String.ofList ('\n' :: List.replicate (2 * level) ' ')

mutual

/-- A value with its parts indented. -/
def prettyAt (level : Nat) : Json → String
  | .null => "null"
  | .bool true => "true"
  | .bool false => "false"
  | .number value => value.text
  | .string value => quote value
  | .array [] => "[]"
  | .array (item :: rest) =>
    "[" ++ newline (level + 1) ++ prettyAt (level + 1) item ++ prettyItems level rest
  | .object [] => "\x7b\x7d"
  | .object ((key, value) :: rest) =>
    "\x7b" ++ newline (level + 1) ++ quote key ++ ": " ++ prettyAt (level + 1) value ++
      prettyMembers level rest

/-- The items after the first, and the closing bracket. -/
def prettyItems (level : Nat) : List Json → String
  | [] => newline level ++ "]"
  | item :: rest =>
    "," ++ newline (level + 1) ++ prettyAt (level + 1) item ++ prettyItems level rest

/-- The members after the first, and the closing brace. -/
def prettyMembers (level : Nat) : List (String × Json) → String
  | [] => newline level ++ "\x7d"
  | (key, value) :: rest =>
    "," ++ newline (level + 1) ++ quote key ++ ": " ++ prettyAt (level + 1) value ++
      prettyMembers level rest

end

/-- A value over several lines. -/
def pretty (json : Json) : String :=
  json.prettyAt 0

end ApiAtlas.Json

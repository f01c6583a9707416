import ApiAtlas.Json.Printer
import ApiAtlas.Yaml.Style

/-!
# Writing YAML

A value in block style, one member or item to a line, indented by two spaces. The items of a list
under a key stand under the key itself. A key that is long or has several lines is marked by a
question mark.
-/

namespace ApiAtlas.Yaml

/-- Numbers are written as in JSON, but a positive exponent has no sign. -/
def layout : Decimal.Layout :=
  { Json.layout with plus := "" }

/-- The text of a number. -/
def numberText : Json.Number → String
  | .int value => toString value
  | .real value => Decimal.write layout value

/-- Whether a key fits before its colon. -/
def isShortKey (key : String) : Bool :=
  !key.toList.any isBreak && key.utf8ByteSize ≤ 128

mutual

/-- A value after its key and colon, in a mapping at the given indentation. -/
def afterKey (indent : Nat) : Json → List Char
  | .null => " null\n".toList
  | .bool value => (if value then " true\n" else " false\n").toList
  | .number value => ' ' :: (numberText value).toList ++ ['\n']
  | .string value => ' ' :: scalarLine (indent + 2) value
  | .array [] => " []\n".toList
  | .array (first :: rest) => '\n' :: pad indent ++ '-' :: afterMark indent first ++ items indent rest
  | .object [] => " \x7b\x7d\n".toList
  | .object (first :: rest) =>
    '\n' :: pad (indent + 2) ++ member (indent + 2) first ++ members (indent + 2) rest

/-- A value after the mark of an item at the given indentation; what it holds begins on the same
line. -/
def afterMark (indent : Nat) : Json → List Char
  | .null => " null\n".toList
  | .bool value => (if value then " true\n" else " false\n").toList
  | .number value => ' ' :: (numberText value).toList ++ ['\n']
  | .string value => ' ' :: scalarLine (indent + 2) value
  | .array [] => " []\n".toList
  | .array (first :: rest) => " -".toList ++ afterMark (indent + 2) first ++ items (indent + 2) rest
  | .object [] => " \x7b\x7d\n".toList
  | .object (first :: rest) => ' ' :: member (indent + 2) first ++ members (indent + 2) rest

/-- A member of a mapping, without the indentation of its first line. -/
def member (indent : Nat) : String × Json → List Char
  | (key, value) =>
    if isShortKey key then scalarText (indent + 2) key ++ ':' :: afterKey indent value
    else "? ".toList ++ scalarLine (indent + 2) key ++ pad indent ++ ':' :: afterMark indent value

/-- The items of a list, each on lines of its own. -/
def items (indent : Nat) : List Json → List Char
  | [] => []
  | item :: rest => pad indent ++ '-' :: afterMark indent item ++ items indent rest

/-- The members of a mapping, each on lines of its own. -/
def members (indent : Nat) : List (String × Json) → List Char
  | [] => []
  | first :: rest => pad indent ++ member indent first ++ members indent rest

end

/-- A value as a YAML document. -/
def document (json : Json) : String :=
  String.ofList <|
    match json with
    | .array (first :: rest) => items 0 (first :: rest)
    | .object (first :: rest) => members 0 (first :: rest)
    | other => (afterMark 0 other).drop 1

end ApiAtlas.Yaml

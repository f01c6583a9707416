/-!
# Replacing parts of a text

Every occurrence of a pattern is replaced from left to right, and what was put in is not looked at
again.
-/

namespace ApiAtlas.Text

/-- Replaces the occurrences of a pattern, after skipping a number of characters. -/
def replaceFrom (pattern value : List Char) : (skip : Nat) → List Char → List Char
  | _, [] => []
  | skip + 1, _ :: rest => replaceFrom pattern value skip rest
  | 0, c :: rest =>
    if pattern.isPrefixOf (c :: rest) then
      value ++ replaceFrom pattern value (pattern.length - 1) rest
    else c :: replaceFrom pattern value 0 rest

/-- A text with every occurrence of a pattern replaced. -/
def replaced (pattern value text : String) : String :=
  String.ofList (replaceFrom pattern.toList value.toList 0 text.toList)

end ApiAtlas.Text

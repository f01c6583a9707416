import ApiAtlas.Text.Depth

/-!
# The tokens of a directive

A directive is a text such as `required,email,max=255`. Bars outside parentheses cut it into groups,
commas outside parentheses cut a group into tokens, and a token is a name with an optional value
after its first equals sign.
-/

namespace ApiAtlas.Directive

open Text

/-- One token of a directive. -/
structure Token where
  name : String
  value : Option String
  deriving DecidableEq, Repr

/-- How a character changes the depth of parentheses. -/
def parenChange (c : Char) : Int :=
  if c == '(' then 1 else if c == ')' then -1 else 0

/-- The trimmed pieces of a text between the separators outside parentheses. -/
def splitOutside (sep : Char) (cs : List Char) : List (List Char) :=
  trimmedPieces parenChange sep cs

/-- Reads a token from its trimmed text. -/
def Token.ofChars (cs : List Char) : Token :=
  match cs.dropWhile (· != '=') with
  | [] => ⟨String.ofList cs, none⟩
  | _ :: value =>
    ⟨String.ofList (trim (cs.takeWhile (· != '='))), some (String.ofList (trim value))⟩

/-- The tokens of one group; empty pieces are dropped. -/
def tokens (group : List Char) : List Token :=
  ((splitOutside ',' group).filter fun piece ↦ !piece.isEmpty).map Token.ofChars

/-- The groups of a directive. -/
def groups (directive : List Char) : List (List Char) :=
  splitOutside '|' directive

/-- Whether a directive makes its field required: some token is `required` and none `omitempty`. -/
def isRequired (directive : String) : Bool :=
  let names := ((groups directive.toList).flatMap tokens).map Token.name
  names.contains "required" && !names.contains "omitempty"

end ApiAtlas.Directive

import ApiAtlas.Text.LetterCase
import ApiAtlas.Text.Split

/-!
# Names in different spellings

A name written as `HTTPRequest`, `http_request` or `http-request` is the same sequence of words.
`snake` finds the words and joins them with underscores; the other spellings start from it. A
renaming rule, as attributes on a type give it, chooses one spelling for the names on the wire.
-/

namespace ApiAtlas.Naming

open Text

/-- Whether a word starts at a capital, seen between the characters before and after it: after a
small letter or a digit it always does, and inside a run of capitals only if a small letter follows. -/
def startsWord (before after : Option Char) : Bool :=
  match before with
  | none => false
  | some p =>
    if isLowercase p || p.isDigit then true
    else isUppercase p && (after.map isLowercase).getD false

/-- Spells the rest of a name in snake case. `before` is the preceding character of the name, and
`marked` tells whether the output so far ends with an underscore. -/
def snakeFrom (before : Option Char) (marked : Bool) : List Char → List Char
  | [] => []
  | c :: rest =>
    if c == '-' || c == ' ' then
      (if marked then [] else ['_']) ++ snakeFrom (some c) true rest
    else if isUppercase c then
      (if startsWord before rest.head? && !marked then ['_'] else []) ++
        (lowerChar c ++ snakeFrom (some c) false rest)
    else
      c :: snakeFrom (some c) (c == '_') rest

/-- A name in `snake_case`; runs of capitals stay together. -/
def snakeChars (cs : List Char) : List Char :=
  snakeFrom none false cs

/-- A word with its first character as a capital. -/
def capitalized : List Char → List Char
  | [] => []
  | c :: rest => upperChar c ++ rest

/-- A name in `PascalCase`. -/
def pascalChars (cs : List Char) : List Char :=
  (splitOn '_' (snakeChars cs)).flatMap capitalized

/-- A name in `camelCase`. -/
def camelChars (cs : List Char) : List Char :=
  match pascalChars cs with
  | [] => []
  | c :: rest => lowerChar c ++ rest

/-- A name in `snake_case`. -/
def snake (s : String) : String :=
  String.ofList (snakeChars s.toList)

/-- A name in `PascalCase`. -/
def pascal (s : String) : String :=
  String.ofList (pascalChars s.toList)

/-- A name in `camelCase`. -/
def camel (s : String) : String :=
  String.ofList (camelChars s.toList)

/-- The spellings that an attribute on a type may ask for. -/
inductive RenameRule
  | lower
  | upper
  | pascal
  | camel
  | snake
  | screamingSnake
  | kebab
  | screamingKebab
  deriving DecidableEq, Repr

namespace RenameRule

/-- The name under which an attribute selects a rule. -/
def name : RenameRule → String
  | .lower => "lowercase"
  | .upper => "UPPERCASE"
  | .pascal => "PascalCase"
  | .camel => "camelCase"
  | .snake => "snake_case"
  | .screamingSnake => "SCREAMING_SNAKE_CASE"
  | .kebab => "kebab-case"
  | .screamingKebab => "SCREAMING-KEBAB-CASE"

/-- All rules. -/
def all : List RenameRule :=
  [.lower, .upper, .pascal, .camel, .snake, .screamingSnake, .kebab, .screamingKebab]

/-- The rule with a given name. -/
def ofName? (s : String) : Option RenameRule :=
  all.find? fun rule ↦ rule.name == s

/-- Replaces underscores by hyphens. -/
def hyphenated (cs : List Char) : List Char :=
  cs.map fun c ↦ if c == '_' then '-' else c

/-- Spells an identifier as a rule says. -/
def applyChars (rule : RenameRule) (cs : List Char) : List Char :=
  match rule with
  | .lower => Text.lower cs
  | .upper => Text.upper cs
  | .pascal => pascalChars cs
  | .camel => camelChars cs
  | .snake => snakeChars cs
  | .screamingSnake => Text.upper (snakeChars cs)
  | .kebab => hyphenated (snakeChars cs)
  | .screamingKebab => Text.upper (hyphenated (snakeChars cs))

/-- Spells an identifier as a rule says. -/
def apply (rule : RenameRule) (ident : String) : String :=
  String.ofList (rule.applyChars ident.toList)

end RenameRule

/-- Renames an identifier by a rule given by name; an unknown name changes nothing. -/
def renameBy (rule ident : String) : String :=
  match RenameRule.ofName? rule with
  | some known => known.apply ident
  | none => ident

end ApiAtlas.Naming

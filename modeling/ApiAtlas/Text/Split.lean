import ApiAtlas.Text.Blank

/-!
# Cutting texts apart

Pieces of a text between separators, and the tests and cuts at its two ends that the readers of
types, paths and directives share.
-/

namespace ApiAtlas.Text

/-- The pieces of a list between the elements that satisfy a test; there is always at least one. -/
def splitWhere {α : Type} (p : α → Bool) : List α → List (List α)
  | [] => [[]]
  | a :: rest =>
    if p a then [] :: splitWhere p rest
    else
      match splitWhere p rest with
      | piece :: pieces => (a :: piece) :: pieces
      | [] => [[a]]

/-- The pieces of a text between the occurrences of a character. -/
def splitOn (sep : Char) (cs : List Char) : List (List Char) :=
  splitWhere (· == sep) cs

/-- The text before the first pair of colons. -/
def untilColons : List Char → List Char
  | [] => []
  | ':' :: ':' :: _ => []
  | c :: rest => c :: untilColons rest

/-- The last segment of a path: the text after the last pair of colons. -/
def afterColons (cs : List Char) : List Char :=
  (untilColons cs.reverse).reverse

/-- The rest of a text that begins with the given characters. -/
def dropLead? : List Char → List Char → Option (List Char)
  | [], cs => some cs
  | _ :: _, [] => none
  | p :: ps, c :: cs => if p == c then dropLead? ps cs else none

/-- The text before a final character, if it ends with that character. -/
def dropFinal? (c : Char) (cs : List Char) : Option (List Char) :=
  if cs.getLast? = some c then some cs.dropLast else none

/-- Drops every occurrence of a character at the start of a text. -/
def trimLead (c : Char) (cs : List Char) : List Char :=
  cs.dropWhile (· == c)

/-- Drops every occurrence of a character at the end of a text. -/
def trimFinal (c : Char) (cs : List Char) : List Char :=
  dropEndWhile (· == c) cs

/-- Joins pieces with a separator between them. -/
def joinWith (sep : List Char) (pieces : List (List Char)) : List Char :=
  sep.intercalate pieces

/-- Writes a natural number in base ten. -/
def decimal (n : Nat) : String :=
  toString n

end ApiAtlas.Text

import ApiAtlas.Text.Split

/-!
# Path templates

Routes write the variable parts of a path as `:id`, `*rest`, `<id>`, `{id}`, `{*rest}` or
`{id:[0-9]+}`. `normalize` gives all of them the form `{id}`, and `params` lists their names.
-/

namespace ApiAtlas.Template

open Text

/-! ## Placeholders -/

/-- Drops pairs of points from the end of a text, given in reverse. -/
def dropDots : List Char → List Char
  | '.' :: '.' :: rest => dropDots rest
  | cs => cs

/-- The name inside a placeholder: without stars before it, a pattern or points after it, and blanks
around it. -/
def placeholderName (cs : List Char) : List Char :=
  let bare := (trimLead '*' cs).takeWhile fun c ↦ c != ':'
  trim (dropDots bare.reverse).reverse

/-- A placeholder in its normal form. -/
def placeholder (cs : List Char) : List Char :=
  '\x7b' :: placeholderName cs ++ ['\x7d']

/-! ## Normal form -/

/-- Where in a path the reader stands. What was seen of a placeholder is kept in reverse. -/
inductive Mode
  /-- In plain text; the flag tells whether a segment starts here. -/
  | text (isStart : Bool)
  /-- In a placeholder between braces, with the number of braces open inside it. -/
  | brace (depth : Nat) (seen : List Char)
  /-- In a placeholder between angle brackets. -/
  | angle (seen : List Char)
  /-- In a placeholder that ends with its segment. -/
  | segment (seen : List Char)

/-- Normalizes the rest of a path. A placeholder that is not closed ends with the path. -/
def normalizeFrom : Mode → List Char → List Char
  | .text _, [] => []
  | .brace _ seen, [] => placeholder seen.reverse
  | .angle seen, [] => placeholder seen.reverse
  | .segment seen, [] => placeholder seen.reverse
  | .text isStart, c :: rest =>
    if c == '\x7b' then normalizeFrom (.brace 0 []) rest
    else if c == '<' then normalizeFrom (.angle []) rest
    else if isStart && (c == ':' || c == '*') then normalizeFrom (.segment []) rest
    else c :: normalizeFrom (.text (c == '/')) rest
  | .brace depth seen, c :: rest =>
    if c == '\x7b' then normalizeFrom (.brace (depth + 1) (c :: seen)) rest
    else if c == '\x7d' then
      match depth with
      | 0 => placeholder seen.reverse ++ normalizeFrom (.text false) rest
      | depth + 1 => normalizeFrom (.brace depth (c :: seen)) rest
    else normalizeFrom (.brace depth (c :: seen)) rest
  | .angle seen, c :: rest =>
    if c == '>' then placeholder seen.reverse ++ normalizeFrom (.text false) rest
    else normalizeFrom (.angle (c :: seen)) rest
  | .segment seen, c :: rest =>
    if c == '/' then placeholder seen.reverse ++ c :: normalizeFrom (.text true) rest
    else normalizeFrom (.segment (c :: seen)) rest

/-- A path with all placeholders in normal form and a slash at its start. -/
def normalizeChars (cs : List Char) : List Char :=
  (if cs.head? = some '/' then [] else ['/']) ++ normalizeFrom (.text true) cs

/-- A path with all placeholders in normal form and a slash at its start. -/
def normalize (path : String) : String :=
  String.ofList (normalizeChars path.toList)

/-! ## Names -/

/-- The name of the first placeholder of a segment. -/
def segmentParam? (segment : List Char) : Option (List Char) :=
  match segment.dropWhile fun c ↦ c != '\x7b' with
  | [] => none
  | _ :: rest =>
    if rest.contains '\x7d' then some (rest.takeWhile fun c ↦ c != '\x7d') else none

/-- The names of the placeholders of a template, one per segment. -/
def params (template : String) : List String :=
  ((splitOn '/' template.toList).filterMap segmentParam?).map String.ofList

end ApiAtlas.Template

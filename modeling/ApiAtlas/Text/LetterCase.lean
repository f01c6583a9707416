import ApiAtlas.Text.LetterTable

/-!
# Letter case

Capitals, small letters and the mappings between them, for single characters and for whole texts.
ASCII characters are decided directly and all others by table. Lower-casing a text treats the
capital sigma by its context: it becomes the final form at the end of a word.
-/

namespace ApiAtlas.Text

/-- Whether a character is a capital. -/
def isUppercase (c : Char) : Bool :=
  if c.toNat < 0x80 then c.isUpper else CodeTable.holds LetterTable.uppercase c.toNat

/-- Whether a character is a small letter. -/
def isLowercase (c : Char) : Bool :=
  if c.toNat < 0x80 then c.isLower else CodeTable.holds LetterTable.lowercase c.toNat

/-- The image of a character beyond ASCII under a case mapping. -/
def mapByTable (shifts : List CodeTable.ShiftRow) (many : List (Nat × List Nat)) (c : Char) :
    List Char :=
  match many.lookup c.toNat with
  | some codes => codes.map Char.ofNat
  | none => [((CodeTable.shift? shifts c.toNat).map Char.ofNat).getD c]

/-- The lower-case form of one character. -/
def lowerChar (c : Char) : List Char :=
  if c.toNat < 0x80 then [c.toLower]
  else mapByTable LetterTable.toLower LetterTable.toLowerMany c

/-- The upper-case form of one character. -/
def upperChar (c : Char) : List Char :=
  if c.toNat < 0x80 then [c.toUpper]
  else mapByTable LetterTable.toUpper LetterTable.toUpperMany c

/-- Whether a character has letter case. -/
def isCased (c : Char) : Bool :=
  if c.toNat < 0x80 then c.isAlpha else CodeTable.holds LetterTable.cased c.toNat

/-- Whether a character is skipped when the context of a letter is looked at. -/
def isCaseIgnorable (c : Char) : Bool :=
  if c.toNat < 0x80 then "'.:^`".toList.contains c
  else CodeTable.holds LetterTable.caseIgnorable c.toNat

/-- Whether the first character that is not skipped has letter case. -/
def startsCased (cs : List Char) : Bool :=
  match cs.dropWhile isCaseIgnorable with
  | c :: _ => isCased c
  | [] => false

/-- Lower-cases a text, given the characters before it from the nearest one back. -/
def lowerFrom (before : List Char) : List Char → List Char
  | [] => []
  | c :: rest =>
    let image :=
      if c == 'Σ' then
        if startsCased before && !startsCased rest then ['ς'] else ['σ']
      else lowerChar c
    image ++ lowerFrom (c :: before) rest

/-- The lower-case form of a text. -/
def lower (cs : List Char) : List Char :=
  lowerFrom [] cs

/-- The upper-case form of a text. -/
def upper (cs : List Char) : List Char :=
  cs.flatMap upperChar

/-- Lower-cases the ASCII letters of a text and keeps all other characters. -/
def lowerAscii (s : String) : String :=
  s.map Char.toLower

end ApiAtlas.Text

import ApiAtlas.Yaml.Style

/-!
# Places in a YAML text

A cursor is the rest of a text together with the line and column where it begins. The end of a line
is read as one character, however it is spelt.
-/

namespace ApiAtlas.Yaml

/-- A place in a text. -/
structure Cursor where
  rest : List Char
  line : Nat := 0
  column : Nat := 0
  /-- The number of characters before the place. -/
  offset : Nat := 0
  deriving Repr

namespace Cursor

/-- The next character. -/
def peek? (c : Cursor) : Option Char :=
  c.rest.head?

/-- The character after the next one. -/
def second? (c : Cursor) : Option Char :=
  (c.rest.drop 1).head?

/-- The place after a number of characters of the same line. -/
def skip (c : Cursor) (count : Nat) : Cursor :=
  { c with rest := c.rest.drop count, column := c.column + count, offset := c.offset + count }

/-- The start of the next line, after the characters that end the line. -/
def nextLine (c : Cursor) (count : Nat) : Cursor :=
  { rest := c.rest.drop count, line := c.line + 1, column := 0, offset := c.offset + count }

/-- Reads the end of a line as one character. -/
def readBreak? (c : Cursor) : Option (Char × Cursor) :=
  match c.rest with
  | '\r' :: '\n' :: _ => some ('\n', c.nextLine 2)
  | ch :: _ =>
    if ch == '\n' || ch == '\r' || ch.toNat == 0x85 then some ('\n', c.nextLine 1)
    else if isBreak ch then some (ch, c.nextLine 1)
    else none
  | [] => none

/-- Whether the next character is a space or a tab. -/
def atBlank (c : Cursor) : Bool :=
  c.peek? == some ' ' || c.peek? == some '\t'

/-- Whether the line ends here. -/
def atBreak (c : Cursor) : Bool :=
  c.peek?.any isBreak

/-- Whether the text ends here. -/
def atEnd (c : Cursor) : Bool :=
  c.rest.isEmpty

/-- Skips spaces and tabs. -/
def skipBlanks (c : Cursor) : Cursor :=
  c.skip (c.rest.takeWhile fun ch ↦ ch == ' ' || ch == '\t').length

/-- Skips everything up to the end of the line. -/
def skipToBreak (c : Cursor) : Cursor :=
  c.skip (c.rest.takeWhile fun ch ↦ !isBreak ch).length

/-- Whether a line with a mark of three characters and nothing after it in the same word begins
here. -/
def atMark (mark : String) (c : Cursor) : Bool :=
  c.column == 0 && mark.toList.isPrefixOf c.rest && isGap (c.rest.drop 3).head?

/-- Whether a document begins or ends here. -/
def atDocumentMark (c : Cursor) : Bool :=
  c.atMark "---" || c.atMark "..."

end Cursor

/-- Whether a character may stand in a YAML text. -/
def isAllowed (c : Char) : Bool :=
  isWritable c || c == '\t' || c == '\r' || c.toNat == 0x85 || c.toNat == 0xFEFF

end ApiAtlas.Yaml

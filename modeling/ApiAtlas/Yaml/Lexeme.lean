import ApiAtlas.Yaml.Cursor

/-!
# Reading scalars of YAML

The three ways to write a scalar: plain, in quotes, and as a block. Inside the first two, the end of
a line counts as a space and an empty line as the end of a line.
-/

namespace ApiAtlas.Yaml

open Text

/-! ## Gaps between words -/

/-- The blanks and ends of lines between two words. -/
structure Gap where
  /-- The blanks before the end of the line. -/
  blanks : List Char := []
  /-- Whether the line ended. -/
  isBroken : Bool := false
  /-- How the line ended. -/
  first : Option Char := none
  /-- The ends of the empty lines after it. -/
  more : List Char := []

/-- What a gap stands for. -/
def Gap.text (g : Gap) : List Char :=
  if !g.isBroken then g.blanks
  else if g.first == some '\n' then if g.more.isEmpty then [' '] else g.more
  else g.first.toList ++ g.more

/-- Reads a gap. A tab may not stand where the indentation of a later line is expected. -/
def readGap (indent : Int) : (budget : Nat) → Cursor → Gap → Option (Gap × Cursor)
  | 0, _, _ => none
  | budget + 1, c, g =>
    match c.peek? with
    | none => some (g, c)
    | some ch =>
      if ch == ' ' || ch == '\t' then
        if g.isBroken && c.column < indent && ch == '\t' then none
        else
          readGap indent budget (c.skip 1)
            (if g.isBroken then g else { g with blanks := g.blanks ++ [ch] })
      else
        match c.readBreak? with
        | none => some (g, c)
        | some (ending, next) =>
          readGap indent budget next
            (if g.isBroken then { g with more := g.more ++ [ending] }
            else { blanks := [], isBroken := true, first := some ending })

/-! ## Plain scalars -/

/-- The characters that divide flow collections. -/
def flowIndicators : List Char :=
  [',', '[', ']', '\x7b', '\x7d']

/-- Reads the characters of a plain scalar up to a gap or to what ends it. -/
def readWord (inFlow : Bool) : (word : List Char) → List Char → Option (List Char)
  | word, [] => some word.reverse
  | word, ch :: rest =>
    if isGap (some ch) then some word.reverse
    else if inFlow && ch == ':' &&
        rest.head?.any fun c ↦ c == '?' || flowIndicators.contains c then none
    else if (ch == ':' && isGap rest.head?) || (inFlow && flowIndicators.contains ch) then
      some word.reverse
    else readWord inFlow (ch :: word) rest

/-- Reads the words of a plain scalar, with the text so far and the gap before the next word. The
result also says whether the scalar was followed by the end of a line. -/
def readPlain (inFlow : Bool) (indent : Int) :
    (budget : Nat) → (text : List Char) → Gap → Cursor → Option (List Char × Bool × Cursor)
  | 0, _, _, _ => none
  | budget + 1, text, gap, c =>
    if c.atDocumentMark || c.peek? == some '#' then some (text, gap.isBroken, c)
    else
      match readWord inFlow [] c.rest with
      | none => none
      | some word =>
        let (text, gap) := if word.isEmpty then (text, gap) else (text ++ gap.text ++ word, {})
        let after := c.skip word.length
        if !after.atBlank && !after.atBreak then some (text, gap.isBroken, after)
        else
          match readGap indent (after.rest.length + 1) after gap with
          | none => none
          | some (gap, next) =>
            if !inFlow && next.column < indent then some (text, gap.isBroken, next)
            else readPlain inFlow indent budget text gap next

/-! ## Quoted scalars -/

/-- The characters that a letter after a backslash stands for. -/
def escapeLetters : List (Char × Nat) :=
  (' ', 0x20) :: ('/', 0x2F) :: ('\t', 0x09) :: shortEscapes.map fun (code, letter) ↦ (letter, code)

/-- The number of digits after a letter that introduces a code. -/
def codeWidth? (letter : Char) : Option Nat :=
  if letter == 'x' then some 2
  else if letter == 'u' then some 4
  else if letter == 'U' then some 8
  else none

/-- Reads what stands after a backslash, and the number of characters it takes. -/
def unescape? : List Char → Option (Char × Nat)
  | [] => none
  | letter :: rest =>
    match escapeLetters.lookup letter with
    | some code => some (Char.ofNat code, 1)
    | none =>
      (codeWidth? letter).bind fun width ↦
        let digits := rest.take width
        if digits.length < width then none
        else
          (digits? 16 digits).bind fun code ↦
            if code.isValidChar then some (Char.ofNat code, 1 + width) else none

/-- Where a word of a quoted scalar ends. -/
inductive WordEnd
  | quote
  | gap
  | escapedBreak
  deriving DecidableEq

/-- Reads the characters of a quoted scalar up to a gap, the closing quote or a line that goes on. -/
def readQuotedWord (isDouble : Bool) :
    (budget : Nat) → (word : List Char) → Cursor → Option (List Char × WordEnd × Cursor)
  | 0, _, _ => none
  | budget + 1, word, c =>
    match c.rest with
    | [] => some (word.reverse, .gap, c)
    | ch :: rest =>
      if isGap (some ch) then some (word.reverse, .gap, c)
      else if !isDouble && ch == '\'' then
        if rest.head? == some '\'' then readQuotedWord isDouble budget ('\'' :: word) (c.skip 2)
        else some (word.reverse, .quote, c.skip 1)
      else if isDouble && ch == '"' then some (word.reverse, .quote, c.skip 1)
      else if isDouble && ch == '\\' then
        if rest.head?.any isBreak then some (word.reverse, .escapedBreak, c.skip 1)
        else
          match unescape? rest with
          | some (value, count) => readQuotedWord isDouble budget (value :: word) (c.skip (1 + count))
          | none => none
      else readQuotedWord isDouble budget (ch :: word) (c.skip 1)

/-- Reads a quoted scalar after its opening quote. -/
def readQuoted (isDouble : Bool) :
    (budget : Nat) → (text : List Char) → Cursor → Option (List Char × Cursor)
  | 0, _, _ => none
  | budget + 1, text, c =>
    if c.atDocumentMark || c.atEnd then none
    else
      match readQuotedWord isDouble (c.rest.length + 1) [] c with
      | none => none
      | some (word, .quote, next) => some (text ++ word, next)
      | some (word, .gap, next) =>
        (readGap (-1) (next.rest.length + 1) next {}).bind fun (gap, after) ↦
          readQuoted isDouble budget (text ++ word ++ gap.text) after
      | some (word, .escapedBreak, next) =>
        next.readBreak?.bind fun (_, start) ↦
          (readGap (-1) (start.rest.length + 1) start { isBroken := true }).bind fun (gap, after) ↦
            readQuoted isDouble budget (text ++ word ++ gap.text) after

/-! ## Blocks -/

/-- What becomes of the ends of the last lines of a block. -/
inductive Chomp
  | strip
  | clip
  | keep
  deriving DecidableEq

/-- Reads the sign of a block header. -/
def readChomp (c : Cursor) : Option (Chomp × Cursor) :=
  match c.peek? with
  | some '+' => some (.keep, c.skip 1)
  | some '-' => some (.strip, c.skip 1)
  | _ => none

/-- Reads the indentation of a block header, which is not zero. -/
def readIncrement (c : Cursor) : Option (Nat × Cursor) :=
  match c.peek? with
  | some ch => if '1' ≤ ch ∧ ch ≤ '9' then some (ch.toNat - '0'.toNat, c.skip 1) else none
  | none => none

/-- Reads a block header: a sign and an indentation in either order, and an optional comment. -/
def readHeader (c : Cursor) : Option (Chomp × Option Nat × Cursor) :=
  let (chomp, increment, c) :=
    match readChomp c with
    | some (chomp, c) =>
      match readIncrement c with
      | some (n, c) => (chomp, some n, c)
      | none => (chomp, none, c)
    | none =>
      match readIncrement c with
      | some (n, c) =>
        match readChomp c with
        | some (chomp, c) => (chomp, some n, c)
        | none => (.clip, some n, c)
      | none => (.clip, none, c)
  let c := c.skipBlanks
  let c := if c.peek? == some '#' then c.skipToBreak else c
  if c.atEnd then some (chomp, increment, c)
  else c.readBreak?.map fun (_, next) ↦ (chomp, increment, next)

/-- Skips the indentation of a line, up to a column if one is given. -/
def skipIndent (indent : Option Nat) (c : Cursor) : Cursor :=
  let spaces := (c.rest.takeWhile (· == ' ')).length
  match indent with
  | some n => c.skip (min spaces (n - c.column))
  | none => c.skip spaces

/-- Reads empty lines and the indentation after them: the ends of the lines, the largest
indentation, and the place. -/
def readEmptyLines (indent : Option Nat) :
    (budget : Nat) → (ends : List Char) → (widest : Nat) → Cursor → Option (List Char × Nat × Cursor)
  | 0, _, _, _ => none
  | budget + 1, ends, widest, c =>
    let c := skipIndent indent c
    let widest := max widest c.column
    if c.peek? == some '\t' && indent.all fun n ↦ c.column < n then none
    else
      match c.readBreak? with
      | some (ending, next) => readEmptyLines indent budget (ends ++ [ending]) widest next
      | none => some (ends, widest, c)

/-- The state of reading a block. -/
structure Block where
  text : List Char := []
  /-- The end of the line before. -/
  first : Option Char := none
  /-- The ends of the empty lines after it. -/
  more : List Char := []
  /-- Whether the line before began with a blank. -/
  wasBlank : Bool := false

/-- What stands between the line before and the next one. -/
def Block.joint (b : Block) (isLiteral isBlank : Bool) : List Char :=
  if !isLiteral && b.first == some '\n' && !b.wasBlank && !isBlank then
    (if b.more.isEmpty then [' '] else []) ++ b.more
  else b.first.toList ++ b.more

/-- Reads the lines of a block. -/
def readLines (isLiteral : Bool) (indent : Nat) :
    (budget : Nat) → Block → Cursor → Option (Block × Cursor)
  | 0, _, _ => none
  | budget + 1, b, c =>
    if c.column != indent || c.atEnd then some (b, c)
    else
      let isBlank := c.atBlank
      let line := c.rest.takeWhile fun ch ↦ !isBreak ch
      let after := c.skip line.length
      let (ending, start) :=
        match after.readBreak? with
        | some (ending, next) => (some ending, next)
        | none => (none, after)
      match readEmptyLines (some indent) (start.rest.length + 1) [] 0 start with
      | none => none
      | some (more, _, next) =>
        readLines isLiteral indent budget
          { text := b.text ++ b.joint isLiteral isBlank ++ line, first := ending, more := more,
            wasBlank := isBlank } next

/-- Reads a block after its mark, in a collection at the given indentation. -/
def readBlock (isLiteral : Bool) (parent : Int) (c : Cursor) : Option (List Char × Cursor) := do
  let (chomp, increment, start) ← readHeader c
  let given : Option Nat := increment.map fun n ↦ if 0 ≤ parent then parent.toNat + n else n
  let (more, widest, next) ← readEmptyLines given (start.rest.length + 1) [] 0 start
  let indent := given.getD (max widest (max (parent + 1).toNat 1))
  let (b, after) ← readLines isLiteral indent (next.rest.length + 1) { more := more } next
  let tail :=
    match chomp with
    | .strip => []
    | .clip => b.first.toList
    | .keep => b.first.toList ++ b.more
  return (b.text ++ tail, after)

end ApiAtlas.Yaml

import ApiAtlas.Yaml.Lexeme
import ApiAtlas.Yaml.Tag

/-!
# Tokens of YAML

The text is cut into scalars, the marks of flow collections, and the starts and ends of block
collections, which follow from the indentation. A key without a mark is known as one only when its
colon is found; until then the place before it is kept in mind.

Tags are read with the handles declared before them. Anchors are numbered: a new name or a name that
is used again gets the number of different names before it, so two anchors may share a number.
-/

namespace ApiAtlas.Yaml

/-- How a scalar in a text is written. -/
inductive Form
  | plain
  | quoted
  | literal
  | folded
  deriving DecidableEq, Repr

/-- A token. -/
inductive Token
  | version
  | handle
  | documentStart
  | documentEnd
  | sequenceStart
  | mappingStart
  | blockEnd
  | flowSequenceStart
  | flowSequenceEnd
  | flowMappingStart
  | flowMappingEnd
  | entry
  | flowEntry
  | key
  | value
  | anchor (number : Nat)
  | alias (number : Nat)
  | tag (tag : Tag)
  | scalar (form : Form) (text : String)
  deriving DecidableEq, Repr

/-- A place where a key may begin. -/
structure Candidate where
  /-- The number of tokens before it. -/
  index : Nat
  line : Nat
  column : Nat
  offset : Nat
  /-- Whether nothing but a key can stand there. -/
  isRequired : Bool

/-- The state of cutting a text. -/
structure Lexer where
  cursor : Cursor
  tokens : Array Token := #[]
  /-- The indentation of the innermost block collection. -/
  indent : Int := -1
  /-- The indentations of the collections around it. -/
  outer : List Int := []
  /-- The candidates of the flow collections that are open, the innermost first, and of the block
  around them. -/
  candidates : List (Option Candidate) := [none]
  /-- Whether a key may begin here. -/
  allowsKey : Bool := true
  /-- The handles that were declared. -/
  handles : List (String × Tag) := []
  /-- The anchors so far, each name with its last number. -/
  anchors : List (String × Nat) := []

namespace Lexer

/-- Whether a flow collection is open. -/
def inFlow (l : Lexer) : Bool :=
  1 < l.candidates.length

/-- Adds a token. -/
def emit (l : Lexer) (token : Token) : Lexer :=
  { l with tokens := l.tokens.push token }

/-- Adds a token before others. -/
def emitAt (l : Lexer) (index : Nat) (token : Token) : Lexer :=
  { l with tokens := l.tokens.extract 0 index ++ #[token] ++ l.tokens.extract index l.tokens.size }

/-- Goes past characters of the line. -/
def skip (l : Lexer) (count : Nat) : Lexer :=
  { l with cursor := l.cursor.skip count }

/-! ## Indentation -/

/-- Opens a block collection at a column that is farther in. -/
def openBlock (l : Lexer) (column index : Nat) (token : Token) : Lexer :=
  if !l.inFlow && l.indent < column then
    { l.emitAt index token with indent := column, outer := l.indent :: l.outer }
  else l

/-- Closes the block collections that are farther in than a column. -/
def closeBlocks (column : Int) : (outer : List Int) → Lexer → Lexer
  | [], l => l
  | previous :: rest, l =>
    if l.indent > column then
      closeBlocks column rest { l.emit .blockEnd with indent := previous, outer := rest }
    else l

/-- Closes the block collections that do not reach to a column. -/
def closeTo (l : Lexer) (column : Int) : Lexer :=
  if l.inFlow then l else closeBlocks column l.outer l

/-! ## Candidates -/

/-- Gives up the innermost candidate; fails if it had to be a key. -/
def dropCandidate? (l : Lexer) : Option Lexer :=
  match l.candidates with
  | some candidate :: rest =>
    if candidate.isRequired then none else some { l with candidates := none :: rest }
  | _ => some l

/-- Keeps the place as a candidate, if a key may begin here. -/
def keepCandidate? (l : Lexer) : Option Lexer :=
  if l.allowsKey then
    l.dropCandidate?.map fun l ↦
      let c := l.cursor
      let candidate : Candidate :=
        ⟨l.tokens.size, c.line, c.column, c.offset, !l.inFlow && l.indent == c.column⟩
      { l with candidates := some candidate :: l.candidates.drop 1 }
  else some l

/-- A candidate that is still near enough: a key is on one line and not too long. Fails if the
candidate is too far back and had to be a key. -/
def refresh? (c : Cursor) : Option Candidate → Option (Option Candidate)
  | none => some none
  | some candidate =>
    if candidate.line < c.line || candidate.offset + 1024 < c.offset then
      if candidate.isRequired then none else some none
    else some (some candidate)

/-- Gives up the candidates that are too far back. -/
def dropStale? (l : Lexer) : Option Lexer :=
  (l.candidates.mapM (refresh? l.cursor)).map fun candidates ↦ { l with candidates := candidates }

/-! ## Blanks -/

/-- Skips blanks, comments and ends of lines before a token, and a byte order mark at the start of a
line. -/
def skipGap : (budget : Nat) → Lexer → Lexer
  | 0, l => l
  | budget + 1, l =>
    let c := l.cursor
    match c.peek? with
    | none => l
    | some ch =>
      if ch == ' ' || (ch == '\t' && (l.inFlow || !l.allowsKey)) ||
          (ch.toNat == 0xFEFF && c.column == 0) then
        skipGap budget (l.skip 1)
      else if ch == '#' then skipGap budget { l with cursor := c.skipToBreak }
      else
        match c.readBreak? with
        | some (_, next) =>
          skipGap budget { l with cursor := next, allowsKey := l.allowsKey || !l.inFlow }
        | none => l

/-! ## Tokens -/

/-- Reads the mark of a document. -/
def documentMark? (l : Lexer) (token : Token) : Option Lexer :=
  (l.closeTo (-1)).dropCandidate?.map fun l ↦
    ({ l.skip 3 with allowsKey := false }).emit token

/-- Declares what a directive says. A handle is declared once, and only two versions are known. -/
def declare? (l : Lexer) : Directive → Option Lexer
  | .version major minor =>
    if major == 1 && (minor == 1 || minor == 2) then some (l.emit .version) else none
  | .handle handle meaning =>
    if (l.handles.lookup handle).isSome then none
    else some ({ l with handles := (handle, meaning) :: l.handles }.emit .handle)

/-- Reads a line with a directive. -/
def directive? (l : Lexer) : Option Lexer := do
  let l ← (l.closeTo (-1)).dropCandidate?
  let (directive, next) ← readDirective? (l.cursor.skip 1)
  { l with cursor := next, allowsKey := false }.declare? directive

/-- Reads the name of an anchor or of an alias. -/
def name? (l : Lexer) : Option (String × Lexer) :=
  l.keepCandidate?.bind fun l ↦
    let name := (l.cursor.rest.drop 1).takeWhile isNameChar
    let next := l.cursor.skip (1 + name.length)
    let isOver := isGap next.peek? || next.peek?.any fun ch ↦ "?:,]\x7d%@`".toList.contains ch
    if !name.isEmpty && isOver then
      some (String.ofList name, { l with cursor := next, allowsKey := false })
    else none

/-- Reads an anchor and gives it a number. -/
def anchor? (l : Lexer) : Option Lexer :=
  l.name?.map fun (name, l) ↦
    let number := l.anchors.length
    let others := l.anchors.filter fun (other, _) ↦ other != name
    { l with anchors := (name, number) :: others }.emit (.anchor number)

/-- Reads an alias of an anchor before it. -/
def alias? (l : Lexer) : Option Lexer :=
  l.name?.bind fun (name, l) ↦ (l.anchors.lookup name).map fun number ↦ l.emit (.alias number)

/-- Reads a tag. In a flow collection a comma may follow it at once. -/
def tag? (l : Lexer) : Option Lexer := do
  let l ← l.keepCandidate?
  let (tag, next) ← readTag? l.handles l.cursor
  if isGap next.peek? || (l.inFlow && next.peek? == some ',') then
    return { l with cursor := next, allowsKey := false }.emit (.tag tag)
  else none

/-- Reads the start of a flow collection. -/
def flowStart? (l : Lexer) (token : Token) : Option Lexer :=
  l.keepCandidate?.map fun l ↦
    ({ l.skip 1 with candidates := none :: l.candidates, allowsKey := true }).emit token

/-- Reads the end of a flow collection. -/
def flowEnd? (l : Lexer) (token : Token) : Option Lexer :=
  l.dropCandidate?.map fun l ↦
    let candidates := if l.inFlow then l.candidates.drop 1 else l.candidates
    ({ l.skip 1 with candidates := candidates, allowsKey := false }).emit token

/-- Reads a comma. -/
def comma? (l : Lexer) : Option Lexer :=
  l.dropCandidate?.map fun l ↦ ({ l.skip 1 with allowsKey := true }).emit .flowEntry

/-- Reads the dash of an item. -/
def dash? (l : Lexer) : Option Lexer :=
  if !l.inFlow && !l.allowsKey then none
  else
    (l.openBlock l.cursor.column l.tokens.size .sequenceStart).dropCandidate?.map fun l ↦
      ({ l.skip 1 with allowsKey := true }).emit .entry

/-- Reads the question mark before a key. -/
def question? (l : Lexer) : Option Lexer :=
  if !l.inFlow && !l.allowsKey then none
  else
    (l.openBlock l.cursor.column l.tokens.size .mappingStart).dropCandidate?.map fun l ↦
      ({ l.skip 1 with allowsKey := !l.inFlow }).emit .key

/-- Reads the colon before a value. It turns the candidate into a key. -/
def colon? (l : Lexer) : Option Lexer :=
  match l.candidates with
  | some candidate :: rest =>
    let l := { l with candidates := none :: rest }
    let l := (l.emitAt candidate.index .key).openBlock candidate.column candidate.index .mappingStart
    some (({ l.skip 1 with allowsKey := false }).emit .value)
  | _ =>
    if !l.inFlow && !l.allowsKey then none
    else
      let l := l.openBlock l.cursor.column l.tokens.size .mappingStart
      some (({ l.skip 1 with allowsKey := !l.inFlow }).emit .value)

/-- Reads a quoted scalar. -/
def quoted? (l : Lexer) (isDouble : Bool) : Option Lexer := do
  let l ← l.keepCandidate?
  let start := l.cursor.skip 1
  let (text, next) ← readQuoted isDouble (start.rest.length + 1) [] start
  return ({ l with cursor := next, allowsKey := false }).emit (.scalar .quoted (String.ofList text))

/-- Reads a block scalar. -/
def block? (l : Lexer) (isLiteral : Bool) : Option Lexer := do
  let l ← l.dropCandidate?
  let (text, next) ← readBlock isLiteral l.indent (l.cursor.skip 1)
  let form := if isLiteral then .literal else .folded
  return ({ l with cursor := next, allowsKey := true }).emit (.scalar form (String.ofList text))

/-- Reads a plain scalar. -/
def plain? (l : Lexer) : Option Lexer := do
  let l ← l.keepCandidate?
  let (text, isBroken, next) ←
    readPlain l.inFlow (l.indent + 1) (l.cursor.rest.length + 1) [] {} l.cursor
  return ({ l with cursor := next, allowsKey := isBroken }).emit (.scalar .plain (String.ofList text))

/-- Whether a plain scalar can begin with a character. -/
def startsPlain (l : Lexer) (ch : Char) (next : Option Char) : Bool :=
  !"-?:,[]\x7b\x7d#&*!|>'\"%@`\t".toList.contains ch ||
    (ch == '-' && next != some ' ' && next != some '\t') ||
    (!l.inFlow && (ch == '?' || ch == ':') && !isGap next)

/-- Reads the token that begins with a character. -/
def token? (l : Lexer) (ch : Char) : Option Lexer :=
  let next := l.cursor.second?
  if l.cursor.atMark "---" then l.documentMark? .documentStart
  else if l.cursor.atMark "..." then l.documentMark? .documentEnd
  else if l.cursor.column == 0 && ch == '%' then l.directive?
  else if ch == '[' then l.flowStart? .flowSequenceStart
  else if ch == '\x7b' then l.flowStart? .flowMappingStart
  else if ch == ']' then l.flowEnd? .flowSequenceEnd
  else if ch == '\x7d' then l.flowEnd? .flowMappingEnd
  else if ch == ',' then l.comma?
  else if ch == '-' && isGap next then l.dash?
  else if ch == '?' && (l.inFlow || isGap next) then l.question?
  else if ch == ':' && (l.inFlow || isGap next) then l.colon?
  else if ch == '*' then l.alias?
  else if ch == '&' then l.anchor?
  else if ch == '!' then l.tag?
  else if ch == '|' && !l.inFlow then l.block? true
  else if ch == '>' && !l.inFlow then l.block? false
  else if ch == '\'' then l.quoted? false
  else if ch == '"' then l.quoted? true
  else if l.startsPlain ch next then l.plain?
  else none

/-- Reads all tokens. -/
def run : (budget : Nat) → Lexer → Option (List Token)
  | 0, _ => none
  | budget + 1, l => do
    let l := skipGap (l.cursor.rest.length + 1) l
    let l ← l.dropStale?
    match l.cursor.peek? with
    | none =>
      let l ← (l.closeTo (-1)).dropCandidate?
      return l.tokens.toList
    | some ch => run budget (← (l.closeTo l.cursor.column).token? ch)

end Lexer

/-- The tokens of a text. -/
def tokens? (text : String) : Option (List Token) :=
  let cs := text.toList
  if cs.all isAllowed then Lexer.run (cs.length + 2) { cursor := { rest := cs } } else none

end ApiAtlas.Yaml

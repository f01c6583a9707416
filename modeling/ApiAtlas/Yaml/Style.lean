import ApiAtlas.Yaml.Scalar

/-!
# Styles of scalars

A text is written plain where that is allowed, in single quotes where it is not, as a literal block
where it has several lines, and in double quotes with escapes where nothing else can hold it.
-/

namespace ApiAtlas.Yaml

/-- How a scalar is written. -/
inductive Style
  | plain
  | single
  | double
  | literal
  deriving DecidableEq, Repr

/-! ## Characters -/

/-- Whether a character ends a line. -/
def isBreak (c : Char) : Bool :=
  c == '\n' || c == '\r' || c.toNat == 0x85 || c.toNat == 0x2028 || c.toNat == 0x2029

/-- Whether a character, or the end of the text, separates words. -/
def isGap : Option Char → Bool
  | some c => c == ' ' || c == '\t' || c.toNat == 0 || isBreak c
  | none => true

/-- Whether a character can be written as it is. -/
def isWritable (c : Char) : Bool :=
  c == '\n' || (0x20 ≤ c.toNat && c.toNat ≤ 0x7E) ||
    (0xA0 ≤ c.toNat && c.toNat ≠ 0xFEFF && c.toNat ≠ 0xFFFE && c.toNat ≠ 0xFFFF)

/-! ## Traits of a text -/

/-- Whether two neighbours satisfy a test. -/
def hasNeighbours (test : Char → Char → Bool) (cs : List Char) : Bool :=
  (cs.zip (cs.drop 1)).any fun (a, b) ↦ test a b

/-- Whether a text has characters that need an escape. -/
def hasSpecial (cs : List Char) : Bool :=
  cs.any fun c ↦ !isWritable c

/-- Whether a line ends in a space. -/
def hasSpaceBeforeBreak (cs : List Char) : Bool :=
  hasNeighbours (fun a b ↦ a == ' ' && isBreak b) cs

/-- Whether a line after the first begins with a space. -/
def hasSpaceAfterBreak (cs : List Char) : Bool :=
  hasNeighbours (fun a b ↦ isBreak a && b == ' ') cs

/-- Whether the start of a text has a meaning of its own. -/
def hasLeadIndicator : List Char → Bool
  | '-' :: '-' :: '-' :: _ => true
  | '.' :: '.' :: '.' :: _ => true
  | c :: rest =>
    "#,[]\x7b\x7d&*!|>'\"%@`".toList.contains c ||
      ((c == '?' || c == ':' || c == '-') && isGap rest.head?)
  | [] => false

/-- Whether the end of a key or the start of a comment shows after the first character. -/
def hasInnerIndicator : List Char → Bool
  | a :: b :: rest =>
    (b == ':' && isGap rest.head?) || (b == '#' && isGap (some a)) ||
      hasInnerIndicator (b :: rest)
  | _ => false

/-- Whether a text begins or ends with a space or the end of a line. -/
def hasLooseEnd (cs : List Char) : Bool :=
  let isLoose := fun (c : Option Char) ↦ c.any fun c ↦ c == ' ' || isBreak c
  isLoose cs.head? || isLoose cs.getLast?

/-! ## Styles -/

/-- Whether a text can be written without quotes. -/
def allowsPlain (cs : List Char) : Bool :=
  !hasLooseEnd cs && !hasSpecial cs && !cs.any isBreak && !hasLeadIndicator cs &&
    !hasInnerIndicator cs

/-- Whether a text can be written in single quotes. -/
def allowsSingle (cs : List Char) : Bool :=
  !hasSpaceAfterBreak cs && !hasSpaceBeforeBreak cs && !hasSpecial cs

/-- Whether a text can be written as a block. -/
def allowsBlock (cs : List Char) : Bool :=
  cs.getLast? != some ' ' && !hasSpaceBeforeBreak cs && !hasSpecial cs

/-- The style of a text. -/
def styleOf (s : String) : Style :=
  let cs := s.toList
  if cs.contains '\n' then if allowsBlock cs then .literal else .double
  else if !isAmbiguous s && allowsPlain cs then .plain
  else if allowsSingle cs then .single
  else .double

/-! ## Texts -/

/-- Indents a line. -/
def pad (indent : Nat) : List Char :=
  List.replicate indent ' '

/-- Writes the lines of a text, all but the first of them indented. -/
def indentLines (indent : Nat) (write : Char → List Char) : (fresh : Bool) → List Char → List Char
  | _, [] => []
  | fresh, c :: rest =>
    if isBreak c then c :: indentLines indent write true rest
    else (if fresh then pad indent else []) ++ write c ++ indentLines indent write false rest

/-- A text in single quotes, where a quote is written twice. -/
def singleQuoted (indent : Nat) (cs : List Char) : List Char :=
  let body := indentLines indent (fun c ↦ if c == '\'' then ['\'', '\''] else [c]) false cs
  let tail := if cs.getLast?.any isBreak then pad indent else []
  '\'' :: body ++ tail ++ ['\'']

/-- The letters of the short escapes. -/
def shortEscapes : List (Nat × Char) :=
  [(0x00, '0'), (0x07, 'a'), (0x08, 'b'), (0x09, 't'), (0x0A, 'n'), (0x0B, 'v'), (0x0C, 'f'),
    (0x0D, 'r'), (0x1B, 'e'), (0x22, '"'), (0x5C, '\\'), (0x85, 'N'), (0xA0, '_'), (0x2028, 'L'),
    (0x2029, 'P')]

/-- A number in a fixed count of hexadecimal digits. -/
def hexadecimal (width n : Nat) : List Char :=
  ((List.range width).map fun i ↦
    (Nat.digitChar (n / Nat.pow 16 i % 16)).toUpper).reverse

/-- The escape of a character. -/
def escape (c : Char) : List Char :=
  let code := c.toNat
  match shortEscapes.lookup code with
  | some letter => ['\\', letter]
  | none =>
    if code ≤ 0xFF then '\\' :: 'x' :: hexadecimal 2 code
    else if code ≤ 0xFFFF then '\\' :: 'u' :: hexadecimal 4 code
    else '\\' :: 'U' :: hexadecimal 8 code

/-- A text in double quotes. -/
def doubleQuoted (cs : List Char) : List Char :=
  let body := cs.flatMap fun c ↦
    if !isWritable c || isBreak c || c == '"' || c == '\\' then escape c else [c]
  '"' :: body ++ ['"']

/-- What stands after the bar of a block: the indentation, where the text begins with a space or the
end of a line, and what becomes of the ends of its last lines. -/
def blockHeader (cs : List Char) : List Char :=
  let lead := if cs.head?.any fun c ↦ c == ' ' || isBreak c then ['2'] else []
  let keep :=
    match cs.reverse with
    | [] => ['-']
    | [c] => if isBreak c then ['+'] else ['-']
    | c :: d :: _ => if !isBreak c then ['-'] else if isBreak d then ['+'] else []
  lead ++ keep

/-- A text as a literal block. -/
def literalBlock (indent : Nat) (cs : List Char) : List Char :=
  '|' :: blockHeader cs ++ '\n' :: indentLines indent (fun c ↦ [c]) true cs

/-- A scalar in its style. The lines of a block are indented. -/
def scalarText (indent : Nat) (s : String) : List Char :=
  match styleOf s with
  | .plain => s.toList
  | .single => singleQuoted indent s.toList
  | .double => doubleQuoted s.toList
  | .literal => literalBlock indent s.toList

/-- A scalar that ends a line. -/
def scalarLine (indent : Nat) (s : String) : List Char :=
  let text := scalarText indent s
  if styleOf s == .literal && text.getLast?.any isBreak then text else text ++ ['\n']

end ApiAtlas.Yaml

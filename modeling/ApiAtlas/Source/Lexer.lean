import ApiAtlas.Source.Token
import ApiAtlas.Text.Blank
import ApiAtlas.Text.IdentifierTable
import ApiAtlas.Text.Split

/-!
# From text to tokens

`tokenize?` splits a Rust source text into token trees, or fails where no token can start, a literal
is malformed or brackets do not match. Comments and blanks disappear, except that a documentation
comment becomes the attribute `#[doc = "…"]` that it abbreviates. Every loop over the text takes a
budget, and the length of the text is enough for all of them.
-/

namespace ApiAtlas.Source.Lexer

open Text

/-! ## Comments and blanks -/

/-- Blanks between tokens; the two direction marks count as well. -/
def isSpace (c : Char) : Bool :=
  isBlank c || c.toNat == 0x200E || c.toNat == 0x200F

/-- The rest of a line, and the text from its end on. -/
def restOfLine : List Char → List Char × List Char
  | [] => ([], [])
  | '\n' :: rest => ([], '\n' :: rest)
  | '\r' :: '\n' :: rest => ([], '\r' :: '\n' :: rest)
  | c :: rest =>
    let (line, after) := restOfLine rest
    (c :: line, after)

/-- The inside of a block comment after its opening mark, up to the mark that closes it, and the
text after it. Comments nest. -/
def commentBody? (depth : Nat) : List Char → Option (List Char × List Char)
  | [] => none
  | '/' :: '*' :: rest =>
    (commentBody? (depth + 1) rest).map fun (body, after) ↦ ('/' :: '*' :: body, after)
  | '*' :: '/' :: rest =>
    match depth with
    | 0 => some ([], rest)
    | depth + 1 =>
      (commentBody? depth rest).map fun (body, after) ↦ ('*' :: '/' :: body, after)
  | c :: rest => (commentBody? depth rest).map fun (body, after) ↦ (c :: body, after)

/-- The number of line ends in a text. -/
def lineEnds (cs : List Char) : Nat :=
  cs.count '\n'

/-- Whether every carriage return of a text is followed by a line feed. -/
def hasPairedReturns : List Char → Bool
  | [] => true
  | '\r' :: '\n' :: rest => hasPairedReturns rest
  | '\r' :: _ => false
  | _ :: rest => hasPairedReturns rest

/-- The attribute that a documentation comment abbreviates. -/
def docTokens (inner : Bool) (body : List Char) : List TokenTree :=
  let content := TokenTree.group .bracket
    [.ident "doc" 0, .punct '=' false, .literal (.text (String.ofList body))]
  if inner then [.punct '#' true, .punct '!' false, content] else [.punct '#' false, content]

/-! ## Identifiers -/

/-- Reads a word without a raw mark. -/
def word? (cs : List Char) : Option (List Char × List Char) :=
  match cs with
  | [] => none
  | c :: rest =>
    if isIdentifierStart c then
      some (c :: rest.takeWhile isIdentifierContinue, rest.dropWhile isIdentifierContinue)
    else none

/-- The words that a raw mark may not precede. -/
def neverRaw : List String :=
  ["_", "super", "self", "Self", "crate"]

/-- Reads a word, with its raw mark if it has one. -/
def rawWord? (cs : List Char) : Option (String × List Char) :=
  match cs with
  | 'r' :: '#' :: rest =>
    match word? rest with
    | some (word, after) =>
      let text := String.ofList word
      if neverRaw.contains text then none else some ("r#" ++ text, after)
    | none => none
  | cs => (word? cs).map fun (word, after) ↦ (String.ofList word, after)

/-- The beginnings of quoted literals, which no identifier has. -/
def quoteStarts : List (List Char) :=
  ["r\"", "r#\"", "r##", "b\"", "b'", "br\"", "br#", "c\"", "cr\"", "cr#"].map String.toList

/-- Reads an identifier. -/
def identifier? (cs : List Char) : Option (String × List Char) :=
  if quoteStarts.any fun start ↦ (dropLead? start cs).isSome then none else rawWord? cs

/-- Drops the suffix of a literal. -/
def dropSuffix (cs : List Char) : List Char :=
  match word? cs with
  | some (_, after) => after
  | none => cs

/-! ## Quoted literals -/

/-- The kinds of quoted literals, which differ in their escapes. -/
inductive Quoted
  | text
  | bytes
  | cText
  deriving DecidableEq

/-- The value of a hexadecimal digit. -/
def hexDigit? (c : Char) : Option Nat :=
  if c.isDigit then some (c.toNat - '0'.toNat)
  else if 'a' ≤ c && c ≤ 'f' then some (c.toNat - 'a'.toNat + 10)
  else if 'A' ≤ c && c ≤ 'F' then some (c.toNat - 'A'.toNat + 10)
  else none

/-- Reads the digits of a Unicode escape after its opening brace: one to six hexadecimal digits,
with underscores after the first, that denote a character. -/
def unicodeDigits? (value count : Nat) : List Char → Option (Char × List Char)
  | [] => none
  | c :: rest =>
    if c == '_' && 0 < count then unicodeDigits? value count rest
    else if c == '\x7d' && 0 < count then
      if h : value.isValidChar then some (Char.ofNatAux value h, rest) else none
    else
      match hexDigit? c with
      | some digit => if count < 6 then unicodeDigits? (16 * value + digit) (count + 1) rest else none
      | none => none

/-- Reads an escape after its backslash, line continuations excepted. -/
def escape? (kind : Quoted) (cs : List Char) : Option (Char × List Char) :=
  match cs with
  | 'n' :: rest => some ('\n', rest)
  | 'r' :: rest => some ('\r', rest)
  | 't' :: rest => some ('\t', rest)
  | '\\' :: rest => some ('\\', rest)
  | '\'' :: rest => some ('\'', rest)
  | '"' :: rest => some ('"', rest)
  | '0' :: rest => if kind == .cText then none else some ('\x00', rest)
  | 'x' :: a :: b :: rest =>
    match hexDigit? a, hexDigit? b with
    | some high, some low =>
      let value := 16 * high + low
      let allowed : Bool :=
        match kind with
        | .text => value < 0x80
        | .bytes => true
        | .cText => value != 0
      if allowed then some (Char.ofNat value, rest) else none
    | _, _ => none
  | 'u' :: '\x7b' :: rest =>
    if kind == .bytes then none
    else
      match unicodeDigits? 0 0 rest with
      | some (c, after) => if kind == .cText && c == '\x00' then none else some (c, after)
      | none => none
  | _ => none

/-- Skips the blanks after a line continuation and counts the line ends among them. A carriage
return has to be followed by a line feed. -/
def continuation? (lines : Nat) : List Char → Option (Nat × List Char)
  | [] => none
  | '\r' :: '\n' :: rest => continuation? (lines + 1) rest
  | '\r' :: _ => none
  | '\n' :: rest => continuation? (lines + 1) rest
  | c :: rest => if c == ' ' || c == '\t' then continuation? lines rest else some (lines, c :: rest)

/-- Reads the rest of a quoted literal after its opening quote: its value in reverse order before
`acc`, the number of line ends passed, and the text after the closing quote. -/
def quoted? (kind : Quoted) : (budget : Nat) → (acc : List Char) → (lines : Nat) → List Char →
    Option (List Char × Nat × List Char)
  | 0, _, _, _ => none
  | budget + 1, acc, lines, cs =>
    match cs with
    | [] => none
    | '"' :: rest => some (acc, lines, rest)
    | '\r' :: '\n' :: rest => quoted? kind budget ('\n' :: acc) (lines + 1) rest
    | '\r' :: _ => none
    | '\\' :: '\n' :: rest =>
      match continuation? (lines + 1) rest with
      | some (lines, after) => quoted? kind budget acc lines after
      | none => none
    | '\\' :: '\r' :: '\n' :: rest =>
      match continuation? (lines + 1) rest with
      | some (lines, after) => quoted? kind budget acc lines after
      | none => none
    | '\\' :: rest =>
      match escape? kind rest with
      | some (c, after) => quoted? kind budget (c :: acc) lines after
      | none => none
    | c :: rest =>
      let allowed : Bool :=
        match kind with
        | .text => true
        | .bytes => c.toNat < 0x80
        | .cText => c != '\x00'
      if allowed then
        quoted? kind budget (c :: acc) (if c == '\n' then lines + 1 else lines) rest
      else none

/-- Reads the inside of a raw literal up to a quote with the given number of hash marks. -/
def rawBody? (kind : Quoted) (hashes : Nat) : List Char → Option (List Char × List Char)
  | [] => none
  | '"' :: rest =>
    if (rest.take hashes) == List.replicate hashes '#' then some ([], rest.drop hashes)
    else (rawBody? kind hashes rest).map fun (body, after) ↦ ('"' :: body, after)
  | '\r' :: '\n' :: rest =>
    (rawBody? kind hashes rest).map fun (body, after) ↦ ('\r' :: '\n' :: body, after)
  | '\r' :: _ => none
  | c :: rest =>
    let allowed : Bool :=
      match kind with
      | .text => true
      | .bytes => c.toNat < 0x80
      | .cText => c != '\x00'
    if allowed then (rawBody? kind hashes rest).map fun (body, after) ↦ (c :: body, after)
    else none

/-- Reads a raw literal after its letters. -/
def raw? (kind : Quoted) (cs : List Char) : Option (List Char × List Char) :=
  let hashes := (cs.takeWhile (· == '#')).length
  match cs.drop hashes with
  | '"' :: rest => if hashes ≤ 255 then rawBody? kind hashes rest else none
  | _ => none

/-- Reads a character literal after its opening quote; the result is the number of line ends in it
and the text after it. -/
def character? (kind : Quoted) (cs : List Char) : Option (Nat × List Char) :=
  match cs with
  | '\\' :: rest =>
    match escape? kind rest with
    | some (_, '\'' :: after) => some (0, dropSuffix after)
    | _ => none
  | c :: '\'' :: after =>
    if kind == .bytes && 0x80 ≤ c.toNat then none
    else some (if c == '\n' then 1 else 0, dropSuffix after)
  | _ => none

/-! ## Numbers -/

/-- Reads the digits of a number with a base prefix. -/
def baseDigits? (base : Nat) (value : Nat) (empty : Bool) : List Char → Option (Nat × List Char)
  | [] => if empty then none else some (value, [])
  | c :: rest =>
    if c == '_' then
      if empty && base == 10 then none else baseDigits? base value empty rest
    else
      match hexDigit? c with
      | some digit =>
        if digit < base then baseDigits? base (base * value + digit) false rest
        else if c.isDigit then none
        else if empty then none
        else some (value, c :: rest)
      | none => if empty then none else some (value, c :: rest)

/-- Reads the digits of an integer literal, with its base prefix. -/
def intDigits? (cs : List Char) : Option (Nat × List Char) :=
  match cs with
  | '0' :: 'x' :: rest => baseDigits? 16 0 true rest
  | '0' :: 'o' :: rest => baseDigits? 8 0 true rest
  | '0' :: 'b' :: rest => baseDigits? 2 0 true rest
  | cs => baseDigits? 10 0 true cs

/-- Reads the exponent of a number after its mark: an optional sign and digits with underscores. -/
def exponentDigits? (cs : List Char) : Option (List Char × List Char) :=
  let unsignedPart := cs.dropWhile (· == '_')
  let (sign, digits) :=
    match unsignedPart with
    | '+' :: rest => (['+'], rest)
    | '-' :: rest => (['-'], rest)
    | rest => ([], rest)
  let body := digits.takeWhile fun c ↦ c.isDigit || c == '_'
  if body.any Char.isDigit then some (sign ++ body, digits.drop body.length) else none

/-- Reads a number with a point or an exponent; the result is its text and what follows. -/
def floatDigits? (cs : List Char) : Option (List Char × List Char) :=
  match cs with
  | c :: _ =>
    if c.isDigit then
      let isBody := fun (d : Char) ↦ d.isDigit || d == '_'
      let whole := cs.takeWhile isBody
      let rest := cs.dropWhile isBody
      let exponentOf := fun (text after : List Char) (pointed : Bool) ↦
        match after with
        | e :: tail =>
          if e == 'e' || e == 'E' then
            match exponentDigits? tail with
            | some (digits, after) => some (text ++ e :: digits, after)
            | none => if pointed then some (text, e :: tail) else none
          else if pointed then some (text, e :: tail)
          else none
        | [] => if pointed then some (text, []) else none
      match rest with
      | '.' :: next :: tail =>
        if next == '.' || isIdentifierStart next then none
        else
          let fraction := (next :: tail).takeWhile isBody
          exponentOf (whole ++ '.' :: fraction) ((next :: tail).dropWhile isBody) true
      | ['.'] => some (whole ++ ['.'], [])
      | rest => exponentOf whole rest false
    else none
  | [] => none

/-- Reads the suffix of a number, which may be empty; the number must then be over. -/
def numberSuffix? (cs : List Char) : Option (List Char × List Char) :=
  match cs with
  | [] => some ([], [])
  | c :: rest =>
    if isIdentifierStart c then word? cs
    else if isIdentifierContinue c then none
    else some ([], c :: rest)

/-- Reads a number. -/
def number? (cs : List Char) : Option (Literal × List Char) :=
  let float : Option (Literal × List Char) := do
    let (digits, rest) ← floatDigits? cs
    let (suffix, rest) ← numberSuffix? rest
    return (.float (String.ofList (digits ++ suffix)), rest)
  match float with
  | some result => some result
  | none => do
    let (value, rest) ← intDigits? cs
    let (suffix, rest) ← numberSuffix? rest
    return (.int value !suffix.isEmpty, rest)

/-! ## Literals -/

/-- Reads a literal: its value, the line ends in it, and the text after it. -/
def literal? (budget : Nat) (cs : List Char) : Option (Literal × Nat × List Char) :=
  let ofQuoted := fun (kind : Quoted) (rest : List Char) ↦
    (quoted? kind budget [] 0 rest).map fun (value, lines, after) ↦
      let literal :=
        if kind == .text then Literal.text (String.ofList value.reverse) else .other
      (literal, lines, dropSuffix after)
  let ofRaw := fun (kind : Quoted) (rest : List Char) ↦
    (raw? kind rest).map fun (body, after) ↦
      let literal := if kind == .text then Literal.text (String.ofList body) else .other
      (literal, lineEnds body, dropSuffix after)
  let ofCharacter := fun (kind : Quoted) (rest : List Char) ↦
    (character? kind rest).map fun (lines, after) ↦ (Literal.other, lines, after)
  match cs with
  | '"' :: rest => ofQuoted .text rest
  | 'r' :: '"' :: _ => ofRaw .text (cs.drop 1)
  | 'r' :: '#' :: _ => ofRaw .text (cs.drop 1)
  | 'b' :: '"' :: rest => ofQuoted .bytes rest
  | 'b' :: 'r' :: rest => ofRaw .bytes rest
  | 'b' :: '\'' :: rest => ofCharacter .bytes rest
  | 'c' :: '"' :: rest => ofQuoted .cText rest
  | 'c' :: 'r' :: rest => ofRaw .cText rest
  | '\'' :: rest => ofCharacter .text rest
  | c :: _ =>
    if c.isDigit then (number? cs).map fun (value, after) ↦ (value, 0, after) else none
  | [] => none

/-! ## Punctuation -/

/-- The punctuation characters. -/
def punctuation : List Char :=
  "~!@#$%^&*-=+|;:,<.>/?'".toList

/-- Whether a text starts with a punctuation character that opens no comment. -/
def startsPunct (cs : List Char) : Bool :=
  match cs with
  | '/' :: '/' :: _ => false
  | '/' :: '*' :: _ => false
  | c :: _ => punctuation.contains c
  | [] => false

/-- Reads a lifetime after its quote. -/
def lifetime? (cs : List Char) : Option (String × List Char) :=
  match rawWord? cs with
  | some (name, after) =>
    let raw := (dropLead? ['r', '#'] cs).isSome
    match after with
    | '\'' :: _ => none
    | '#' :: _ => if raw then some (name, after) else none
    | _ => some (name, after)
  | none => none

/-! ## Lexemes -/

/-- A token, or one of its brackets. -/
inductive Lexeme
  | leaf (tree : TokenTree)
  | openMark (delimiter : Delimiter)
  | closeMark (delimiter : Delimiter)

/-- The bracket that a character is. -/
def bracketOf? (c : Char) : Option Lexeme :=
  if c == '(' then some (.openMark .paren)
  else if c == ')' then some (.closeMark .paren)
  else if c == '[' then some (.openMark .bracket)
  else if c == ']' then some (.closeMark .bracket)
  else if c == '\x7b' then some (.openMark .brace)
  else if c == '\x7d' then some (.closeMark .brace)
  else none

/-- The mark of a form that could not be expanded. It counts as a literal without a value. -/
def failureMark : List Char :=
  "(/*ERROR*/)".toList

/-- Reads one token that is not a bracket. A quote before what is no lifetime but a literal stands
alone. -/
def leaf? (budget line : Nat) (cs : List Char) : Option (TokenTree × Nat × List Char) :=
  match literal? budget cs with
  | some (literal, lines, after) => some (.literal literal, lines, after)
  | none =>
    match cs with
    | '\'' :: rest =>
      match lifetime? rest with
      | none => none
      | some (name, after) =>
        if (literal? budget rest).isSome then some (.punct '\'' true, 0, rest)
        else if (identifier? rest).isSome then some (.lifetime name, 0, after)
        else none
    | c :: rest =>
      if startsPunct cs then some (.punct c (startsPunct rest), 0, rest)
      else (identifier? cs).map fun (text, after) ↦ (.ident text line, 0, after)
    | [] => none

/-- Skips one blank or comment that carries nothing: the line ends in it and the text after it. -/
def skip? (cs : List Char) : Option (Nat × List Char) :=
  let blockComment := fun (rest : List Char) ↦
    (commentBody? 0 rest).map fun (body, after) ↦ (lineEnds body, after)
  match cs with
  | '/' :: '/' :: '!' :: _ => none
  | '/' :: '/' :: '/' :: '/' :: _ => some (0, (restOfLine cs).2)
  | '/' :: '/' :: '/' :: _ => none
  | '/' :: '/' :: _ => some (0, (restOfLine cs).2)
  | '/' :: '*' :: '*' :: '/' :: rest => some (0, rest)
  | '/' :: '*' :: '!' :: _ => none
  | '/' :: '*' :: '*' :: '*' :: rest => blockComment ('*' :: '*' :: rest)
  | '/' :: '*' :: '*' :: _ => none
  | '/' :: '*' :: rest => blockComment rest
  | c :: rest => if isSpace c then some (if c == '\n' then 1 else 0, rest) else none
  | [] => none

/-- Reads a documentation comment: its tokens, the line ends in it and the text after it. -/
def docComment? (cs : List Char) : Option (List TokenTree × Nat × List Char) :=
  let found : Option (Bool × List Char × List Char) :=
    match cs with
    | '/' :: '/' :: '!' :: rest =>
      let (body, after) := restOfLine rest
      some (true, body, after)
    | '/' :: '/' :: '/' :: rest =>
      let (body, after) := restOfLine rest
      some (false, body, after)
    | '/' :: '*' :: '!' :: rest =>
      (commentBody? 0 rest).map fun (body, after) ↦ (true, body, after)
    | '/' :: '*' :: '*' :: rest =>
      (commentBody? 0 rest).map fun (body, after) ↦ (false, body, after)
    | _ => none
  match found with
  | some (inner, body, after) =>
    if hasPairedReturns body then some (docTokens inner body, lineEnds body, after) else none
  | none => none

/-- The lexemes of a text, collected in reverse before `acc`. -/
def lexemes? : (budget : Nat) → (line : Nat) → (acc : List Lexeme) → List Char →
    Option (List Lexeme)
  | 0, _, _, _ => none
  | _ + 1, _, acc, [] => some acc
  | budget + 1, line, acc, c :: rest =>
    let cs := c :: rest
    match skip? cs with
    | some (lines, after) => lexemes? budget (line + lines) acc after
    | none =>
      match docComment? cs with
      | some (tokens, lines, after) =>
        lexemes? budget (line + lines) ((tokens.map Lexeme.leaf).reverse ++ acc) after
      | none =>
        match dropLead? failureMark cs, bracketOf? c with
        | some after, _ => lexemes? budget line (.leaf (.literal .other) :: acc) after
        | none, some bracket => lexemes? budget line (bracket :: acc) rest
        | none, none =>
          match leaf? (budget + 1) line cs with
          | some (tree, lines, after) => lexemes? budget (line + lines) (.leaf tree :: acc) after
          | none => none

/-! ## Trees -/

/-- Gathers lexemes, read from the last one back, into trees. `pending` holds, for every group not
yet complete, its bracket and the trees that follow it. -/
def gather? (trees : List TokenTree) (pending : List (Delimiter × List TokenTree)) :
    List Lexeme → Option (List TokenTree)
  | [] => if pending.isEmpty then some trees else none
  | .leaf tree :: rest => gather? (tree :: trees) pending rest
  | .closeMark delimiter :: rest => gather? [] ((delimiter, trees) :: pending) rest
  | .openMark delimiter :: rest =>
    match pending with
    | (expected, following) :: outer =>
      if expected = delimiter then gather? (.group delimiter trees :: following) outer rest
      else none
    | [] => none

/-- Drops a byte order mark. -/
def dropMark : List Char → List Char
  | '\uFEFF' :: rest => rest
  | cs => cs

/-- The token trees of a source text; a byte order mark may precede them. -/
def tokenize? (text : List Char) : Option (List TokenTree) :=
  match lexemes? (text.length + 1) 1 [] (dropMark text) with
  | some lexemes => gather? [] [] lexemes
  | none => none

end ApiAtlas.Source.Lexer

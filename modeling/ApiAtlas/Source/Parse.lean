import ApiAtlas.Source.Tree

/-!
# Reading from a list of tokens

A reader takes tokens from the front of a list and gives a result, or fails. The tests below look at
the front without taking anything. Operators are spelled with several punctuation characters; all
but the last have to be joint. Repetition is bounded by the number of tokens in the list.

A reader of a group may stop before the group ends. It does not fail then, but the input remembers
that tokens were left over, and no text that leaves some over is accepted as a whole.
-/

namespace ApiAtlas.Source

/-- The tokens ahead, and whether a group already passed has tokens left over. -/
structure Input where
  tokens : List TokenTree
  isPartial : Bool := false
  /-- Whether the form read last ends with braces, where its last token does not tell. This holds as
  long as the given number of tokens is ahead. -/
  ending : Option (Nat × Bool) := none

/-- A reader of tokens. -/
abbrev Parse (α : Type) := StateT Input Option α

namespace Parse

variable {α β : Type}

/-! ## Looking at the front -/

/-- Whether a list of tokens starts with an operator. -/
def startsOp : List Char → List TokenTree → Bool
  | [], _ => true
  | [c], .punct d _ :: _ => c == d
  | c :: rest, .punct d joint :: tokens => c == d && joint && startsOp rest tokens
  | _ :: _, _ => false

/-- Whether a list of tokens starts with an operator, given by its spelling. -/
def atOp (op : String) (tokens : List TokenTree) : Bool :=
  startsOp op.toList tokens

/-- Whether a list of tokens starts with a given word. -/
def atWord (word : String) (tokens : List TokenTree) : Bool :=
  match tokens with
  | .ident text _ :: _ => text == word
  | _ => false

/-- Whether a list of tokens starts with one of several words. -/
def atWords (words : List String) (tokens : List TokenTree) : Bool :=
  match tokens with
  | .ident text _ :: _ => words.contains text
  | _ => false

/-- Whether a list of tokens starts with a name. -/
def atName (tokens : List TokenTree) : Bool :=
  match tokens with
  | .ident text _ :: _ => isName text
  | _ => false

/-- Whether a list of tokens starts with a word of any kind. -/
def atAnyWord (tokens : List TokenTree) : Bool :=
  match tokens with
  | .ident _ _ :: _ => true
  | _ => false

/-- Whether a list of tokens starts with a group. -/
def atGroup (delimiter : Delimiter) (tokens : List TokenTree) : Bool :=
  match tokens with
  | .group d _ :: _ => d == delimiter
  | _ => false

/-- Whether a list of tokens starts with a lifetime. -/
def atLifetime (tokens : List TokenTree) : Bool :=
  match tokens with
  | .lifetime _ :: _ => true
  | _ => false

/-- Whether a list of tokens starts with a literal; a minus sign may precede a number. -/
def atLiteral (tokens : List TokenTree) : Bool :=
  match tokens with
  | .literal _ :: _ => true
  | .ident text _ :: _ => text == "true" || text == "false"
  | .punct '-' _ :: .literal (.int _ _) :: _ => true
  | .punct '-' _ :: .literal (.float _) :: _ => true
  | _ => false

/-- Whether a list of tokens starts with a string literal. -/
def atText (tokens : List TokenTree) : Bool :=
  match tokens with
  | .literal (.text _) :: _ => true
  | _ => false

/-! ## Taking from the front -/

/-- The tokens ahead. -/
def ahead : Parse (List TokenTree) := do
  return (← get).tokens

/-- Goes on with other tokens. -/
def moveTo (tokens : List TokenTree) : Parse Unit :=
  modify fun input ↦ { input with tokens := tokens }

/-- Applies a test to the tokens ahead. -/
def peek (test : List TokenTree → Bool) : Parse Bool := do
  return test (← ahead)

/-- Whether all tokens have been taken. -/
def isEmpty : Parse Bool := do
  return (← ahead).isEmpty

/-- Fails unless a condition holds. -/
def check (condition : Bool) : Parse Unit :=
  if condition then pure () else failure

/-- Takes an operator. -/
def op (spelling : String) : Parse Unit := do
  let tokens ← ahead
  check (atOp spelling tokens)
  moveTo (tokens.drop spelling.length)

/-- Takes an operator if it is ahead. -/
def tryOp (spelling : String) : Parse Bool := do
  let tokens ← ahead
  if atOp spelling tokens then
    moveTo (tokens.drop spelling.length)
    return true
  else return false

/-- Takes a given word. -/
def word (text : String) : Parse Unit := do
  let tokens ← ahead
  check (atWord text tokens)
  moveTo (tokens.drop 1)

/-- Takes a given word if it is ahead. -/
def tryWord (text : String) : Parse Bool := do
  let tokens ← ahead
  if atWord text tokens then
    moveTo (tokens.drop 1)
    return true
  else return false

/-- Takes a word of any kind. -/
def anyWord : Parse Ident := do
  match ← ahead with
  | .ident text line :: rest =>
    moveTo rest
    return ⟨text, line⟩
  | _ => failure

/-- Takes a name. -/
def name : Parse Ident := do
  let ident ← anyWord
  check (isName ident.text)
  return ident

/-- Takes a name or an underscore. -/
def nameOrBlank : Parse Ident := do
  let ident ← anyWord
  check (isName ident.text || ident.text == "_")
  return ident

/-- Takes a lifetime. -/
def lifetime : Parse String := do
  match ← ahead with
  | .lifetime name :: rest =>
    moveTo rest
    return name
  | _ => failure

/-- Takes a lifetime if it is ahead. -/
def tryLifetime : Parse (Option String) := do
  if ← peek atLifetime then return some (← lifetime) else return none

/-- Takes a literal; the sign of a number is dropped. -/
def literal : Parse Literal := do
  match ← ahead with
  | .literal value :: rest =>
    moveTo rest
    return value
  | .ident text _ :: rest =>
    check (text == "true" || text == "false")
    moveTo rest
    return .bool (text == "true")
  | .punct '-' _ :: .literal (.int _ _) :: rest =>
    moveTo rest
    return .other
  | .punct '-' _ :: .literal (.float _) :: rest =>
    moveTo rest
    return .other
  | _ => failure

/-- Reads the content of a group. -/
def group (delimiter : Delimiter) (content : Parse α) : Parse α := do
  match ← get with
  | ⟨.group d inner :: rest, isPartial, _⟩ =>
    check (d == delimiter)
    match content.run ⟨inner, isPartial, none⟩ with
    | some (value, left) =>
      set (Input.mk rest (left.isPartial || !left.tokens.isEmpty) none)
      return value
    | none => failure
  | _ => failure

/-- Takes a group of any kind: its bracket and its content. -/
def anyGroup : Parse (Delimiter × List TokenTree) := do
  match ← ahead with
  | .group d inner :: rest =>
    moveTo rest
    return (d, inner)
  | _ => failure

/-- Runs a reader on a list of tokens that it has to use up, groups included. -/
def runAll? (reader : Parse α) (tokens : List TokenTree) : Option α :=
  match reader.run ⟨tokens, false, none⟩ with
  | some (value, ⟨[], false, _⟩) => some value
  | _ => none

/-- Runs a reader on the front of a list of tokens and gives the tokens after it as well. -/
def runFront? (reader : Parse α) (tokens : List TokenTree) : Option (α × List TokenTree) :=
  (reader.run ⟨tokens, false, none⟩).map fun (value, left) ↦ (value, left.tokens)

/-! ## How a form ends -/

/-- The last of the tokens taken, given those ahead before and after. -/
def lastTaken? (before after : List TokenTree) : Option TokenTree :=
  (before.take (before.length - after.length)).getLast?

/-- Notes whether the form just read counts as ending with braces. -/
def noteEnding (braces : Bool) : Parse Unit :=
  modify fun input ↦ { input with ending := some (input.tokens.length, braces) }

/-- Whether the form read from the tokens `before` on ends with braces: as noted at its end, or by
its last token. -/
def endsInBrace (before : List TokenTree) : Parse Bool := do
  let input ← get
  let byToken :=
    match lastTaken? before input.tokens with
    | some (.group .brace _) => true
    | _ => false
  match input.ending with
  | some (count, braces) => return if count == input.tokens.length then braces else byToken
  | none => return byToken

/-! ## Repetition -/

/-- Collects results until the step gives none, at most `budget` times. -/
def collectWithin (step : Parse (Option α)) : (budget : Nat) → Parse (List α)
  | 0 => failure
  | budget + 1 => do
    match ← step with
    | none => return []
    | some a => return a :: (← collectWithin step budget)

/-- Collects results until the step gives none. -/
def collect (step : Parse (Option α)) : Parse (List α) := do
  collectWithin step ((← ahead).length + 2)

/-- Changes a value until the step gives none, at most `budget` times. -/
def iterateWithin (step : α → Parse (Option α)) : (budget : Nat) → α → Parse α
  | 0, _ => failure
  | budget + 1, a => do
    match ← step a with
    | none => return a
    | some next => iterateWithin step budget next

/-- Changes a value until the step gives none. -/
def iterate (step : α → Parse (Option α)) (start : α) : Parse α := do
  iterateWithin step ((← ahead).length + 2) start

/-- Reads results while a test holds of the tokens ahead. -/
def collectWhile (test : List TokenTree → Bool) (reader : Parse α) : Parse (List α) :=
  collect do
    if ← peek test then return some (← reader) else return none

/-- Reads results up to the end of the tokens. -/
def untilEmpty (reader : Parse α) : Parse (List α) :=
  collectWhile (fun tokens ↦ !tokens.isEmpty) reader

/-- Reads results with commas between them up to the end; a comma may end the list. -/
def commaSeparated (reader : Parse α) : Parse (List α) :=
  untilEmpty do
    let value ← reader
    if !(← isEmpty) then op ","
    return value

/-- Reads results with commas between them up to a closing angle bracket, which is not taken. -/
def untilAngle (reader : Parse α) : Parse (List α) :=
  collectWhile (fun tokens ↦ !atOp ">" tokens) do
    let value ← reader
    if !(← peek (atOp ">")) then op ","
    return value

/-- Reads results with plus signs between them while the last one was followed by a plus sign, at
most `budget` times. -/
def plusWithin (stop : List TokenTree → Bool) (reader : Parse α) : (budget : Nat) → Parse (List α)
  | 0 => failure
  | budget + 1 => do
    if ← peek stop then return []
    else
      let value ← reader
      if ← tryOp "+" then return value :: (← plusWithin stop reader budget) else return [value]

/-- Reads results with plus signs between them, stopping before the tokens that end the list. -/
def plusSeparated (stop : List TokenTree → Bool) (reader : Parse α) : Parse (List α) := do
  plusWithin stop reader ((← ahead).length + 2)

end Parse

end ApiAtlas.Source

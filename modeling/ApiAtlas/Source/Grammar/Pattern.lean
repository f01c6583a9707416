import ApiAtlas.Source.Grammar.Type

/-!
# Reading patterns

Patterns are kept by the expressions and types inside them. The bounds of a range, constant blocks
and the arguments of paths are all that a pattern can hold.
-/

namespace ApiAtlas.Source.Reader

open Parse

/-- Whether a bar between alternatives is ahead. -/
def atAlternative (tokens : List TokenTree) : Bool :=
  atOp "|" tokens && !atOp "||" tokens && !atOp "|=" tokens

/-- Reads alternatives after an optional leading bar. -/
def alternatives (g : Grammar) : Parse Pattern := do
  let isLed ← tryOp "|"
  let first ← g.pattern
  let rest ← collectWhile atAlternative do
    op "|"
    g.pattern
  if !isLed && rest.isEmpty then return first
  else return { parts := first.parts ++ rest.flatMap Pattern.parts }

/-- Reads patterns with commas between them up to the end. -/
def patternList (g : Grammar) : Parse (List Node) := do
  return (← commaSeparated (alternatives g)).flatMap Pattern.parts

/-! ## Ranges -/

/-- Reads the dots of a range and tells whether the range is closed. -/
def rangeLimits (obsolete : Bool) : Parse Bool := do
  if ← tryOp "..=" then return true
  else if ← peek (atOp "...") then
    check obsolete
    op "..."
    return true
  else
    op ".."
    return false

/-- Whether no bound of a range pattern follows. -/
def atBoundlessEnd (tokens : List TokenTree) : Bool :=
  tokens.isEmpty || atOp "|" tokens || atOp "=" tokens ||
    (atOp ":" tokens && !atOp "::" tokens) || atOp "," tokens || atOp ";" tokens ||
    atWord "if" tokens

/-- Reads the bound of a range pattern, if there is one. -/
def rangeBound (g : Grammar) : Parse (Option (List Node)) := do
  let tokens ← ahead
  if atBoundlessEnd tokens then return none
  else if atLiteral tokens then
    let _ ← Parse.literal
    return some []
  else if atPath tokens then
    let (self, segments) ← qualifiedPath g true
    return some (pathParts self segments)
  else if ← tryWord "const" then return some [.expr (← blockExpr g)]
  else failure

/-- Reads the end of a range pattern after its start; a closed range needs one. -/
def rangeRest (g : Grammar) (start : List Node) : Parse Pattern := do
  let closed ← rangeLimits true
  match ← rangeBound g with
  | some stop => return { parts := start ++ stop }
  | none =>
    check !closed
    return ⟨start, .openRange⟩

/-- Reads a range pattern without a start, or the dots that stand for any number of elements. -/
def rangeWithoutStart (g : Grammar) : Parse Pattern := do
  let closed ← rangeLimits false
  match ← rangeBound g with
  | some stop => return ⟨stop, .openRange⟩
  | none =>
    check !closed
    return {}

/-! ## Fields and elements -/

/-- The least number that is no index of a tuple. -/
def indexLimit : Nat :=
  4294967296

/-- Reads a member of a struct by its name or by its index, which gives nothing. -/
def memberName : Parse (Option Ident) := do
  match ← ahead with
  | .literal (.int index false) :: rest =>
    check (index < indexLimit)
    moveTo rest
    return none
  | _ => return some (← name)

/-- Reads a field of a struct pattern. -/
def fieldPattern (g : Grammar) : Parse (List Node) := do
  let boxed ← tryWord "box"
  let byRef ← tryWord "ref"
  let mutable ← tryWord "mut"
  if boxed || byRef || mutable then
    let _ ← name
    return []
  else
    let member ← memberName
    if member.isNone || (← peek (atOp ":")) then
      op ":"
      return (← alternatives g).parts
    else return []

/-- Reads the fields of a struct pattern. -/
def fieldPatterns (g : Grammar) : Parse (List Node) := do
  let found ← iterate (fun (state : Bool × List Node) ↦ do
    if state.1 || (← isEmpty) then return none
    else
      let attributes ← outerAttributes g
      if ← tryOp ".." then return some (true, state.2 ++ attributes.parts)
      else
        let parts ← fieldPattern g
        if !(← isEmpty) then op ","
        return some (false, state.2 ++ attributes.parts ++ parts)) (false, [])
  return found.2

/-- Reads an element of a slice pattern, where a range without an end needs parentheses. -/
def sliceElement (g : Grammar) : Parse (List Node) := do
  let element ← alternatives g
  check (element.shape != .openRange)
  return element.parts

/-! ## Patterns -/

/-- Reads a pattern that starts with a path. -/
def pathPattern (g : Grammar) : Parse Pattern := do
  let (self, segments) ← qualifiedPath g true
  let parts := pathParts self segments
  let tokens ← ahead
  if self.isNone && atBang tokens && isPlain segments then
    op "!"
    let _ ← anyGroup
    return {}
  else if atGroup .brace tokens then
    return { parts := parts ++ (← group .brace (fieldPatterns g)) }
  else if atGroup .paren tokens then
    return { parts := parts ++ (← group .paren (patternList g)) }
  else if atOp ".." tokens then rangeRest g parts
  else return { parts := parts }

/-- Whether a pattern ahead starts with a path rather than a binding. -/
def atPathPattern (tokens : List TokenTree) : Bool :=
  let second := tokens.drop 1
  (atName tokens &&
      (atOp "::" second || atOp "!" second || atGroup .brace second || atGroup .paren second ||
        atOp ".." second)) ||
    (atWord "self" tokens && atOp "::" second) || atOp "::" tokens || atOp "<" tokens ||
    atWords ["Self", "super", "crate"] tokens

/-- Reads a binding. -/
def bindingPattern (g : Grammar) : Parse Pattern := do
  let _ ← tryWord "ref"
  let _ ← tryWord "mut"
  if !(← tryWord "self") then
    let _ ← name
  if ← tryOp "@" then return { parts := (← g.pattern).parts } else return {}

/-- Reads a pattern without alternatives. Nothing inside a boxed pattern is looked at. -/
def pattern (g : Grammar) : Parse Pattern := do
  let tokens ← ahead
  if atPathPattern tokens then pathPattern g
  else if ← tryWord "_" then return {}
  else if ← tryWord "box" then
    let _ ← g.pattern
    return ⟨[], .unread⟩
  else if atOp "-" tokens || atLiteral tokens || atWord "const" tokens then
    match ← rangeBound g with
    | none => failure
    | some start => if ← peek (atOp "..") then rangeRest g start else return { parts := start }
  else if atWords ["ref", "mut", "self"] tokens || atName tokens then bindingPattern g
  else if ← tryOp "&" then
    let _ ← tryWord "mut"
    return { parts := (← g.pattern).parts }
  else if atGroup .paren tokens then return { parts := ← group .paren (patternList g) }
  else if atGroup .bracket tokens then
    return { parts := (← group .bracket (commaSeparated (sliceElement g))).flatten }
  else if atOp ".." tokens && !atOp "..." tokens then rangeWithoutStart g
  else failure

end ApiAtlas.Source.Reader

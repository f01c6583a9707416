import ApiAtlas.Source.Grammar.Basic

/-!
# Reading paths, bounds and generic parameters

Paths with generic arguments, trait bounds and the parameters that generic forms declare. Arguments
that are types keep their form; bounds, constants and parameters are kept by their parts only.
-/

namespace ApiAtlas.Source.Reader

open Parse

/-! ## Arguments of paths -/

/-- Reads a constant as a generic argument: a literal, a name or a block. -/
def constArgument (g : Grammar) : Parse Expr := do
  let tokens ← ahead
  if atLiteral tokens then return .literal (← Parse.literal)
  else if atName tokens then return .path none [.plain (← name).text]
  else if atGroup .brace tokens then blockExpr g
  else failure

/-- Whether a constant other than a name is ahead. -/
def atConstant (tokens : List TokenTree) : Bool :=
  atLiteral tokens || atGroup .brace tokens

/-- The parts of the arguments in angle brackets of a path that is a single segment; only such a path
names what an argument binds. -/
def bindingArguments? : Ty → Option (List Node)
  | .path none [.plain _] => some []
  | .path none [.angle _ args] => some (args.flatMap GenericArg.parts)
  | _ => none

/-- The end of a list of bounds inside angle brackets. -/
def atBoundEnd (tokens : List TokenTree) : Bool :=
  atOp "," tokens || atOp ">" tokens

/-- Reads bounds with plus signs between them, stopping before the tokens that end the list. -/
def parameterBounds (g : Grammar) (stop : List TokenTree → Bool) : Parse (List Node) := do
  return (← plusSeparated stop (g.bound .ofParameters)).flatMap Bound.parts

/-- Reads one generic argument. -/
def genericArgument (g : Grammar) : Parse GenericArg := do
  let tokens ← ahead
  if atLifetime tokens && !atOp "+" (tokens.drop 1) then return .lifetime (← Parse.lifetime)
  else if atConstant tokens then return .other [.expr (← constArgument g)]
  else
    let type ← g.type true
    match atOp "::" tokens, bindingArguments? type with
    | false, some parts =>
      if ← tryOp "=" then
        if ← peek atConstant then return .other (parts ++ [.expr (← constArgument g)])
        else return .other (parts ++ [.type (← g.type true)])
      else if ← tryOp ":" then return .other (parts ++ (← parameterBounds g atBoundEnd))
      else return .type type
    | _, _ => return .type type

/-- Reads generic arguments between angle brackets. -/
def angleArguments (g : Grammar) : Parse (List GenericArg) := do
  op "<"
  let args ← untilAngle (genericArgument g)
  op ">"
  return args

/-- Reads an arrow and a type, if there is an arrow. -/
def returnType (g : Grammar) (allowPlus : Bool) : Parse (Option Ty) := do
  if ← tryOp "->" then return some (← g.type allowPlus) else return none

/-- Whether parenthesized arguments are ahead, possibly after a double colon. -/
def atParenthesized (tokens : List TokenTree) : Bool :=
  atGroup .paren tokens || (atOp "::" tokens && atGroup .paren (tokens.drop 2))

/-- Reads a parenthesized argument list with its result by its parts. -/
def parenthesizedArguments (g : Grammar) : Parse (List Node) := do
  let _ ← tryOp "::"
  let inputs ← group .paren (commaSeparated (g.type true))
  let output ← returnType g false
  return inputs.map Node.type ++ optionalType output

/-! ## Segments and paths -/

/-- Whether generic arguments follow a segment. In expressions a double colon has to precede them. -/
def atArguments (exprStyle : Bool) (tokens : List TokenTree) : Bool :=
  (!exprStyle && atOp "<" tokens && !atOp "<=" tokens && !atOp "<<=" tokens) ||
    (atOp "::" tokens && atOp "<" (tokens.drop 2))

/-- Reads a segment of a path. -/
def segment (g : Grammar) (exprStyle : Bool) : Parse Segment := do
  if ← peek (atWords ["super", "self", "crate", "try"]) then return .plain (← anyWord).text
  else
    let ident ← if ← peek (atWord "Self") then anyWord else name
    if ← peek (atArguments exprStyle) then
      let _ ← tryOp "::"
      return .angle ident.text (← angleArguments g)
    else return .plain ident.text

/-- Reads the segments after the first, as long as no parentheses follow the double colon. -/
def moreSegments (g : Grammar) (exprStyle : Bool) : Parse (List Segment) :=
  collectWhile (fun tokens ↦ atOp "::" tokens && !atGroup .paren (tokens.drop 2)) do
    op "::"
    segment g exprStyle

/-- Reads a path. -/
def path (g : Grammar) (exprStyle : Bool) : Parse (List Segment) := do
  let _ ← tryOp "::"
  let first ← segment g exprStyle
  return first :: (← moreSegments g exprStyle)

/-- Reads a path that may start with a type in angle brackets. -/
def qualifiedPath (g : Grammar) (exprStyle : Bool) : Parse (Option Ty × List Segment) := do
  if ← tryOp "<" then
    let self ← g.type true
    let asTrait ← if ← tryWord "as" then path g false else pure []
    op ">"
    op "::"
    let first ← segment g exprStyle
    let rest ← collectWhile (atOp "::") do
      op "::"
      segment g exprStyle
    return (some self, asTrait ++ first :: rest)
  else return (none, ← path g exprStyle)

/-- The parts of a path. -/
def pathParts (self : Option Ty) (segments : List Segment) : List Node :=
  optionalType self ++ segments.flatMap Segment.parts

/-- Whether no segment of a path has arguments, not even an empty list of them. -/
def isPlain (segments : List Segment) : Bool :=
  segments.all Segment.isPlain

/-- Whether the last segment of a path has no arguments yet. -/
def endsBare (segments : List Segment) : Bool :=
  (segments.getLast?.map Segment.isBare).getD false

/-- A path whose last segment has a parenthesized argument list. -/
def withParenthesized (segments : List Segment) (parts : List Node) : List Segment :=
  match segments.getLast? with
  | some last => segments.dropLast ++ [.paren last.name parts]
  | none => []

/-! ## Generic parameters -/

/-- The end of the bounds of a type parameter. -/
def atParameterEnd (tokens : List TokenTree) : Bool :=
  atBoundEnd tokens || atOp "=" tokens

/-- Reads one generic parameter by its parts; the flag allows a blank in place of a type. -/
def genericParameter (g : Grammar) (allowBlank : Bool) : Parse (List Node) := do
  let attributes ← outerAttributes g
  let tokens ← ahead
  if atLifetime tokens then
    let _ ← Parse.lifetime
    if ← tryOp ":" then
      let _ ← plusSeparated atBoundEnd Parse.lifetime
    return attributes.parts
  else if ← tryWord "const" then
    let _ ← name
    op ":"
    let type ← g.type true
    let default ← if ← tryOp "=" then pure [.expr (← constArgument g)] else pure []
    return attributes.parts ++ .type type :: default
  else if allowBlank && atWord "_" tokens then
    let _ ← anyWord
    return attributes.parts
  else
    let _ ← name
    let bounds ← if ← tryOp ":" then parameterBounds g atParameterEnd else pure []
    let default ← if ← tryOp "=" then pure [.type (← g.type true)] else pure []
    return attributes.parts ++ bounds ++ default

/-- Reads generic parameters between angle brackets, if there are any. -/
def generics (g : Grammar) : Parse (List Node) := do
  if ← tryOp "<" then
    let params ← untilAngle (genericParameter g true)
    op ">"
    return params.flatten
  else return []

/-- Whether angle brackets ahead hold generic parameters rather than the type of a path. -/
def atGenerics (tokens : List TokenTree) : Bool :=
  let second := tokens.drop 1
  let third := tokens.drop 2
  atOp "<" tokens &&
    (atOp ">" second || atOp "#" second || atWord "const" second ||
      ((atLifetime second || atName second) &&
        (atOp ">" third || atOp "," third || (atOp ":" third && !atOp "::" third) ||
          atOp "=" third)))

/-- Reads a `for` binder by the parts of its parameters, if there is one. -/
def tryBinder (g : Grammar) : Parse (Option (List Node)) := do
  if ← tryWord "for" then
    op "<"
    let params ← untilAngle (genericParameter g false)
    op ">"
    return some params.flatten
  else return none

/-! ## Bounds -/

/-- Reads a list of captured parameters. -/
def captureList : Parse Unit := do
  word "use"
  op "<"
  let _ ← untilAngle do
    if ← peek atLifetime then
      let _ ← Parse.lifetime
    else if !(← tryWord "Self") then
      let _ ← name
  op ">"

/-- Reads the word `const` before a trait, which may stand in square brackets. -/
def tryConstMark : Parse Bool := do
  if ← peek (atGroup .bracket) then
    group .bracket (word "const")
    return true
  else tryWord "const"

/-- Reads a trait with its binder. A binder and a question mark exclude each other, and a constant
trait is passed over as a whole. -/
def traitBound (g : Grammar) (allowConst : Bool) : Parse Bound := do
  let before ← ahead
  let binder ← tryBinder g
  let isConst ← tryConstMark
  check (allowConst || !isConst)
  let isMaybe ← tryOp "?"
  check !(isMaybe && (binder.isSome || (← peek (atWord "for"))))
  let segments ← path g false
  let segments ←
    if endsBare segments && (← peek atParenthesized) then
      pure (withParenthesized segments (← parenthesizedArguments g))
    else pure segments
  if isConst then return ⟨true, [], false⟩
  else
    let parts := binder.getD [] ++ segments.flatMap Segment.parts
    return ⟨true, parts, ← endsInBrace before⟩

/-- Reads a bound: a lifetime, a list of captured parameters or a trait, which may stand in
parentheses. -/
def bound (g : Grammar) (rules : BoundRules) : Parse Bound := do
  let tokens ← ahead
  if atLifetime tokens then
    let _ ← Parse.lifetime
    return ⟨false, [], false⟩
  else if atWord "use" tokens then
    check rules.captures
    captureList
    return ⟨false, [], false⟩
  else if atGroup .paren tokens then group .paren (traitBound g rules.constants)
  else traitBound g rules.constants

/-- Whether another bound may follow a plus sign. -/
def atBound (rules : BoundRules) (tokens : List TokenTree) : Bool :=
  atAnyWord tokens || atOp "::" tokens || atOp "?" tokens || atLifetime tokens ||
    atGroup .paren tokens || (rules.constants && atGroup .bracket tokens)

/-- Reads further bounds, each after a plus sign; a last plus sign may be left over. -/
def moreBounds (g : Grammar) (rules : BoundRules) : Parse (List Bound) := do
  let found ← iterate (fun (state : Bool × List Bound) ↦ do
    if state.1 && (← tryOp "+") then
      if ← peek (atBound rules) then return some (true, state.2 ++ [← g.bound rules])
      else return some (false, state.2)
    else return none) (true, [])
  return found.2

/-- The parts of bounds. They end as the last of them does, also before a plus sign left over. -/
def boundParts (bounds : List Bound) : Parse (List Node) := do
  match bounds.getLast? with
  | some last => noteEnding last.endsInBrace
  | none => pure ()
  return bounds.flatMap Bound.parts

/-- Reads one bound, and with the flag those joined to it by plus signs; one of them has to be a
trait. -/
def traitBounds (g : Grammar) (rules : BoundRules) (allowPlus : Bool) : Parse (List Node) := do
  let first ← g.bound rules
  let rest ← if allowPlus then moreBounds g rules else pure []
  let found := first :: rest
  check (found.any Bound.isTrait)
  boundParts found

end ApiAtlas.Source.Reader

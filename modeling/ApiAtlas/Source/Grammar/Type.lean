import ApiAtlas.Source.Grammar.Path

/-!
# Reading types and where clauses

A type starts with a path, a bracket, a symbol or one of a few words. Where several bounds may be
joined by plus signs, bounds without a leading keyword are a type as well.
-/

namespace ApiAtlas.Source.Reader

open Parse

/-! ## Function pointers -/

/-- Whether the arguments of a function pointer end with any number of further ones here. -/
def atVariadic (tokens : List TokenTree) : Bool :=
  let second := tokens.drop 1
  atOp "..." tokens ||
    ((atName tokens || atWord "_" tokens) && atOp ":" second && atOp "..." (tokens.drop 2))

/-- Whether `mut self` is ahead. -/
def atMutSelf (tokens : List TokenTree) : Bool :=
  atWord "mut" tokens && atWord "self" (tokens.drop 1)

/-- Whether a name with its colon is ahead. -/
def atNamed (tokens : List TokenTree) : Bool :=
  let second := tokens.drop 1
  (atName tokens || atWords ["_", "self"] tokens) && atOp ":" second && !atOp "::" second

/-- Reads an argument of a function pointer after its attributes. The first one may be called `self`,
and one marked as a mutable `self` is passed over. -/
def pointerArgument (g : Grammar) (isFirst : Bool) : Parse (List Node) := do
  let isMutSelf ← peek fun tokens ↦ isFirst && atMutSelf tokens
  if isMutSelf then word "mut"
  let tokens ← ahead
  let isNamed := atNamed tokens && (isFirst || !atWord "self" tokens)
  if isNamed then
    let _ ← anyWord
    op ":"
  let isSelf := isNamed && atWord "self" tokens
  if isFirst && !isSelf && (← peek atMutSelf) then
    word "mut"
    word "self"
    return []
  else if isMutSelf && !isNamed then
    word "self"
    return []
  else
    let type ← g.type true
    return if isMutSelf then [] else [.type type]

/-- Reads the arguments of a function pointer. -/
def pointerArguments (g : Grammar) : Parse (List Node) := do
  let found ← iterate (fun (state : Bool × Bool × List Node) ↦ do
    let (isOver, isFirst, parts) := state
    if isOver || (← isEmpty) then return none
    else
      let attributes ← outerAttributes g
      if ← peek atVariadic then
        if !(← tryOp "...") then
          let _ ← anyWord
          op ":"
          op "..."
        let _ ← tryOp ","
        return some (true, false, parts ++ attributes.parts)
      else
        let argument ← pointerArgument g isFirst
        if !(← isEmpty) then op ","
        return some (false, false, parts ++ attributes.parts ++ argument)) (false, true, [])
  return found.2.2

/-- Reads the name of a calling convention, if there is one. -/
def tryAbi : Parse Unit := do
  if ← tryWord "extern" then
    if ← peek atText then
      let _ ← Parse.literal

/-- Reads a function pointer type after its binder. -/
def functionPointer (g : Grammar) (binder : List Node) : Parse Ty := do
  let _ ← tryWord "unsafe"
  tryAbi
  word "fn"
  let inputs ← group .paren (pointerArguments g)
  let output ← returnType g false
  return .other (binder ++ inputs ++ optionalType output)

/-! ## Parentheses -/

/-- Reads bounds, each after a plus sign, as long as there is one. -/
def requiredBounds (g : Grammar) : Parse (List Bound) :=
  collectWhile (atOp "+") do
    op "+"
    g.bound .traitsOnly

/-- The parts of a type in parentheses after which further bounds may follow. -/
def soleBound? : Ty → Option (List Node)
  | .path none segments => some (segments.flatMap Segment.parts)
  | .bounds true parts => some parts
  | _ => none

/-- Reads a type that starts with parentheses: a tuple, a type or a bound. -/
def parenthesizedType (g : Grammar) (allowPlus : Bool) : Parse Ty := do
  let (type, bound) ← group .paren do
    let tokens ← ahead
    if tokens.isEmpty then return (Ty.tuple [], none)
    else if atLifetime tokens then
      return (.paren (.bounds false (← traitBounds g .traitsOnly true)), none)
    else if atOp "?" tokens then return (.tuple [], some (← traitBound g false))
    else
      let first ← g.type true
      if ← tryOp "," then return (.tuple (first :: (← commaSeparated (g.type true))), none)
      else return (.paren first, none)
  let isJoined ← peek (atOp "+")
  match type, bound with
  | _, some bound => return .bounds (!isJoined) (← boundParts (bound :: (← requiredBounds g)))
  | .paren inner, none =>
    match soleBound? inner with
    | some parts =>
      if allowPlus && isJoined then
        return .bounds false (parts ++ (← boundParts (← requiredBounds g)))
      else return type
    | none => return type
  | _, none => return type

/-! ## Types -/

/-- Reads a type that starts with a path. After a binder, or before a plus sign where that is
allowed, the path is a bound. -/
def pathType (g : Grammar) (allowPlus : Bool) (binder : Option (List Node)) : Parse Ty := do
  let (self, segments) ← qualifiedPath g false
  let tokens ← ahead
  if self.isSome then return .path self segments
  else if atBang tokens && isPlain segments then
    op "!"
    let _ ← anyGroup
    return .other []
  else
    let isJoined := allowPlus && atOp "+" tokens
    if binder.isSome || isJoined then
      let more ← if isJoined then moreBounds g .traitsOnly else pure []
      let parts := binder.getD [] ++ segments.flatMap Segment.parts
      return .bounds (!isJoined) (parts ++ (← boundParts more))
    else return .path none segments

/-- Whether a list of tokens starts with a path. -/
def atPath (tokens : List TokenTree) : Bool :=
  atName tokens || atWords pathWords tokens || atOp "::" tokens || atOp "<" tokens

/-- Reads a slice or an array. -/
def bracketedType (g : Grammar) : Parse Ty :=
  group .bracket do
    let element ← g.type true
    if ← tryOp ";" then return .array element (← g.expr true) else return .slice element

/-- Reads a type. -/
def type (g : Grammar) (allowPlus : Bool) : Parse Ty := do
  let binder ← tryBinder g
  let tokens ← ahead
  check (binder.isNone || atName tokens ||
    atWords (pathWords ++ ["fn", "unsafe", "extern"]) tokens)
  if atGroup .paren tokens then parenthesizedType g allowPlus
  else if atWords ["fn", "unsafe", "extern"] tokens then functionPointer g (binder.getD [])
  else if atBuiltin tokens then
    builtin
    return .other []
  else if atPath tokens then pathType g allowPlus binder
  else if ← tryWord "dyn" then
    let isStarred ← tryOp "*"
    let parts ← traitBounds g .traitsOnly allowPlus
    if isStarred then
      noteEnding false
      return .other []
    else return .other parts
  else if atGroup .bracket tokens then bracketedType g
  else if ← tryOp "*" then
    check (← peek (atWords ["const", "mut"]))
    let _ ← anyWord
    return .other [.type (← g.type false)]
  else if ← tryOp "&" then
    let lifetime ← tryLifetime
    let mutable ← tryWord "mut"
    return .reference lifetime mutable (← g.type false)
  else if ← tryOp "!" then return .other []
  else if ← tryWord "impl" then return .other (← traitBounds g .ofImpl allowPlus)
  else if ← tryWord "_" then return .other []
  else if atLifetime tokens then return .bounds false (← traitBounds g .traitsOnly true)
  else failure

/-! ## Where clauses -/

/-- The end of a where clause or of one of its bounds. -/
def atClauseEnd (tokens : List TokenTree) : Bool :=
  tokens.isEmpty || atGroup .brace tokens || atOp "," tokens || atOp ";" tokens ||
    (atOp ":" tokens && !atOp "::" tokens) || atOp "=" tokens

/-- Reads one predicate of a where clause. -/
def predicate (g : Grammar) : Parse (List Node) := do
  let tokens ← ahead
  if atLifetime tokens && atOp ":" (tokens.drop 1) then
    let _ ← Parse.lifetime
    op ":"
    let _ ← plusSeparated atClauseEnd Parse.lifetime
    return []
  else
    let binder ← tryBinder g
    let type ← g.type true
    op ":"
    return binder.getD [] ++ .type type :: (← parameterBounds g atClauseEnd)

/-- Reads a where clause, if there is one. It may not start like generic parameters. -/
def whereClause (g : Grammar) : Parse (List Node) := do
  if ← tryWord "where" then
    check !(← peek atGenerics)
    let found ← iterate (fun (state : Bool × List Node) ↦ do
      if !state.1 || atClauseEnd (← ahead) then return none
      else
        let parts ← predicate g
        return some (← tryOp ",", state.2 ++ parts)) (true, [])
    return found.2
  else return []

end ApiAtlas.Source.Reader

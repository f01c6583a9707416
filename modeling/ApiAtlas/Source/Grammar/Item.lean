import ApiAtlas.Source.Grammar.Expression

/-!
# Reading statements and items

Functions, structs, enums, aliases, constants, implementation blocks and modules keep their own
form. Items of other kinds are kept by their parts, and those without a meaning of their own, such as
functions without a body, by nothing at all.
-/

namespace ApiAtlas.Source.Reader

open Parse

/-! ## Visibility -/

/-- Whether parentheses after `pub` restrict it. -/
def atRestriction : List TokenTree → Bool
  | .group .paren content :: _ =>
    atWord "in" content || (content.length == 1 && atWords ["crate", "self", "super"] content)
  | _ => false

/-- Reads a visibility: nothing if there is none, and otherwise whether it is unrestricted. -/
def visibility : Parse (Option Bool) := do
  if ← tryWord "pub" then
    if ← peek atRestriction then
      group .paren do
        if ← tryWord "in" then
          let _ ← plainPath
        else
          let _ ← anyWord
      return some false
    else return some true
  else return none

/-! ## Macro items -/

/-- Whether a path ahead may start a macro item. -/
def atMacroPath (tokens : List TokenTree) : Bool :=
  atName tokens || atWords ["self", "super", "crate"] tokens || atOp "::" tokens

/-- Reads the body of a macro item. Without braces it needs a semicolon. -/
def macroBody : Parse Unit := do
  let (delimiter, _) ← anyGroup
  if delimiter != .brace then op ";"

/-- Reads a macro item, which may name what it defines. -/
def macroItem : Parse Unit := do
  let _ ← plainPath
  op "!"
  if ← peek fun tokens ↦ atName tokens || atWord "try" tokens then
    let _ ← anyWord
  macroBody

/-- Reads a macro call in place of a member. -/
def macroMember : Parse Unit := do
  let _ ← plainPath
  op "!"
  macroBody

/-! ## Functions -/

/-- The head of a function. -/
structure Signature where
  name : Ident
  context : List Node
  params : List Param
  output : Option Ty

/-- The tokens after a calling convention, if one is ahead. -/
def dropAbi (tokens : List TokenTree) : List TokenTree :=
  if atWord "extern" tokens then
    let rest := tokens.drop 1
    if atText rest then rest.drop 1 else rest
  else tokens

/-- The tokens after a given word, if it is ahead. -/
def dropWord (text : String) (tokens : List TokenTree) : List TokenTree :=
  if atWord text tokens then tokens.drop 1 else tokens

/-- Whether the head of a function is ahead; the flag allows the word `safe`. -/
def atSignature (allowSafe : Bool) (tokens : List TokenTree) : Bool :=
  let marked := dropWord "async" (dropWord "const" tokens)
  let rest := if allowSafe && atWord "safe" marked then marked.drop 1 else dropWord "unsafe" marked
  atWord "fn" (dropAbi rest)

/-- Whether a `self` parameter is ahead, and not a path that starts with `self`. -/
def atReceiver (tokens : List TokenTree) : Bool :=
  let target :=
    if atOp "&" tokens then
      let rest := tokens.drop 1
      if atLifetime rest then rest.drop 1 else rest
    else tokens
  let rest := dropWord "mut" target
  atWord "self" rest && !atOp "::" (rest.drop 1)

/-- Reads a `self` parameter. -/
def receiver (g : Grammar) : Parse (List Node) := do
  let byReference ← tryOp "&"
  if byReference then
    let _ ← tryLifetime
  let _ ← tryWord "mut"
  word "self"
  if !byReference && (← tryOp ":") then return [.type (← g.type true)] else return []

/-- Reads a parameter after its attributes. A type alone may stand for one whose type has
arguments. -/
def param (g : Grammar) (attributes : List Node) : Parse Param := do
  let tokens ← ahead
  if ← tryOp "..." then return .variadic attributes
  else if atReceiver tokens then return .receiver (attributes ++ (← receiver g))
  else if atName tokens && atOp "<" (tokens.drop 1) then return .typed attributes (← g.type true)
  else
    let pattern ← g.pattern
    op ":"
    if ← tryOp "..." then return .variadic (attributes ++ pattern.parts)
    else return .typed (attributes ++ pattern.parts) (← g.type true)

/-- Reads the parameters of a function. Only the first may be `self`, and a variadic one is last. -/
def params (g : Grammar) : Parse (List Param) := do
  let found ← iterate (fun (state : Bool × List Param) ↦ do
    if state.1 || (← isEmpty) then return none
    else
      let attributes ← outerAttributes g
      let next ← param g attributes.parts
      if !(← isEmpty) then op ","
      match next with
      | .receiver parts =>
        check state.2.isEmpty
        return some (false, [.receiver parts])
      | .variadic parts => return some (true, state.2 ++ [.variadic parts])
      | next => return some (false, state.2 ++ [next])) (false, [])
  return found.2

/-- Reads the head of a function after the words before `fn`. -/
def signatureRest (g : Grammar) : Parse Signature := do
  tryAbi
  word "fn"
  let name ← name
  let generics ← generics g
  let params ← group .paren (params g)
  let output ← returnType g true
  let clause ← whereClause g
  return ⟨name, generics ++ clause, params, output⟩

/-- Reads the head of a function. -/
def signature (g : Grammar) : Parse Signature := do
  let _ ← tryWord "const"
  let _ ← tryWord "async"
  let _ ← tryWord "unsafe"
  signatureRest g

/-- A function from its head and its body. -/
def Signature.withBody (head : Signature) (attributes : Attributes) (isPublic : Bool)
    (body : List Stmt) : Function where
  attributes := attributes.list
  context := attributes.parts ++ head.context
  isPublic := isPublic
  name := head.name
  params := head.params
  output := head.output
  body := body

/-- The parts of a function without a body. -/
def Signature.parts (head : Signature) : List Node :=
  head.context ++ head.params.flatMap Param.parts ++ optionalType head.output

/-! ## Statements -/

/-- Reads what a `let` statement assigns. A fallback may follow unless the value ends with braces. -/
def letValue (g : Grammar) : Parse (List Node) := do
  let before ← ahead
  let value ← g.expr true
  if !(← endsInBrace before) && (← tryWord "else") then
    return .expr value :: blockParts (← block g)
  else return [.expr value]

/-- Reads a `let` statement. -/
def letStmt (g : Grammar) : Parse (List Node) := do
  word "let"
  let pattern ← g.pattern
  let type ← if ← tryOp ":" then pure [.type (← g.type true)] else pure []
  let value ← if ← tryOp "=" then letValue g else pure []
  op ";"
  return pattern.parts ++ type ++ value

/-- Whether a statement ahead is an item. -/
def atItem (tokens : List TokenTree) : Bool :=
  let second := tokens.drop 1
  let third := tokens.drop 2
  let functionStart := ["unsafe", "extern", "fn"]
  atWords ["pub", "extern", "use", "fn", "mod", "type", "struct", "enum", "trait", "impl",
      "macro"] tokens ||
    (atWord "crate" tokens && !atOp "::" second) ||
    (atWord "static" tokens && (atWord "mut" second || atName second)) ||
    (atWord "const" tokens &&
      !(atGroup .brace second || atWord "static" second || atWord "move" second ||
        atOp "|" second || (atWord "async" second && !atWords functionStart third))) ||
    (atWord "unsafe" tokens && !atGroup .brace second) ||
    (atWord "async" tokens && atWords functionStart second) ||
    (atWord "union" tokens && atName second) || (atWord "auto" tokens && atWord "trait" second) ||
    (atWord "default" tokens && atWords ["unsafe", "impl"] second)

/-- What follows a path ahead when it calls a macro: a name that makes the call an item, or braces
that make it a statement. -/
inductive MacroStart
  | item
  | stmt
  | none
  deriving DecidableEq

/-- Whether the tokens ahead start with a macro call, and of which kind. -/
def macroStart (tokens : List TokenTree) : MacroStart :=
  match runFront? plainPath tokens with
  | some (_, rest) =>
    let second := rest.drop 1
    let third := rest.drop 2
    if !atOp "!" rest then .none
    else if atName second || atWord "try" second then .item
    else if atGroup .brace second && !((atOp "." third && !atOp ".." third) || atOp "?" third) then
      .stmt
    else .none
  | none => .none

/-- Reads a statement, and tells whether another one may follow it at once. -/
def statement (g : Grammar) : Parse (Stmt × Bool) := do
  let start ← ahead
  let attributes ← outerAttributes g
  let tokens ← ahead
  let kind := macroStart tokens
  if kind == .stmt then
    let _ ← plainPath
    op "!"
    let _ ← anyGroup
    let _ ← tryOp ";"
    return (.other attributes.parts, true)
  else if atWord "let" tokens then return (.other (attributes.parts ++ (← letStmt g)), true)
  else if atItem tokens || kind == .item then
    moveTo start
    return (.item (← g.item), true)
  else
    let e ← early g
    let closed ← tryOp ";"
    let value := e.expr.annotateFirst attributes.parts
    if e.shape == .bracedMacro || (closed && e.shape == .otherMacro) then
      return (.other attributes.parts, true)
    else return (.expr value, closed || e.shape == .blockLike)

/-- Reads the statements of a block up to its end. -/
def stmts (g : Grammar) : Parse (List Stmt) :=
  untilEmpty do
    if ← tryOp ";" then return .expr .unread
    else
      let (stmt, complete) ← statement g
      check (complete || (← isEmpty))
      return stmt

/-! ## Structs and enums -/

/-- Whether the fields of a struct or union without a name are ahead. -/
def atNamelessFields (tokens : List TokenTree) : Bool :=
  atWord "struct" tokens || (atWord "union" tokens && atGroup .brace (tokens.drop 1))

/-- Reads the type of a field without looking at it, if it lists fields itself. -/
def fieldType (g : Grammar) (isBlank : Bool) : Parse Ty := do
  if isBlank && (← peek atNamelessFields) then
    let _ ← anyWord
    let _ ← g.namedFields
    return .other []
  else g.type true

/-- Reads a named field. -/
def namedField (g : Grammar) : Parse Field := do
  let attributes ← outerAttributes g
  let _ ← visibility
  let name ← nameOrBlank
  op ":"
  let type ← fieldType g (name.text == "_")
  return ⟨attributes.list, attributes.parts, some name.text, type⟩

/-- Reads a field without a name. -/
def unnamedField (g : Grammar) : Parse Field := do
  let attributes ← outerAttributes g
  let _ ← visibility
  let type ← g.type true
  return ⟨attributes.list, attributes.parts, none, type⟩

/-- Reads the named fields between braces. -/
def namedFields (g : Grammar) : Parse (List Field) :=
  group .brace (commaSeparated (namedField g))

/-- Reads the fields between parentheses. -/
def unnamedFields (g : Grammar) : Parse Fields := do
  return .unnamed (← group .paren (commaSeparated (unnamedField g)))

/-- Reads the rest of a struct after its generics: its where clause and its fields. -/
def structRest (g : Grammar) : Parse (List Node × Fields) := do
  let hasClause ← peek (atWord "where")
  let clause ← whereClause g
  if !hasClause && (← peek (atGroup .paren)) then
    let fields ← unnamedFields g
    let clause ← whereClause g
    op ";"
    return (clause, fields)
  else if ← peek (atGroup .brace) then return (clause, .named (← namedFields g))
  else
    op ";"
    return (clause, .unit)

/-- Reads a variant of an enum. -/
def variant (g : Grammar) : Parse Variant := do
  let attributes ← outerAttributes g
  let _ ← visibility
  let name ← name
  let tokens ← ahead
  let fields ←
    if atGroup .brace tokens then pure (.named (← namedFields g))
    else if atGroup .paren tokens then unnamedFields g
    else pure .unit
  let discriminant ← if ← tryOp "=" then pure (some (← g.expr true)) else pure none
  return ⟨attributes.list, attributes.parts, name.text, fields, discriminant⟩

/-! ## Constants and type members -/

/-- What a constant is made of: its type, its value, and whether generics or a where clause make it
unusual. -/
structure Constant where
  type : Ty
  value : Option Expr
  isUnusual : Bool

/-- Reads a constant after the word `const`. -/
def constant (g : Grammar) : Parse Constant := do
  let _ ← nameOrBlank
  let hasGenerics ← peek (atOp "<")
  let _ ← generics g
  op ":"
  let type ← g.type true
  let value ← if ← tryOp "=" then pure (some (← g.expr true)) else pure none
  let hasClause ← peek (atWord "where")
  let _ ← whereClause g
  op ";"
  return ⟨type, value, hasGenerics || hasClause⟩

/-- The end of the bounds of an associated type. -/
def atTypeBoundEnd (tokens : List TokenTree) : Bool :=
  atWord "where" tokens || atOp "=" tokens || atOp ";" tokens

/-- What an alias or an associated type is made of. -/
structure TypeMember where
  name : Ident
  context : List Node
  bounds : Option (List Node)
  target : Option Ty

/-- Reads an alias or an associated type; the flags say where its where clause may stand. There is at
most one. -/
def typeMember (g : Grammar) (clauseBefore clauseAfter : Bool) : Parse TypeMember := do
  word "type"
  let name ← name
  let params ← generics g
  let bounds ←
    if ← tryOp ":" then do pure (some (← parameterBounds g atTypeBoundEnd)) else pure none
  let hasBefore ← peek fun tokens ↦ clauseBefore && atWord "where" tokens
  let before ← if hasBefore then whereClause g else pure []
  let target ← if ← tryOp "=" then pure (some (← g.type true)) else pure none
  let after ← if clauseAfter && !hasBefore then whereClause g else pure []
  op ";"
  return ⟨name, params ++ before ++ after, bounds, target⟩

/-! ## Implementations and traits -/

/-- Reads a member of an implementation block. -/
def implMember (g : Grammar) : Parse Member := do
  let attributes ← outerAttributes g
  let access ← visibility
  let tokens ← ahead
  let isDefault := atWord "default" tokens && !atOp "!" (tokens.drop 1)
  if isDefault then moveTo (tokens.drop 1)
  let tokens ← ahead
  if atSignature false tokens then
    let head ← signature g
    if ← tryOp ";" then return .other []
    else
      let (inner, body) ← annotatedBlock g
      return .function (head.withBody (attributes.append inner) (access == some true) body)
  else if ← tryWord "const" then
    let found ← constant g
    match found.value with
    | some value =>
      if found.isUnusual then return .other []
      else return .other (attributes.parts ++ [.type found.type, .expr value])
    | none => return .other []
  else if atWord "type" tokens then
    let found ← typeMember g false true
    match found.target, found.bounds with
    | some target, none => return .other (attributes.parts ++ found.context ++ [.type target])
    | _, _ => return .other []
  else
    check (access.isNone && !isDefault && atMacroPath tokens)
    macroMember
    return .other attributes.parts

/-- Whether a type may name a trait. -/
def traitArguments? : Ty → Option (List Node)
  | .path none segments => some (segments.flatMap Segment.parts)
  | _ => none

/-- Reads an implementation block. One with a visibility, one that is constant, and one of what is
no trait have no meaning. -/
def implementation (g : Grammar) (attributes : Attributes) : Parse Item := do
  let access ← visibility
  let _ ← tryWord "default"
  let _ ← tryWord "unsafe"
  word "impl"
  let params ← if ← peek atGenerics then generics g else pure []
  let isConst ← peek fun tokens ↦
    atWord "const" tokens || (atOp "?" tokens && atWord "const" (tokens.drop 1))
  if isConst then
    let _ ← tryOp "?"
    word "const"
  let isNegative ← peek fun tokens ↦ atOp "!" tokens && !atGroup .brace (tokens.drop 1)
  if isNegative then op "!"
  let first ← g.type true
  let isFor ← tryWord "for"
  check (isFor || !isNegative)
  let trait := if isFor then traitArguments? first else some []
  let self ← if isFor then g.type true else pure first
  let clause ← whereClause g
  let (inner, members) ← group .brace do
    let inner ← innerAttributes g
    return (inner, ← untilEmpty (implMember g))
  match trait with
  | some arguments =>
    if access.isSome || isConst then return .other []
    else
      let context := attributes.parts ++ inner.parts ++ params ++ clause ++ arguments
      return .implementation context self members
  | none => return .other []

/-- Reads a member of a trait. One with a visibility or the word `default`, and a constant with
generics, are passed over. -/
def traitMember (g : Grammar) : Parse (List Node) := do
  let attributes ← outerAttributes g
  let access ← visibility
  let isDefault ← tryWord "default"
  let tokens ← ahead
  let parts ←
    if atSignature false tokens then do
      let head ← signature g
      if ← tryOp ";" then pure (some head.parts)
      else do
        let (inner, body) ← annotatedBlock g
        pure (some (inner.parts ++ head.parts ++ blockParts body))
    else if ← tryWord "const" then do
      let found ← constant g
      pure (if found.isUnusual then none else some (.type found.type :: optionalExpr found.value))
    else if atWord "type" tokens then do
      let found ← typeMember g false true
      pure (some (found.context ++ found.bounds.getD [] ++ optionalType found.target))
    else do
      check (access.isNone && !isDefault && atMacroPath tokens)
      macroMember
      pure (some [])
  match parts with
  | some parts => return if access.isSome || isDefault then [] else attributes.parts ++ parts
  | none => return []

/-- Whether the bounds of a trait end here. -/
def atTraitBoundEnd (tokens : List TokenTree) : Bool :=
  atWord "where" tokens || atGroup .brace tokens || atOp ";" tokens

/-- Reads a trait or an alias of one. -/
def traitItem (g : Grammar) (attributes : Attributes) : Parse Item := do
  let _ ← visibility
  let isUnsafe ← tryWord "unsafe"
  let isAuto ← tryWord "auto"
  word "trait"
  let _ ← name
  let params ← generics g
  if !isUnsafe && !isAuto && (← tryOp "=") then
    let bounds ← plusSeparated atTraitBoundEnd (g.bound .traitsOnly)
    let clause ← whereClause g
    op ";"
    return .other (attributes.parts ++ params ++ clause ++ bounds.flatMap Bound.parts)
  else
    let bounds ← if ← tryOp ":" then parameterBounds g atTraitBoundEnd else pure []
    let clause ← whereClause g
    let (inner, members) ← group .brace do
      let inner ← innerAttributes g
      return (inner, ← untilEmpty (traitMember g))
    return .other (attributes.parts ++ inner.parts ++ params ++ clause ++ bounds ++
      members.flatten)

/-! ## Other items -/

/-- Reads a static item after its visibility. -/
def staticItem (g : Grammar) : Parse (List Node) := do
  word "static"
  let _ ← tryWord "mut"
  let _ ← name
  if ← tryOp "=" then
    let _ ← g.expr true
    op ";"
    return []
  else
    op ":"
    let type ← g.type true
    if ← tryOp ";" then return []
    else
      op "="
      let value ← g.expr true
      op ";"
      return [.type type, .expr value]

/-- Reads the names that a `use` brings in. Inside braces a path may start at the root if nothing
stands before the braces; the result tells whether one does. -/
def useTree (g : Grammar) (allowRoot : Bool) : Parse Bool := do
  if ← tryOp "*" then return false
  else if ← peek (atGroup .brace) then
    let found ← group .brace <| commaSeparated do
      let isRooted ← if allowRoot then tryOp "::" else pure false
      let isInside ← g.useTree (allowRoot && !isRooted)
      return isRooted || isInside
    return found.any id
  else
    let ident ← anyWord
    check (isName ident.text || ["self", "super", "crate", "try"].contains ident.text)
    if ← tryOp "::" then g.useTree false
    else
      if ← tryWord "as" then
        let _ ← nameOrBlank
      return false

/-- Reads a `use`. One with a path from the root inside braces is passed over. -/
def useItem (g : Grammar) (attributes : Attributes) : Parse Item := do
  let _ ← visibility
  word "use"
  let isRooted ← tryOp "::"
  let isUnusual ← useTree g (!isRooted)
  op ";"
  return .other (if isUnusual then [] else attributes.parts)

/-- Reads a foreign function. One with a body or the word `safe` is passed over. -/
def foreignFunction (g : Grammar) (attributes : List Node) : Parse (List Node) := do
  let _ ← tryWord "const"
  let _ ← tryWord "async"
  let isUnsafe ← tryWord "unsafe"
  let isSafe ← if isUnsafe then pure false else tryWord "safe"
  let head ← signatureRest g
  if ← tryOp ";" then return if isSafe then [] else attributes ++ head.parts
  else
    let _ ← annotatedBlock g
    return []

/-- Whether a foreign static is ahead. -/
def atForeignStatic (tokens : List TokenTree) : Bool :=
  atWord "static" tokens ||
    (atWords ["unsafe", "safe"] tokens && atWord "static" (tokens.drop 1))

/-- Reads a foreign static. One with a value or a mark before it is passed over. -/
def foreignStatic (g : Grammar) (attributes : List Node) : Parse (List Node) := do
  let isMarked ← peek (atWords ["unsafe", "safe"])
  if isMarked then
    let _ ← anyWord
  word "static"
  let _ ← tryWord "mut"
  let _ ← name
  op ":"
  let type ← g.type true
  let hasValue ← tryOp "="
  if hasValue then
    let _ ← g.expr true
  op ";"
  return if isMarked || hasValue then [] else attributes ++ [.type type]

/-- Reads an item of a foreign block. -/
def foreignItem (g : Grammar) : Parse (List Node) := do
  let attributes ← outerAttributes g
  let access ← visibility
  let tokens ← ahead
  if atSignature true tokens then foreignFunction g attributes.parts
  else if atForeignStatic tokens then foreignStatic g attributes.parts
  else if atWord "type" tokens then
    let found ← typeMember g true true
    return if found.target.isSome || found.bounds.isSome then []
      else attributes.parts ++ found.context
  else
    check (access.isNone && atMacroPath tokens)
    macroMember
    return attributes.parts

/-- Reads an external crate. -/
def externCrate (attributes : Attributes) : Parse Item := do
  let _ ← visibility
  word "extern"
  word "crate"
  if !(← tryWord "self") then
    let _ ← name
  if ← tryWord "as" then
    let _ ← nameOrBlank
  op ";"
  return .other attributes.parts

/-- Reads a block of foreign items. -/
def foreignBlock (g : Grammar) (attributes : Attributes) : Parse Item := do
  let _ ← tryWord "unsafe"
  word "extern"
  if ← peek atText then
    let _ ← Parse.literal
  let (inner, items) ← group .brace do
    let inner ← innerAttributes g
    return (inner, ← untilEmpty (foreignItem g))
  return .other (attributes.parts ++ inner.parts ++ items.flatten)

/-- Reads a module. -/
def moduleItem (g : Grammar) (attributes : Attributes) : Parse Item := do
  let _ ← visibility
  let _ ← tryWord "unsafe"
  word "mod"
  let ident ← if ← peek (atWord "try") then anyWord else name
  if ← tryOp ";" then return .module attributes.parts ident.text []
  else
    let (inner, items) ← group .brace do
      let inner ← innerAttributes g
      return (inner, ← untilEmpty g.item)
    return .module (attributes.parts ++ inner.parts) ident.text items

/-- Reads a function with a visibility; one without a body has no meaning. -/
def functionItem (g : Grammar) (attributes : Attributes) : Parse Item := do
  let access ← visibility
  let head ← signature g
  if ← tryOp ";" then return .other []
  else
    let (inner, body) ← annotatedBlock g
    return .function (head.withBody (attributes.append inner) (access == some true) body)

/-- Reads a struct. -/
def structItem (g : Grammar) (attributes : Attributes) : Parse Item := do
  let _ ← visibility
  word "struct"
  let name ← name
  let params ← generics g
  let (clause, fields) ← structRest g
  return .struct attributes.list (attributes.parts ++ params ++ clause) name fields

/-- Reads an enum. -/
def enumItem (g : Grammar) (attributes : Attributes) : Parse Item := do
  let _ ← visibility
  word "enum"
  let name ← name
  let params ← generics g
  let clause ← whereClause g
  let variants ← group .brace (commaSeparated (variant g))
  return .enum attributes.list (attributes.parts ++ params ++ clause) name variants

/-- Reads a union. -/
def unionItem (g : Grammar) (attributes : Attributes) : Parse Item := do
  let _ ← visibility
  word "union"
  let _ ← name
  let params ← generics g
  let clause ← whereClause g
  let fields ← namedFields g
  return .other (attributes.parts ++ params ++ clause ++ (Fields.named fields).parts)

/-- Reads an alias; one with bounds or without a target has no meaning. -/
def aliasItem (g : Grammar) (attributes : Attributes) : Parse Item := do
  let _ ← visibility
  let found ← typeMember g true false
  match found.target, found.bounds with
  | some target, none =>
    return .typeAlias attributes.list (attributes.parts ++ found.context) found.name target
  | _, _ => return .other []

/-- Reads a constant; one without a value or with generics has no meaning. -/
def constantItem (g : Grammar) (attributes : Attributes) : Parse Item := do
  let _ ← visibility
  word "const"
  let found ← constant g
  match found.value with
  | some value =>
    if found.isUnusual then return .other []
    else return .constant attributes.parts found.type value
  | none => return .other []

/-- Reads a macro definition by name. -/
def macroDefinition : Parse Item := do
  let _ ← visibility
  word "macro"
  let _ ← name
  if ← peek (atGroup .paren) then
    let _ ← anyGroup
  check (← peek (atGroup .brace))
  let _ ← anyGroup
  return .other []

/-- Reads an item. -/
def item (g : Grammar) : Parse Item := do
  let attributes ← outerAttributes g
  match runFront? visibility (← ahead) with
  | none => failure
  | some (access, tokens) =>
    let second := tokens.drop 1
    if atSignature false tokens then functionItem g attributes
    else if atWord "extern" tokens then
      if atWord "crate" second then externCrate attributes else foreignBlock g attributes
    else if atWord "use" tokens then useItem g attributes
    else if atWord "static" tokens then
      let _ ← visibility
      let parts ← staticItem g
      return .other (if parts.isEmpty then [] else attributes.parts ++ parts)
    else if atWord "const" tokens then constantItem g attributes
    else if atWord "unsafe" tokens then
      if atWord "trait" second || (atWord "auto" second && atWord "trait" (tokens.drop 2)) then
        traitItem g attributes
      else if atWord "impl" second then implementation g attributes
      else if atWord "extern" second then foreignBlock g attributes
      else moduleItem g attributes
    else if atWord "mod" tokens then moduleItem g attributes
    else if atWord "type" tokens then aliasItem g attributes
    else if atWord "struct" tokens then structItem g attributes
    else if atWord "enum" tokens then enumItem g attributes
    else if atWord "union" tokens && atName second then unionItem g attributes
    else if atWord "trait" tokens || (atWord "auto" tokens && atWord "trait" second) then
      traitItem g attributes
    else if atWord "impl" tokens || (atWord "default" tokens && !atOp "!" second) then
      implementation g attributes
    else if atWord "macro" tokens then macroDefinition
    else
      check (access.isNone && atMacroPath tokens)
      macroItem
      return .other attributes.parts

end ApiAtlas.Source.Reader

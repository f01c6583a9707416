import ApiAtlas.Source.Grammar.Pattern
import ApiAtlas.Text.Split

/-!
# Reading expressions

Expressions are read by precedence climbing: an operand with the operators before it, then binary
operators, assignments, ranges and casts, each as far as its level allows. A statement or a match
arm that starts with a block-like expression ends with it unless a method call follows.
-/

namespace ApiAtlas.Source.Reader

open Parse

/-! ## Levels of operators -/

/-- The levels of binary operators, from loose to tight. -/
def binaryOperators : List (String × Nat) :=
  [("+=", 1), ("-=", 1), ("*=", 1), ("/=", 1), ("%=", 1), ("^=", 1), ("&=", 1), ("|=", 1),
   ("<<=", 1), (">>=", 1), ("&&", 4), ("||", 3), ("<<", 10), (">>", 10), ("==", 6), ("<=", 6),
   ("!=", 6), (">=", 6), ("+", 11), ("-", 11), ("*", 12), ("/", 12), ("%", 12), ("^", 8), ("&", 9),
   ("|", 7), ("<", 6), (">", 6)]

/-- The loosest level. -/
def jumpLevel : Nat := 0

/-- The level of assignments. -/
def assignLevel : Nat := 1

/-- The level of ranges. -/
def rangeLevel : Nat := 2

/-- The level of comparisons. -/
def compareLevel : Nat := 6

/-- The level of casts. -/
def castLevel : Nat := 13

/-- The binary operator ahead, with its level. -/
def binaryOperator? (tokens : List TokenTree) : Option (String × Nat) :=
  binaryOperators.find? fun (spelling, _) ↦ atOp spelling tokens

/-- Whether an assignment is ahead. -/
def atAssign (tokens : List TokenTree) : Bool :=
  atOp "=" tokens && !atOp "=>" tokens

/-- The level of the operator ahead. -/
def levelAhead (tokens : List TokenTree) : Nat :=
  match binaryOperator? tokens with
  | some (_, level) => level
  | none =>
    if atAssign tokens then assignLevel
    else if atOp ".." tokens then rangeLevel
    else if atWord "as" tokens then castLevel
    else jumpLevel

/-! ## Binary operators -/

/-- Reads the right operand of an operator of a given level. -/
def rightOperand (g : Grammar) (allowStruct : Bool) (level : Nat) : Parse Shaped := do
  let first ← g.operand allowStruct
  iterate (fun right ↦ do
    let tokens ← ahead
    let next := levelAhead tokens
    if level < next || (next == level && level == assignLevel) then
      let climbed ← g.climb allowStruct next right
      if (← ahead).length == tokens.length then return none else return some climbed
    else return none) first

/-- The tokens after which an open range has no end. -/
def atRangeEnd (allowStruct : Bool) (tokens : List TokenTree) : Bool :=
  tokens.isEmpty || (atOp "." tokens && !atOp ".." tokens) ||
    (!allowStruct && atGroup .brace tokens) || atWord "as" tokens ||
    [",", ";", "?", "=>", "=", "+", "/", "%", "^", ">", "<=", "!=", "-=", "*=", "&=", "|=",
      "<<="].any fun spelling ↦ atOp spelling tokens

/-- Reads the dots of a range and its end, if it has one. -/
def rangeTail (g : Grammar) (allowStruct : Bool) : Parse (List Node) := do
  let closed ← rangeLimits false
  let tokens ← ahead
  if !closed && atRangeEnd allowStruct tokens then return []
  else return [.expr (← rightOperand g allowStruct rangeLevel).expr]

/-- Whether a cast is followed by what cannot follow it. -/
def atAfterCast (tokens : List TokenTree) : Bool :=
  (atOp "." tokens && !atOp ".." tokens) || atOp "?" tokens || atGroup .bracket tokens ||
    atGroup .paren tokens

/-- Reads one operator of at least a level with its right operand. -/
def climbStep (g : Grammar) (allowStruct : Bool) (base : Nat) (left : Shaped) :
    Parse (Option Shaped) := do
  let tokens ← ahead
  if left.shape == .range then return none
  else
    match binaryOperator? tokens with
    | some (spelling, level) =>
      if level < base then return none
      else
        check !(level == compareLevel && left.shape == .comparison)
        op spelling
        let right ← rightOperand g allowStruct level
        let shape : Shape := if level == compareLevel then .comparison else .plain
        return some ⟨.operation left.expr [.expr right.expr], shape⟩
    | none =>
      if base ≤ assignLevel && atAssign tokens then
        op "="
        let right ← rightOperand g allowStruct assignLevel
        return some ⟨.operation left.expr [.expr right.expr], .plain⟩
      else if base ≤ rangeLevel && atOp ".." tokens then
        return some ⟨.other (.expr left.expr :: (← rangeTail g allowStruct)), .range⟩
      else if base ≤ castLevel && atWord "as" tokens then
        word "as"
        let type ← g.type false
        check !(← peek atAfterCast)
        return some ⟨.operation left.expr [.type type], .plain⟩
      else return none

/-- Reads the operators of at least a level after a left operand. -/
def climb (g : Grammar) (allowStruct : Bool) (base : Nat) (left : Shaped) : Parse Shaped :=
  iterate (climbStep g allowStruct base) left

/-! ## Blocks and control flow -/

/-- Reads a condition and a block after `if`. -/
def ifClause (g : Grammar) : Parse (List Node) := do
  word "if"
  let condition ← g.expr false
  return .expr condition :: blockParts (← block g)

/-- Reads an `if` with its branches. -/
def ifExpr (g : Grammar) : Parse Expr := do
  let first ← ifClause g
  let found ← iterate (fun (state : Bool × List Node) ↦ do
    if state.1 && (← tryWord "else") then
      if ← peek (atWord "if") then return some (true, state.2 ++ (← ifClause g))
      else return some (false, state.2 ++ blockParts (← block g))
    else return none) (true, first)
  return .other found.2

/-- Reads the body of a loop after its head. The attributes at the start of the body belong to the
whole loop. -/
def loopBody (g : Grammar) (head : List Node) : Parse Expr := do
  let (attributes, body) ← annotatedBlock g
  return .other (attributes.parts ++ head ++ blockParts body)

/-- Reads a `while`, `for` or `loop` expression or a block. -/
def loopExpr (g : Grammar) : Parse Expr := do
  if ← tryWord "while" then
    let condition ← g.expr false
    loopBody g [.expr condition]
  else if ← tryWord "for" then
    let pattern ← alternatives g
    word "in"
    let source ← g.expr false
    loopBody g (pattern.parts ++ [.expr source])
  else
    let _ ← tryWord "loop"
    loopBody g []

/-- Reads an arm of a `match`. Only a body that is no block needs a comma before the next arm. -/
def matchArm (g : Grammar) : Parse (List Node) := do
  let attributes ← outerAttributes g
  let pattern ← alternatives g
  let guard ← if ← tryWord "if" then pure [.expr (← g.expr true)] else pure []
  op "=>"
  let body ← g.early
  if body.shape != .blockLike && !(← isEmpty) then op ","
  else
    let _ ← tryOp ","
  return attributes.parts ++ pattern.parts ++ guard ++ [.expr body.expr]

/-- Reads a `match` with its arms. -/
def matchExpr (g : Grammar) : Parse Expr := do
  word "match"
  let subject ← g.expr false
  let (attributes, arms) ← group .brace do
    let attributes ← innerAttributes g
    return (attributes, ← untilEmpty (matchArm g))
  return .other (attributes.parts ++ .expr subject :: arms.flatten)

/-- Whether an expression ahead ends a statement without a semicolon. -/
def atBlockLike (tokens : List TokenTree) : Bool :=
  let second := tokens.drop 1
  atWords ["if", "while", "loop", "match", "unsafe"] tokens ||
    (atWord "for" tokens && !atGenerics second) ||
    (atWords ["try", "const"] tokens && atGroup .brace second) || atGroup .brace tokens ||
    atLifetime tokens

/-- Reads a block-like expression. -/
def blockLike (g : Grammar) : Parse Expr := do
  let tokens ← ahead
  if atWord "if" tokens then ifExpr g
  else if atWord "match" tokens then matchExpr g
  else if atLifetime tokens then
    let _ ← Parse.lifetime
    op ":"
    check (← peek fun tokens ↦ atWords ["while", "for", "loop"] tokens || atGroup .brace tokens)
    loopExpr g
  else if ← tryWord "try" then return .other (blockParts (← block g))
  else if atWords ["unsafe", "const"] tokens then
    let _ ← anyWord
    blockExpr g
  else loopExpr g

/-! ## Closures -/

/-- Reads a parameter of a closure. Without a type, the attributes of an unread pattern are lost. -/
def closureParam (g : Grammar) : Parse (List Node) := do
  let attributes ← outerAttributes g
  let pattern ← g.pattern
  if ← tryOp ":" then return attributes.parts ++ pattern.parts ++ [.type (← g.type true)]
  else if pattern.shape == .unread then return []
  else return attributes.parts ++ pattern.parts

/-- Reads a closure. -/
def closureExpr (g : Grammar) (allowStruct : Bool) : Parse Expr := do
  let binder ← tryBinder g
  let _ ← tryWord "const"
  let _ ← tryWord "static"
  let _ ← tryWord "async"
  let _ ← tryWord "move"
  op "|"
  let params ← collectWhile (fun tokens ↦ !atOp "|" tokens) do
    let param ← closureParam g
    if !(← peek (atOp "|")) then op ","
    return param
  op "|"
  let head := binder.getD [] ++ params.flatten
  if ← tryOp "->" then
    let output ← g.type true
    return .other (head ++ .type output :: blockParts (← block g))
  else return .other (head ++ [.expr (← g.expr allowStruct)])

/-- Whether a closure is ahead. -/
def atClosure (tokens : List TokenTree) : Bool :=
  let second := tokens.drop 1
  atOp "|" tokens || atWord "move" tokens || (atWord "for" tokens && atGenerics second) ||
    (atWord "const" tokens && !atGroup .brace second) || atWord "static" tokens ||
    (atWord "async" tokens && (atOp "|" second || atWord "move" second))

/-- Whether an asynchronous block is ahead. -/
def atAsyncBlock (tokens : List TokenTree) : Bool :=
  let second := tokens.drop 1
  atWord "async" tokens &&
    (atGroup .brace second || (atWord "move" second && atGroup .brace (tokens.drop 2)))

/-! ## Paths, macro calls and struct literals -/

/-- Reads a field of a struct literal. -/
def fieldValue (g : Grammar) : Parse (List Node) := do
  let attributes ← outerAttributes g
  let member ← memberName
  if member.isNone || (← peek (atOp ":")) then
    op ":"
    return attributes.parts ++ [.expr (← g.expr true)]
  else return attributes.parts

/-- Reads the fields of a struct literal. -/
def fieldValues (g : Grammar) : Parse (List Node) := do
  let found ← iterate (fun (state : Bool × List Node) ↦ do
    if state.1 || (← isEmpty) then return none
    else if ← tryOp ".." then
      if ← isEmpty then return some (true, state.2)
      else return some (true, state.2 ++ [.expr (← g.expr true)])
    else
      let parts ← fieldValue g
      if !(← isEmpty) then op ","
      return some (false, state.2 ++ parts)) (false, [])
  return found.2

/-- The body of a macro call as a list of expressions; a body that is no such list counts as
empty. -/
def macroElements (g : Grammar) (body : List TokenTree) : List Expr :=
  (runAll? (commaSeparated (g.expr true)) body).getD []

/-- Reads a path, a macro call or a struct literal. -/
def pathExpr (g : Grammar) (allowStruct : Bool) : Parse Shaped := do
  let (self, segments) ← qualifiedPath g true
  let tokens ← ahead
  if self.isNone && atBang tokens && isPlain segments then
    op "!"
    let (delimiter, body) ← anyGroup
    let shape : Shape := if delimiter == .brace then .bracedMacro else .otherMacro
    return ⟨.macroCall (macroElements g body), shape⟩
  else if allowStruct && atGroup .brace tokens then
    let fields ← group .brace (fieldValues g)
    return ⟨.other (pathParts self segments ++ fields), .plain⟩
  else return ⟨.path self segments, .plain⟩

/-! ## Atoms -/

/-- Reads a parenthesized expression or a tuple. -/
def parenExpr (g : Grammar) : Parse Expr :=
  group .paren do
    if ← isEmpty then return .other []
    else
      let first ← g.expr true
      if ← isEmpty then return .paren first
      else
        op ","
        let rest ← commaSeparated (g.expr true)
        return .other (.expr first :: rest.map Node.expr)

/-- Reads an array, element by element or by repetition. -/
def arrayExpr (g : Grammar) : Parse Expr :=
  group .bracket do
    if ← isEmpty then return .array []
    else
      let first ← g.expr true
      if ← tryOp ";" then return .other [.expr first, .expr (← g.expr true)]
      else
        if !(← isEmpty) then op ","
        return .array (first :: (← commaSeparated (g.expr true)))

/-- Whether an expression may start here. -/
def atExpr (tokens : List TokenTree) : Bool :=
  (atAnyWord tokens && !atWord "as" tokens) || atGroup .paren tokens || atGroup .bracket tokens ||
    atGroup .brace tokens || atLiteral tokens || atBang tokens ||
    (atOp "-" tokens && !atOp "-=" tokens && !atOp "->" tokens) ||
    (atOp "*" tokens && !atOp "*=" tokens) || (atOp "|" tokens && !atOp "|=" tokens) ||
    (atOp "&" tokens && !atOp "&=" tokens) || atOp ".." tokens ||
    (atOp "<" tokens && !atOp "<=" tokens && !atOp "<<=" tokens) || atOp "::" tokens ||
    atLifetime tokens || atOp "#" tokens

/-- Reads an expression that may be missing. -/
def optionalValue (g : Grammar) (allowBrace : Bool) : Parse (Option Expr) := do
  let tokens ← ahead
  if atExpr tokens && (allowBrace || !atGroup .brace tokens) then return some (← g.expr true)
  else return none

/-- Reads a `let` inside a condition. -/
def letExpr (g : Grammar) (allowStruct : Bool) : Parse Expr := do
  word "let"
  let pattern ← alternatives g
  op "="
  let subject ← g.operand allowStruct
  let value ← climb g allowStruct compareLevel subject
  return .other (pattern.parts ++ [.expr value.expr])

/-- Whether a path is ahead that names a value. -/
def atPathExpr (tokens : List TokenTree) : Bool :=
  let second := tokens.drop 1
  atPath tokens || (atWord "try" tokens && (atOp "!" second || atOp "::" second))

/-- Reads a `break` after its word. A label on the value needs parentheses. -/
def breakExpr (g : Grammar) (allowStruct : Bool) : Parse Expr := do
  let label ← tryLifetime
  check !(label.isSome && (← peek (atOp ":")))
  return .other (optionalExpr (← optionalValue g allowStruct))

/-- Reads an expression without operators before or after it. -/
def atom (g : Grammar) (allowStruct : Bool) : Parse Shaped := do
  let tokens ← ahead
  let plain := fun (reader : Parse Expr) ↦ do return Shaped.mk (← reader) .plain
  if atLiteral tokens then plain do return .literal (← Parse.literal)
  else if atAsyncBlock tokens then
    plain do
      word "async"
      let _ ← tryWord "move"
      return .other (blockParts (← block g))
  else if atWord "try" tokens && atGroup .brace (tokens.drop 1) then
    return ⟨← blockLike g, .blockLike⟩
  else if atClosure tokens then plain (closureExpr g allowStruct)
  else if atBuiltin tokens then
    builtin
    return ⟨.unread, .plain⟩
  else if atPathExpr tokens then pathExpr g allowStruct
  else if atGroup .paren tokens then plain (parenExpr g)
  else if ← tryWord "break" then plain (breakExpr g allowStruct)
  else if ← tryWord "continue" then
    plain do
      let _ ← tryLifetime
      return .other []
  else if ← tryWord "return" then plain do return .giveBack (← optionalValue g true)
  else if ← tryWord "become" then
    let _ ← g.expr true
    return ⟨.unread, .plain⟩
  else if atGroup .bracket tokens then plain (arrayExpr g)
  else if atWord "let" tokens then plain (letExpr g allowStruct)
  else if ← tryWord "yield" then
    plain do return .other (optionalExpr (← optionalValue g true))
  else if atOp ".." tokens then return ⟨.other (← rangeTail g allowStruct), .range⟩
  else if ← tryWord "_" then return ⟨.other [], .plain⟩
  else if atBlockLike tokens then return ⟨← blockLike g, .blockLike⟩
  else failure

/-! ## Calls, members and indices -/

/-- Whether a piece of a number is an index of a tuple. -/
def isIndex (piece : List Char) : Bool :=
  let digits := piece.filter fun c ↦ c != '_'
  !digits.isEmpty && digits.all Char.isDigit &&
    digits.foldl (fun n c ↦ 10 * n + (c.toNat - '0'.toNat)) 0 < indexLimit

/-- What the spelling of a number after a dot says: indices of nested tuples, and whether a dot is
left over at their end. -/
def tupleIndices? (spelling : String) : Option Bool :=
  match (Text.splitOn '.' spelling.toList).reverse with
  | [] :: pieces => if pieces.all isIndex then some true else none
  | pieces => if pieces.all isIndex then some false else none

/-- Reads the arguments of a call. -/
def callArguments (g : Grammar) : Parse (List Expr) :=
  group .paren (commaSeparated (g.expr true))

/-- Reads a field or a method call after its dot. -/
def member (g : Grammar) (receiver : Expr) : Parse Expr := do
  if ← tryWord "await" then return .other [.expr receiver]
  else
    match ← memberName with
    | none => return .other [.expr receiver]
    | some method =>
      if ← tryOp "::" then
        let generics ← angleArguments g
        return .methodCall receiver method generics (← callArguments g)
      else if ← peek (atGroup .paren) then
        return .methodCall receiver method [] (← callArguments g)
      else return .other [.expr receiver]

/-- Reads what follows a dot. -/
def afterDot (g : Grammar) (receiver : Expr) : Parse Expr := do
  match ← ahead with
  | .literal (.float spelling) :: rest =>
    match tupleIndices? spelling with
    | none => failure
    | some dotLeft =>
      moveTo rest
      if dotLeft then member g receiver else return .other [.expr receiver]
  | _ => member g receiver

/-- Reads one call, member, index or question mark after an expression. -/
def trailer (g : Grammar) (e : Shaped) : Parse (Option Shaped) := do
  let tokens ← ahead
  if atGroup .paren tokens then return some ⟨.call e.expr (← callArguments g), .plain⟩
  else if atOp "." tokens && !atOp ".." tokens && e.shape != .range then
    op "."
    return some ⟨← afterDot g e.expr, .plain⟩
  else if atGroup .bracket tokens then
    let index ← group .bracket (g.expr true)
    return some ⟨.other [.expr e.expr, .expr index], .plain⟩
  else if atOp "?" tokens && e.shape != .range then
    op "?"
    return some ⟨.other [.expr e.expr], .plain⟩
  else return none

/-- Reads the calls, members, indices and question marks after an expression. -/
def trailers (g : Grammar) (e : Shaped) : Parse Shaped :=
  iterate (trailer g) e

/-! ## Operands and whole expressions -/

/-- Reads a reference after its ampersand. -/
def referenceExpr (g : Grammar) (allowStruct : Bool) : Parse Expr := do
  let tokens ← ahead
  if atWord "raw" tokens && atWords ["mut", "const"] (tokens.drop 1) then
    moveTo (tokens.drop 2)
    return .other [.expr (← g.operand allowStruct).expr]
  else
    let _ ← tryWord "mut"
    return .reference (← g.operand allowStruct).expr

/-- Reads an operand with the operators before it. Its attributes come before the operators; a range
without a start takes none. -/
def operand (g : Grammar) (allowStruct : Bool) : Parse Shaped := do
  let attributes ← outerAttributes g
  let tokens ← ahead
  let found ←
    if ← tryOp "&" then pure ⟨← referenceExpr g allowStruct, .plain⟩
    else if atOp "*" tokens || atOp "!" tokens || atOp "-" tokens then do
      moveTo (tokens.drop 1)
      pure ⟨.other [.expr (← g.operand allowStruct).expr], .plain⟩
    else do trailers g (← atom g allowStruct)
  check (attributes.isEmpty || found.shape != .range)
  return { found with expr := found.expr.annotate attributes.parts }

/-- Reads an expression. -/
def expr (g : Grammar) (allowStruct : Bool) : Parse Expr := do
  let first ← operand g allowStruct
  return (← climb g allowStruct jumpLevel first).expr

/-- Reads an expression that ends as early as a statement or the body of a match arm may end. -/
def early (g : Grammar) : Parse Shaped := do
  let attributes ← outerAttributes g
  let first ← if ← peek atBlockLike then pure ⟨← blockLike g, .blockLike⟩ else operand g true
  let tokens ← ahead
  let annotated := fun (e : Shaped) ↦ { e with expr := e.expr.annotate attributes.parts }
  if first.shape != .blockLike then climb g true jumpLevel (annotated first)
  else if (atOp "." tokens && !atOp ".." tokens) || atOp "?" tokens then
    climb g true jumpLevel (annotated (← trailers g first))
  else return annotated first

end ApiAtlas.Source.Reader

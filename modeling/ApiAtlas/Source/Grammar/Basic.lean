import ApiAtlas.Source.Parse
import ApiAtlas.Source.Parts

/-!
# The grammar's entry points

The forms of the language nest in each other. Each reader below takes a `Grammar`, the readers to be
used for the forms inside, so that no definition here is recursive; the recursion is tied once, by
iterating the grammar as often as the tokens can nest.
-/

namespace ApiAtlas.Source

/-- What has to be known of an expression in order to read on after it. -/
inductive Shape
  | plain
  | range
  | comparison
  | blockLike
  | bracedMacro
  | otherMacro
  deriving DecidableEq

/-- An expression with its shape. -/
structure Shaped where
  expr : Expr
  shape : Shape

/-- What has to be known of a pattern in order to read on after it. -/
inductive PatternShape
  | plain
  | openRange
  | unread
  deriving DecidableEq

/-- A pattern, by its parts. -/
structure Pattern where
  parts : List Node := []
  shape : PatternShape := .plain

/-- What bounds may be besides traits and lifetimes. -/
structure BoundRules where
  /-- Lists of captured parameters. -/
  captures : Bool
  /-- Traits with the word `const`. -/
  constants : Bool

/-- Traits and lifetimes only. -/
def BoundRules.traitsOnly : BoundRules :=
  ⟨false, false⟩

/-- The bounds of parameters, of associated types and of traits. -/
def BoundRules.ofParameters : BoundRules :=
  ⟨false, true⟩

/-- The bounds after `impl`. -/
def BoundRules.ofImpl : BoundRules :=
  ⟨true, true⟩

/-- A bound, by its parts. -/
structure Bound where
  isTrait : Bool
  parts : List Node := []
  /-- Whether the bound, without parentheses around it, ends with braces. -/
  endsInBrace : Bool := false

/-- Readers for the forms that nest. -/
structure Grammar where
  /-- A type; the flag allows several bounds joined by plus signs. -/
  type : Bool → Parse Ty
  /-- A bound. -/
  bound : BoundRules → Parse Bound
  /-- An expression; the flag allows struct literals. -/
  expr : Bool → Parse Expr
  /-- An operand with the operators before it. -/
  operand : Bool → Parse Shaped
  /-- The operators that bind at least as tightly as a level, after a left operand. -/
  climb : Bool → Nat → Shaped → Parse Shaped
  /-- A pattern without alternatives. -/
  pattern : Parse Pattern
  /-- The statements of a block up to its end. -/
  stmts : Parse (List Stmt)
  /-- An expression that ends as early as a statement or the body of a match arm may end. -/
  early : Parse Shaped
  /-- An item. -/
  item : Parse Item
  /-- The named fields between braces. -/
  namedFields : Parse (List Field)
  /-- The names that a `use` brings in; the flag allows paths from the root inside braces, and the
  result tells whether there is one. -/
  useTree : Bool → Parse Bool

/-- The grammar that reads nothing. -/
def Grammar.nothing : Grammar where
  type _ := failure
  bound _ := failure
  expr _ := failure
  operand _ := failure
  climb _ _ _ := failure
  pattern := failure
  stmts := failure
  early := failure
  item := failure
  namedFields := failure
  useTree _ := failure

namespace Reader

open Parse

/-! ## Attributes -/

/-- Attributes together with the expressions they assign. -/
structure Attributes where
  list : List Attribute := []
  parts : List Node := []

/-- Joins two lists of attributes. -/
def Attributes.append (a b : Attributes) : Attributes :=
  ⟨a.list ++ b.list, a.parts ++ b.parts⟩

/-- Whether there are no attributes. -/
def Attributes.isEmpty (a : Attributes) : Bool :=
  a.list.isEmpty

/-- Words that may stand in a path although they name nothing. -/
def pathWords : List String :=
  ["self", "Self", "super", "crate"]

/-- Reads a word of a path without arguments. -/
def pathWord : Parse Ident := do
  let ident ← anyWord
  check (isName ident.text || pathWords.contains ident.text)
  return ident

/-- Reads a path without arguments, and whether a double colon precedes it. -/
def plainPath : Parse (Bool × List Ident) := do
  let leading ← tryOp "::"
  let first ← pathWord
  let rest ← collectWhile (atOp "::") do
    op "::"
    pathWord
  return (leading, first :: rest)

/-- Reads what an attribute assigns: a literal at the end, or any expression. -/
def attributeValue (g : Grammar) : Parse (AttributeBody × List Node) := do
  let tokens ← ahead
  match runAll? Parse.literal tokens with
  | some value =>
    moveTo []
    match value with
    | .text s => return (.text s, [])
    | _ => return (.value, [])
  | none =>
    check !(atOp "#" tokens && atGroup .bracket (tokens.drop 1))
    let e ← g.expr true
    return (.value, [.expr e])

/-- Reads an attribute between its brackets. -/
def attributeContent (g : Grammar) : Parse Attributes := do
  let (leading, words) ←
    if ← peek (atWord "unsafe") then pure (false, [← anyWord]) else plainPath
  let name :=
    match leading, words with
    | false, [word] => some word.text
    | _, _ => none
  let tokens ← ahead
  match tokens with
  | .group _ content :: rest =>
    moveTo rest
    return { list := [⟨name, .list content⟩] }
  | _ =>
    if atOp "=" tokens && !atOp "==" tokens && !atOp "=>" tokens then
      op "="
      let (body, parts) ← attributeValue g
      return ⟨[⟨name, body⟩], parts⟩
    else return { list := [⟨name, .word⟩] }

/-- Joins the attributes of a list. -/
def joinAttributes (attributes : List Attributes) : Attributes :=
  attributes.foldl Attributes.append {}

/-- Reads the attributes before a form. -/
def outerAttributes (g : Grammar) : Parse Attributes := do
  let found ← collectWhile (atOp "#") do
    op "#"
    group .bracket (attributeContent g)
  return joinAttributes found

/-- Reads the attributes at the start of a block or a file. -/
def innerAttributes (g : Grammar) : Parse Attributes := do
  let found ← collectWhile (fun tokens ↦ atOp "#" tokens && atOp "!" (tokens.drop 1)) do
    op "#"
    op "!"
    group .bracket (attributeContent g)
  return joinAttributes found

/-! ## Blocks -/

/-- The parts of a block. -/
def blockParts (stmts : List Stmt) : List Node :=
  stmts.flatMap Stmt.parts

/-- Reads the statements between braces. -/
def block (g : Grammar) : Parse (List Stmt) :=
  group .brace g.stmts

/-- Reads the attributes at the start of a block and its statements. -/
def annotatedBlock (g : Grammar) : Parse (Attributes × List Stmt) :=
  group .brace do
    let attributes ← innerAttributes g
    return (attributes, ← g.stmts)

/-- Reads a block with attributes at its start as an expression. -/
def blockExpr (g : Grammar) : Parse Expr := do
  let (attributes, stmts) ← annotatedBlock g
  return .other (attributes.parts ++ blockParts stmts)

/-! ## Macro calls -/

/-- Whether a macro call's exclamation mark is ahead. -/
def atBang (tokens : List TokenTree) : Bool :=
  atOp "!" tokens && !atOp "!=" tokens

/-- Whether a form that is built into the compiler is ahead. -/
def atBuiltin (tokens : List TokenTree) : Bool :=
  atWord "builtin" tokens && atOp "#" (tokens.drop 1)

/-- Reads a form that is built into the compiler, whose arguments mean nothing here. -/
def builtin : Parse Unit := do
  word "builtin"
  op "#"
  let _ ← name
  check (← peek (atGroup .paren))
  let _ ← anyGroup

end Reader

end ApiAtlas.Source

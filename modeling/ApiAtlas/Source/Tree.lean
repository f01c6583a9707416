import ApiAtlas.Source.Token

/-!
# Syntax trees

What is kept of a Rust source file. Forms that the extraction of types, handlers and routes looks at
have constructors of their own. Every other form is reduced to the ordered list of its parts, the
expressions, types and items inside it, because only those can hold something to be found.
-/

namespace ApiAtlas.Source

/-- An identifier with the line it stands on. -/
structure Ident where
  text : String
  line : Nat
  deriving Repr, DecidableEq, Inhabited

/-- What follows the path of an attribute: nothing, a bracketed list of tokens, a string, or some
other value. -/
inductive AttributeBody
  | word
  | list (tokens : List TokenTree)
  | text (value : String)
  | value
  deriving Repr, Inhabited

/-- An attribute. Its name is known if its path is a single identifier. -/
structure Attribute where
  name : Option String
  body : AttributeBody
  deriving Repr, Inhabited

mutual

/-- A segment of a path: a name alone, with generic arguments in angle brackets, or with the parts of
a parenthesized argument list and its result. -/
inductive Segment
  | plain (name : String)
  | angle (name : String) (args : List GenericArg)
  | paren (name : String) (parts : List Node)

/-- A generic argument: a lifetime, a type, or the parts of a constant, a binding or a bound. -/
inductive GenericArg
  | lifetime (name : String)
  | type (type : Ty)
  | other (parts : List Node)

/-- A type. Bounds without a leading keyword are a type too; a sole bound may be followed by more
after parentheses. -/
inductive Ty
  | path (qualifier : Option Ty) (segments : List Segment)
  | reference (lifetime : Option String) (mutable : Bool) (target : Ty)
  | slice (element : Ty)
  | array (element : Ty) (length : Expr)
  | tuple (elements : List Ty)
  | paren (inner : Ty)
  | bounds (isSole : Bool) (parts : List Node)
  | other (parts : List Node)

/-- An expression. A macro call keeps its body where that is a list of expressions. An operation is a
binary operator, an assignment or a cast after its left operand. An annotated expression has
attributes, kept by what they assign. Nothing inside an unread expression is looked at. -/
inductive Expr
  | literal (value : Literal)
  | path (qualifier : Option Ty) (segments : List Segment)
  | call (callee : Expr) (args : List Expr)
  | methodCall (receiver : Expr) (method : Ident) (generics : List GenericArg) (args : List Expr)
  | reference (target : Expr)
  | paren (inner : Expr)
  | array (elements : List Expr)
  | macroCall (elements : List Expr)
  | giveBack (value : Option Expr)
  | operation (left : Expr) (rest : List Node)
  | annotated (parts : List Node) (inner : Expr)
  | unread
  | other (parts : List Node)

/-- A part of a larger form. -/
inductive Node
  | expr (expr : Expr)
  | type (type : Ty)
  | item (item : Item)

/-- A statement. -/
inductive Stmt
  | expr (expr : Expr)
  | item (item : Item)
  | other (parts : List Node)

/-- A parameter of a function: the receiver, a pattern with its type, or any number of further
arguments. Patterns are kept by their parts. -/
inductive Param
  | receiver (parts : List Node)
  | typed (pattern : List Node) (type : Ty)
  | variadic (parts : List Node)

/-- A function with a body. `context` holds the parts of its attributes and generics. -/
structure Function where
  attributes : List Attribute
  context : List Node
  isPublic : Bool
  name : Ident
  params : List Param
  output : Option Ty
  body : List Stmt

/-- A field of a struct or of a variant. -/
structure Field where
  attributes : List Attribute
  context : List Node
  name : Option String
  type : Ty

/-- The fields of a struct or of a variant. -/
inductive Fields
  | named (fields : List Field)
  | unnamed (fields : List Field)
  | unit

/-- A variant of an enum. -/
structure Variant where
  attributes : List Attribute
  context : List Node
  name : String
  fields : Fields
  discriminant : Option Expr

/-- A member of an implementation block. -/
inductive Member
  | function (function : Function)
  | other (parts : List Node)

/-- An item. `context` holds the parts of its attributes and generics. -/
inductive Item
  | struct (attributes : List Attribute) (context : List Node) (name : Ident) (fields : Fields)
  | enum (attributes : List Attribute) (context : List Node) (name : Ident)
      (variants : List Variant)
  | typeAlias (attributes : List Attribute) (context : List Node) (name : Ident) (target : Ty)
  | implementation (context : List Node) (self : Ty) (members : List Member)
  | constant (context : List Node) (type : Ty) (value : Expr)
  | function (function : Function)
  | module (context : List Node) (name : String) (items : List Item)
  | other (parts : List Node)

end

instance : Inhabited Expr := ⟨.other []⟩

instance : Inhabited Ty := ⟨.other []⟩

instance : Inhabited Item := ⟨.other []⟩

/-- The name of a segment. -/
def Segment.name : Segment → String
  | .plain name => name
  | .angle name _ => name
  | .paren name _ => name

/-- The generic arguments of a segment. -/
def Segment.args : Segment → List GenericArg
  | .angle _ args => args
  | _ => []

/-- Whether a segment has no arguments at all, not even an empty list of them. -/
def Segment.isPlain : Segment → Bool
  | .plain _ => true
  | _ => false

/-- Whether a segment has no arguments, or an empty list of them. -/
def Segment.isBare : Segment → Bool
  | .plain _ => true
  | .angle _ args => args.isEmpty
  | .paren _ _ => false

/-- An expression with attributes, given by what they assign. Further attributes come before those
that it has, and an unread expression takes none. -/
def Expr.annotate (parts : List Node) : Expr → Expr
  | .unread => .unread
  | .annotated inner e => .annotated (parts ++ inner) e
  | e => if parts.isEmpty then e else .annotated parts e

/-- An expression with attributes at its first operand. -/
def Expr.annotateFirst (parts : List Node) : Expr → Expr
  | .operation left rest => .operation (left.annotateFirst parts) rest
  | e => e.annotate parts

/-- What the attributes of an expression assign. -/
def Expr.notes : Expr → List Node
  | .annotated parts _ => parts
  | _ => []

/-- An expression without its attributes. -/
def Expr.bare : Expr → Expr
  | .annotated _ e => e
  | e => e

/-- A parsed source file with its namespace. `context` holds the parts of its attributes. -/
structure SourceFile where
  path : String
  space : String
  context : List Node
  items : List Item

end ApiAtlas.Source

/-!
# Type expressions

Every type that reaches the document, whether of a field, a request, a response or an alias, is one
of five forms: a name, an optional slot, a sequence, a map, or a generic type with its arguments.
Some generic types only wrap their argument and leave no trace on the wire; `unwrapped` looks
through them.
-/

namespace ApiAtlas

/-- A type expression. -/
inductive TypeExpr
  | named (name : String)
  | optional (inner : TypeExpr)
  | sequence (element : TypeExpr)
  | map (key value : TypeExpr)
  | generic (base : String) (args : List TypeExpr)
  deriving Inhabited, Repr, BEq

/-- The types that have a schema of their own. -/
inductive Primitive
  | string
  | int32
  | int64
  | float
  | double
  | bool
  | uuid
  | dateTime
  | date
  | decimal
  | any
  deriving DecidableEq, Repr

namespace Primitive

/-- The schema keyword `type`; any value at all has none. -/
def schemaType? : Primitive → Option String
  | .string | .uuid | .dateTime | .date | .decimal => some "string"
  | .int32 | .int64 => some "integer"
  | .float | .double => some "number"
  | .bool => some "boolean"
  | .any => none

/-- The schema keyword `format`. -/
def format? : Primitive → Option String
  | .int32 => some "int32"
  | .int64 => some "int64"
  | .float => some "float"
  | .double => some "double"
  | .uuid => some "uuid"
  | .dateTime => some "date-time"
  | .date => some "date"
  | .decimal => some "decimal"
  | .string | .bool | .any => none

/-- The names that stand for primitive types. -/
def names : List (String × Primitive) :=
  [("String", .string), ("str", .string), ("char", .string),
   ("i8", .int32), ("i16", .int32), ("i32", .int32), ("u8", .int32), ("u16", .int32),
   ("u32", .int32),
   ("i64", .int64), ("i128", .int64), ("isize", .int64), ("u64", .int64), ("u128", .int64),
   ("usize", .int64),
   ("f32", .float), ("f64", .double), ("bool", .bool), ("Uuid", .uuid),
   ("DateTime", .dateTime), ("NaiveDateTime", .dateTime), ("OffsetDateTime", .dateTime),
   ("PrimitiveDateTime", .dateTime), ("SystemTime", .dateTime),
   ("NaiveDate", .date), ("Date", .date),
   ("Decimal", .decimal), ("BigDecimal", .decimal),
   ("Value", .any), ("JsonValue", .any)]

/-- The primitive type with a given name. -/
def ofName? (name : String) : Option Primitive :=
  names.lookup name

end Primitive

namespace TypeExpr

/-- The generic types that stand for their single argument on the wire. -/
def wrappers : List String :=
  ["Box", "Arc", "Rc", "Cow", "Json", "RefCell", "Cell"]

/-- The generic types with one argument that hold a sequence. -/
def sequences : List String :=
  ["Vec", "VecDeque", "LinkedList", "HashSet", "BTreeSet", "IndexSet"]

/-- The generic types with two arguments that hold a map. -/
def maps : List String :=
  ["HashMap", "BTreeMap", "IndexMap"]

/-- The expression that a base name with arguments denotes. -/
def ofBase (base : String) (args : List TypeExpr) : TypeExpr :=
  match args with
  | [] => .named base
  | [a] =>
    if base == "Option" then .optional a
    else if sequences.contains base then .sequence a
    else .generic base [a]
  | [k, v] => if maps.contains base then .map k v else .generic base [k, v]
  | args => .generic base args

/-- The expression under all wrappers. -/
def unwrapped : TypeExpr → TypeExpr
  | .generic base [a] => if wrappers.contains base then a.unwrapped else .generic base [a]
  | t => t

/-- The expression under all wrappers and one optional slot, and whether there was such a slot. -/
def payload (t : TypeExpr) : TypeExpr × Bool :=
  match t.unwrapped with
  | .optional inner => (inner.unwrapped, true)
  | other => (other, false)

/-- The primitive type that an expression denotes; a generic type counts by its base name. -/
def primitive? (t : TypeExpr) : Option Primitive :=
  match t.unwrapped with
  | .named name => Primitive.ofName? name
  | .generic base _ => Primitive.ofName? base
  | _ => none

/-- The name under all wrappers, if the expression is a plain name. -/
def name? (t : TypeExpr) : Option String :=
  match t.unwrapped with
  | .named name => some name
  | _ => none

/-- Whether an expression is the unit type. -/
def isUnit : TypeExpr → Bool
  | .named name => name == "()"
  | _ => false

/-- The name of an expression that is a plain name or a generic type. -/
def base? : TypeExpr → Option String
  | .named name => some name
  | .generic base _ => some base
  | _ => none

mutual

/-- The usual notation of a type expression. -/
def render : TypeExpr → String
  | .named name => name
  | .optional inner => "Option<" ++ inner.render ++ ">"
  | .sequence element => "Vec<" ++ element.render ++ ">"
  | .map key value => "HashMap<" ++ key.render ++ ", " ++ value.render ++ ">"
  | .generic base args => base ++ "<" ++ renderArgs args ++ ">"

/-- The notation of an argument list. -/
def renderArgs : List TypeExpr → String
  | [] => ""
  | [a] => a.render
  | a :: rest => a.render ++ ", " ++ renderArgs rest

end

end TypeExpr

end ApiAtlas

import ApiAtlas.Schema
import ApiAtlas.TypeExpr.Basic

/-!
# Wire types

The JSON shape of the value that a directive constrains. It is read off a type expression, where
names that are not primitive count as objects, or off the `type` of a schema.
-/

namespace ApiAtlas

/-- The shape of a value on the wire. -/
inductive WireType
  | string
  | integer
  | number
  | boolean
  | array
  | object
  deriving DecidableEq, Repr

namespace WireType

/-- The name of a shape. -/
def name : WireType → String
  | .string => "string"
  | .integer => "integer"
  | .number => "number"
  | .boolean => "boolean"
  | .array => "array"
  | .object => "object"

/-- All shapes. -/
def all : List WireType :=
  [.string, .integer, .number, .boolean, .array, .object]

/-- The shape with a given name. -/
def ofName? (s : String) : Option WireType :=
  all.find? fun wire ↦ wire.name == s

/-- The shape of a primitive type; an arbitrary value counts as an object. -/
def ofPrimitive : Primitive → WireType
  | .int32 | .int64 => .integer
  | .float | .double => .number
  | .bool => .boolean
  | .any => .object
  | .string | .uuid | .dateTime | .date | .decimal => .string

/-- The shape of a type expression, seen through wrappers and an optional slot. -/
def ofType (t : TypeExpr) : WireType :=
  let inner := t.payload.1
  match inner with
  | .sequence _ => .array
  | .map _ _ => .object
  | _ =>
    match inner.primitive? with
    | some primitive => ofPrimitive primitive
    | none => .object

/-- The shape that a schema describes by its `type`. -/
def ofSchema (schema : Schema) : WireType :=
  match schema.type with
  | some name => (ofName? name).getD .object
  | none => .object

/-- Whether the values of a shape are numbers. -/
def isNumeric : WireType → Bool
  | .integer | .number => true
  | _ => false

end WireType

end ApiAtlas

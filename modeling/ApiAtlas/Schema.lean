import ApiAtlas.Json.Basic
import ApiAtlas.Keyed

/-!
# Schemas

A schema describes the JSON values that a field, a parameter or a body may take. All members are
optional; flags count as absent when they are false. Named schemas live in the component section of
the document and are mentioned by reference.
-/

namespace ApiAtlas

/-- How the alternatives of a choice are told apart: by a property, and possibly by the component
that each of its values selects. -/
structure Discriminator where
  propertyName : String
  mapping : List (String × String) := []
  deriving DecidableEq, Repr, Inhabited

/-- A schema object. -/
structure Schema where
  ref : Option String := none
  type : Option String := none
  format : Option String := none
  description : Option String := none
  properties : Option (List (String × Schema)) := none
  items : Option Schema := none
  additionalProperties : Option Schema := none
  required : Option (List String) := none
  enum : Option (List Json) := none
  minimum : Option Json.Number := none
  maximum : Option Json.Number := none
  minLength : Option Nat := none
  maxLength : Option Nat := none
  minItems : Option Nat := none
  maxItems : Option Nat := none
  pattern : Option String := none
  exclusiveMinimum : Bool := false
  exclusiveMaximum : Bool := false
  uniqueItems : Bool := false
  nullable : Bool := false
  readOnly : Bool := false
  writeOnly : Bool := false
  deprecated : Bool := false
  oneOf : Option (List Schema) := none
  anyOf : Option (List Schema) := none
  allOf : Option (List Schema) := none
  discriminator : Option Discriminator := none
  deriving Repr, BEq

namespace Schema

/-- The schema without any member, which admits every value. -/
def empty : Schema := {}

instance : Inhabited Schema := ⟨empty⟩

/-- The reference to a component schema. -/
def componentRef (name : String) : String :=
  "#/components/schemas/" ++ name

/-- A schema that mentions a component. -/
def reference (name : String) : Schema :=
  { ref := some (componentRef name) }

/-- A schema with only a type. -/
def typed (type : String) : Schema :=
  { type := some type }

/-- The schema of arrays with the given items. -/
def array (items : Schema) : Schema :=
  { typed "array" with items := some items }

/-- Adds a line to the description; an empty description counts as none. -/
def describe (schema : Schema) (line : String) : Schema :=
  match schema.description with
  | some text =>
    if text.isEmpty then { schema with description := some line }
    else { schema with description := some (text ++ "\n" ++ line) }
  | none => { schema with description := some line }

/-- The body of an error response: an object with a message. -/
def errorObject : Schema :=
  { typed "object" with properties := some [("error", typed "string")] }

end Schema

end ApiAtlas

import ApiAtlas.Schema

/-!
# Edits of a schema

What a single token of a directive does to a schema. The first pattern goes into `pattern` and every
further one into `allOf`, because a schema has room for one pattern only.
-/

namespace ApiAtlas.Directive

/-- A change of one schema. -/
inductive Edit
  | nothing
  | format (text : String)
  | pattern (text : String)
  | line (text : String)
  | minLength (bound : Nat)
  | maxLength (bound : Nat)
  | minItems (bound : Nat)
  | maxItems (bound : Nat)
  | minimum (bound : Json.Number) (exclusive : Bool)
  | maximum (bound : Json.Number) (exclusive : Bool)
  | range (low high : Int)
  | values (allowed : List Json)
  | uniqueItems
  | boolean
  | both (first second : Edit)
  deriving Repr

/-- Adds a pattern to a schema. -/
def addPattern (text : String) (schema : Schema) : Schema :=
  match schema.pattern with
  | none => { schema with pattern := some text }
  | some _ =>
    let further : Schema := { pattern := some text }
    { schema with allOf := some (schema.allOf.getD [] ++ [further]) }

/-- The schema after an edit. -/
def Edit.apply (schema : Schema) : Edit → Schema
  | .nothing => schema
  | .format text => { schema with format := some text }
  | .pattern text => addPattern text schema
  | .line text => schema.describe text
  | .minLength bound => { schema with minLength := some bound }
  | .maxLength bound => { schema with maxLength := some bound }
  | .minItems bound => { schema with minItems := some bound }
  | .maxItems bound => { schema with maxItems := some bound }
  | .minimum bound exclusive =>
    { schema with minimum := some bound, exclusiveMinimum := exclusive }
  | .maximum bound exclusive =>
    { schema with maximum := some bound, exclusiveMaximum := exclusive }
  | .range low high => { schema with minimum := some (.int low), maximum := some (.int high) }
  | .values allowed => { schema with enum := some allowed }
  | .uniqueItems => { schema with uniqueItems := true }
  | .boolean => { schema with type := some "boolean" }
  | .both first second => second.apply (first.apply schema)

end ApiAtlas.Directive

import ApiAtlas.Directive.Token
import ApiAtlas.Text.LetterCase
import ApiAtlas.Union.Basic

/-!
# Definitions of types and handlers

What is known of the types and handlers of an API. A definition is a record with fields, an alias of
another type, or an alias of a union. A handler takes a request and may give a response.
-/

namespace ApiAtlas

/-- Where a definition was found. -/
structure Origin where
  file : String := ""
  line : Nat := 0
  deriving DecidableEq, Repr, Inhabited

/-- The part of a request that carries a field. -/
inductive Location
  | path
  | query
  | header
  | body
  deriving DecidableEq, Repr, Inhabited

namespace Location

/-- The name of a location. -/
def name : Location → String
  | .path => "path"
  | .query => "query"
  | .header => "header"
  | .body => "body"

/-- The location that an annotation names, whatever its case. -/
def ofText? (text : String) : Option Location :=
  match Text.lowerAscii (Text.trimmed text) with
  | "path" => some .path
  | "query" => some .query
  | "header" => some .header
  | "body" => some .body
  | "json" => some .body
  | _ => none

end Location

/-- A field of a record. -/
structure Field where
  name : String
  type : TypeExpr
  /-- The name on the wire; a field with an empty one is not on the wire. -/
  wireName : String
  /-- The validation directive. -/
  directive : String := ""
  /-- The location that an annotation gives the field. -/
  annotatedLocation : Option Location := none
  doc : Option String := none
  /-- Whether the fields of its type belong to the record itself. -/
  isEmbedded : Bool := false
  /-- The discriminator property that an annotation asks for. -/
  discriminator : Option String := none
  isDeprecated : Bool := false
  deriving Repr, Inhabited

namespace Field

/-- A body field whose name on the wire is its own. -/
def plain (name : String) (type : TypeExpr) : Field where
  name := name
  type := type
  wireName := name

/-- Where the field is carried; without an annotation, in the body. -/
def location (f : Field) : Location :=
  f.annotatedLocation.getD .body

/-- Whether the location comes from an annotation. -/
def hasExplicitLocation (f : Field) : Bool :=
  f.annotatedLocation.isSome

/-- Whether the declared type is an optional slot. -/
def isOptional (f : Field) : Bool :=
  match f.type.unwrapped with
  | .optional _ => true
  | _ => false

/-- Whether the field is on the wire. -/
def isWire (f : Field) : Bool :=
  !f.wireName.isEmpty

/-- Whether the directive makes the field required. -/
def isRequired (f : Field) : Bool :=
  Directive.isRequired f.directive

end Field

/-- A method of a type. -/
structure Operation where
  name : String
  doc : Option String := none
  /-- The number of arguments besides the receiver. -/
  argCount : Nat := 0
  /-- The text that the method returns, if its body is nothing else. -/
  returned : Option String := none
  deriving DecidableEq, Repr, Inhabited

/-- The three kinds of definitions. -/
inductive Kind
  | record
  | simple
  | union
  deriving DecidableEq, Repr, Inhabited

/-- The definition of a type. -/
structure Definition where
  name : String
  space : String := ""
  doc : Option String := none
  fields : List Field := []
  /-- The types whose fields belong to the record itself. -/
  embedded : List TypeExpr := []
  kind : Kind := .record
  aliased : Option TypeExpr := none
  union : Option Union := none
  enumValues : List Json := []
  discriminatorValue : Option String := none
  discriminatorProperty : Option String := none
  operations : List Operation := []
  origin : Origin := {}
  deriving Repr, Inhabited

namespace Definition

/-- Whether a definition is a record. -/
def isRecord (d : Definition) : Bool :=
  d.kind == .record

/-- The first method with a given name. -/
def operation? (d : Definition) (name : String) : Option Operation :=
  d.operations.find? fun operation ↦ operation.name == name

/-- The names of the embedded types that have one. -/
def embeddedNames (d : Definition) : List String :=
  d.embedded.filterMap TypeExpr.name?

/-- Whether all fields are optional and off the wire, so that the record stands for a choice. -/
def holdsAlternatives (d : Definition) : Bool :=
  !d.fields.isEmpty && d.fields.all fun field ↦ field.isOptional && !field.isWire

end Definition

/-- A handler. -/
structure Handler where
  name : String
  space : String := ""
  doc : Option String := none
  request : TypeExpr
  /-- The type of the response body, if there is one. -/
  response : Option TypeExpr := none
  origin : Origin := {}
  deriving Repr, Inhabited

end ApiAtlas

/-!
# Settings

What a run may be told: how the document is titled, how parameters are recognized, and under which
names annotations, unions and route helpers are found.
-/

namespace ApiAtlas

/-- How query and header parameters are found among the fields of a request. -/
inductive ParameterStyle
  /-- Fields with a location of their own, and for GET and DELETE all body fields without one. -/
  | implicit
  /-- Only fields with a location of their own. -/
  | explicit
  deriving DecidableEq, Repr, Inhabited

/-- The name of a style. -/
def ParameterStyle.name : ParameterStyle → String
  | .implicit => "implicit"
  | .explicit => "explicit"

/-- The style with a given name. -/
def ParameterStyle.ofName? (name : String) : Option ParameterStyle :=
  if name == "implicit" then some .implicit
  else if name == "explicit" then some .explicit
  else none

/-- The title section of the document. -/
structure Info where
  title : String := "Generated API"
  version : String := "1.0.0"
  description : Option String := some "API documentation generated from Rust source"
  deriving DecidableEq, Repr, Inhabited

/-- The settings of a run. -/
structure Config where
  info : Info := {}
  parameterStyle : ParameterStyle := .implicit
  /-- The attribute that annotates fields and types. -/
  annotationAttribute : String := "api"
  /-- The name of the union types without the number of alternatives. -/
  unionPrefix : String := "OneOf"
  /-- The method without arguments that marks an alternative of a discriminated union. -/
  markerMethod : String := "discriminator"
  /-- The discriminator property of unions with marked alternatives. -/
  discriminatorProperty : String := "type"
  /-- The functions that wrap handlers in route registrations. -/
  buildHandlers : List String := ["build_handler"]
  /-- Further directives, each with the line it adds to a description, sorted by name. -/
  customDirectives : List (String × String) := []
  /-- Whether unions are searched for alternatives that cannot be told apart. -/
  subsetWarnings : Bool := true
  /-- Whether accessor files are written for unions. -/
  accessors : Bool := false
  deriving DecidableEq, Repr, Inhabited

end ApiAtlas

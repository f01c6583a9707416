import ApiAtlas.Catalog.Definition
import ApiAtlas.Route.Method

/-!
# Routes

A route leads from a method and a path to a handler. Its registration may add tags and ways in which
requests have to identify themselves.
-/

namespace ApiAtlas

/-- A way in which requests identify themselves. -/
inductive Security
  | basic
  | bearer (scopes : List String)
  | apiKey (header : String)
  deriving DecidableEq, Repr

namespace Security

/-- The name of the scheme in the document. -/
def schemeName : Security → String
  | .basic => "basicAuth"
  | .bearer _ => "bearerAuth"
  | .apiKey _ => "apiKeyAuth"

/-- The scopes that are asked for. -/
def scopes : Security → List String
  | .bearer scopes => scopes
  | _ => []

end Security

/-- A route registration. -/
structure Route where
  /-- The method, if the registration names one. -/
  method : Option Method := none
  path : String
  handler : String
  tags : List String := []
  security : List Security := []
  origin : Origin := {}
  deriving Repr, Inhabited

end ApiAtlas

import ApiAtlas.Config
import ApiAtlas.Route.Method
import ApiAtlas.Schema

/-!
# Documents

The description of an API: its operations by path and method, the named schemas that they mention,
the ways in which requests identify themselves, and the tags in use. All tables are sorted by key.
-/

namespace ApiAtlas.Document

/-- The schema of a body in one format. -/
structure MediaType where
  schema : Schema
  deriving BEq, Inhabited

/-- A parameter of an operation. -/
structure Parameter where
  name : String
  location : String
  required : Bool
  schema : Schema
  description : Option String := none
  deriving BEq, Inhabited

/-- The body of a request. -/
structure RequestBody where
  description : Option String := none
  required : Bool
  content : List (String × MediaType)
  deriving BEq, Inhabited

/-- A response. -/
structure Response where
  description : String
  content : Option (List (String × MediaType)) := none
  deriving BEq, Inhabited

/-- What the API does for one path and method. -/
structure Operation where
  summary : Option String := none
  description : Option String := none
  operationId : String
  tags : List String := []
  parameters : List Parameter := []
  requestBody : Option RequestBody := none
  /-- The responses by status code. -/
  responses : List (String × Response)
  /-- The requirements, each with its scheme and scopes. -/
  security : List (List (String × List String)) := []
  deriving BEq, Inhabited

/-- The operations of one path. -/
structure PathItem where
  get : Option Operation := none
  post : Option Operation := none
  put : Option Operation := none
  delete : Option Operation := none
  patch : Option Operation := none
  options : Option Operation := none
  head : Option Operation := none
  deriving BEq, Inhabited

namespace PathItem

/-- The operation of a method. -/
def at? (item : PathItem) : Method → Option Operation
  | .get => item.get
  | .post => item.post
  | .put => item.put
  | .delete => item.delete
  | .patch => item.patch
  | .options => item.options
  | .head => item.head

/-- Puts an operation at a method. -/
def set (item : PathItem) (method : Method) (operation : Operation) : PathItem :=
  match method with
  | .get => { item with get := some operation }
  | .post => { item with post := some operation }
  | .put => { item with put := some operation }
  | .delete => { item with delete := some operation }
  | .patch => { item with patch := some operation }
  | .options => { item with options := some operation }
  | .head => { item with head := some operation }

/-- The operations present, in the order of the methods. -/
def operations (item : PathItem) : List Operation :=
  [item.get, item.post, item.put, item.delete, item.patch, item.options, item.head].filterMap id

end PathItem

/-- A way in which requests identify themselves. -/
structure SecurityScheme where
  type : String
  scheme : Option String := none
  bearerFormat : Option String := none
  name : Option String := none
  location : Option String := none
  deriving DecidableEq, Inhabited

/-- A tag. -/
structure Tag where
  name : String
  deriving DecidableEq, Inhabited

/-- The named parts of a document. -/
structure Components where
  schemas : Option (List (String × Schema)) := none
  securitySchemes : Option (List (String × SecurityScheme)) := none
  deriving BEq, Inhabited

end ApiAtlas.Document

namespace ApiAtlas

/-- A document. -/
structure Document where
  openapi : String
  info : Info
  paths : List (String × Document.PathItem)
  components : Option Document.Components := none
  tags : List Document.Tag := []
  deriving BEq, Inhabited

end ApiAtlas

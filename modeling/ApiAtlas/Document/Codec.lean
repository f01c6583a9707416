import ApiAtlas.Document.Basic
import ApiAtlas.Schema.Codec

/-!
# Documents as JSON values

Every part of a document is written as an object whose members stand in a fixed order; absent values
and empty lists are left out. Reading takes the members in any order and ignores unknown ones. A null
reads as an absent optional value, and an array as the values of the members in their order.
-/

namespace ApiAtlas

namespace Json

/-! ## Tables and members -/

/-- A table as an object. -/
def ofEntries {α : Type} (write : α → Json) (table : List (String × α)) : Json :=
  .object (table.map fun (key, value) ↦ (key, write value))

/-- Reads an object as a table. -/
def entries? {α : Type} (read : Json → Option α) : Json → Option (List (String × α))
  | .object members =>
    (mapAll? (fun (key, value) ↦ (read value).map fun a ↦ (key, a)) members).map Keyed.ofList
  | _ => none

/-- Reads an array. -/
def list? {α : Type} (read : Json → Option α) : Json → Option (List α)
  | .array items => mapAll? read items
  | _ => none

/-- A list that is left out when it is empty. -/
def listMember {α : Type} (key : String) (write : α → Json) (l : List α) : List (String × Json) :=
  if l.isEmpty then [] else [(key, .array (l.map write))]

/-- Reads a member that has to be there. -/
def member? {α : Type} (read : Json → Option α) (json : Json) (key : String) : Option α :=
  (json.get? key).bind read

/-- Reads a member that may be missing or null. -/
def optional? {α : Type} (read : Json → Option α) (json : Json) (key : String) :
    Option (Option α) :=
  match json.get? key with
  | none => some none
  | some value => value.nullable? read

/-- Reads a list that may be missing. -/
def listOf? {α : Type} (read : Json → Option α) (json : Json) (key : String) : Option (List α) :=
  match json.get? key with
  | none => some []
  | some value => value.list? read

end Json

open Json (optionalMember listMember)

namespace Info

/-- A title section as a JSON value. -/
def toJson (i : Info) : Json :=
  .object ([("title", .string i.title), ("version", .string i.version)] ++
    optionalMember "description" (i.description.map .string))

/-- Reads a title section. -/
def ofJson? (json : Json) : Option Info := do
  let json ← json.withNames? ["title", "version", "description"] 3
  let title ← json.member? Json.string? "title"
  let version ← json.member? Json.string? "version"
  let description ← json.optional? Json.string? "description"
  return ⟨title, version, description⟩

end Info

namespace Document

namespace MediaType

/-- A body in one format as a JSON value. -/
def toJson (m : MediaType) : Json :=
  .object [("schema", m.schema.toJson)]

/-- Reads a body in one format. -/
def ofJson? (json : Json) : Option MediaType := do
  let json ← json.withNames? ["schema"] 1
  return ⟨← json.member? Schema.ofJson? "schema"⟩

end MediaType

namespace Parameter

/-- A parameter as a JSON value. -/
def toJson (p : Parameter) : Json :=
  .object ([("name", .string p.name), ("in", .string p.location), ("required", .bool p.required),
      ("schema", p.schema.toJson)] ++ optionalMember "description" (p.description.map .string))

/-- Reads a parameter. -/
def ofJson? (json : Json) : Option Parameter := do
  let json ← json.withNames? ["name", "in", "required", "schema", "description"] 5
  let name ← json.member? Json.string? "name"
  let location ← json.member? Json.string? "in"
  let required ← json.member? Json.bool? "required"
  let schema ← json.member? Schema.ofJson? "schema"
  let description ← json.optional? Json.string? "description"
  return ⟨name, location, required, schema, description⟩

end Parameter

namespace RequestBody

/-- A request body as a JSON value. -/
def toJson (b : RequestBody) : Json :=
  .object (optionalMember "description" (b.description.map .string) ++
    [("required", .bool b.required), ("content", Json.ofEntries MediaType.toJson b.content)])

/-- Reads a request body. -/
def ofJson? (json : Json) : Option RequestBody := do
  let json ← json.withNames? ["description", "required", "content"] 3
  let description ← json.optional? Json.string? "description"
  let required ← json.member? Json.bool? "required"
  let content ← json.member? (Json.entries? MediaType.ofJson?) "content"
  return ⟨description, required, content⟩

end RequestBody

namespace Response

/-- A response as a JSON value. -/
def toJson (r : Response) : Json :=
  .object (("description", .string r.description) ::
    optionalMember "content" (r.content.map (Json.ofEntries MediaType.toJson)))

/-- Reads a response. -/
def ofJson? (json : Json) : Option Response := do
  let json ← json.withNames? ["description", "content"] 2
  let description ← json.member? Json.string? "description"
  let content ← json.optional? (Json.entries? MediaType.ofJson?) "content"
  return ⟨description, content⟩

end Response

namespace Operation

/-- An operation as a JSON value. -/
def toJson (o : Operation) : Json :=
  .object (optionalMember "summary" (o.summary.map .string) ++
    optionalMember "description" (o.description.map .string) ++
    [("operationId", .string o.operationId)] ++
    listMember "tags" Json.string o.tags ++
    listMember "parameters" Parameter.toJson o.parameters ++
    optionalMember "requestBody" (o.requestBody.map RequestBody.toJson) ++
    [("responses", Json.ofEntries Response.toJson o.responses)] ++
    listMember "security" (Json.ofEntries Json.ofStrings) o.security)

/-- Reads an operation. -/
def ofJson? (json : Json) : Option Operation := do
  let json ← json.withNames?
    ["summary", "description", "operationId", "tags", "parameters",
      "requestBody", "responses", "security"] 7
  let summary ← json.optional? Json.string? "summary"
  let description ← json.optional? Json.string? "description"
  let operationId ← json.member? Json.string? "operationId"
  let tags ← json.listOf? Json.string? "tags"
  let parameters ← json.listOf? Parameter.ofJson? "parameters"
  let requestBody ← json.optional? RequestBody.ofJson? "requestBody"
  let responses ← json.member? (Json.entries? Response.ofJson?) "responses"
  let security ← json.listOf? (Json.entries? Json.strings?) "security"
  return ⟨summary, description, operationId, tags, parameters, requestBody, responses, security⟩

end Operation

namespace PathItem

/-- The operations of a path as a JSON value. -/
def toJson (p : PathItem) : Json :=
  .object (optionalMember "get" (p.get.map Operation.toJson) ++
    optionalMember "post" (p.post.map Operation.toJson) ++
    optionalMember "put" (p.put.map Operation.toJson) ++
    optionalMember "delete" (p.delete.map Operation.toJson) ++
    optionalMember "patch" (p.patch.map Operation.toJson) ++
    optionalMember "options" (p.options.map Operation.toJson) ++
    optionalMember "head" (p.head.map Operation.toJson))

/-- Reads the operations of a path. -/
def ofJson? (json : Json) : Option PathItem := do
  let json ← json.withNames? ["get", "post", "put", "delete", "patch", "options", "head"] 7
  let get ← json.optional? Operation.ofJson? "get"
  let post ← json.optional? Operation.ofJson? "post"
  let put ← json.optional? Operation.ofJson? "put"
  let delete ← json.optional? Operation.ofJson? "delete"
  let patch ← json.optional? Operation.ofJson? "patch"
  let options ← json.optional? Operation.ofJson? "options"
  let head ← json.optional? Operation.ofJson? "head"
  return ⟨get, post, put, delete, patch, options, head⟩

end PathItem

namespace SecurityScheme

/-- A security scheme as a JSON value. -/
def toJson (s : SecurityScheme) : Json :=
  .object (("type", .string s.type) :: (optionalMember "scheme" (s.scheme.map .string) ++
    optionalMember "bearerFormat" (s.bearerFormat.map .string) ++
    optionalMember "name" (s.name.map .string) ++
    optionalMember "in" (s.location.map .string)))

/-- Reads a security scheme. -/
def ofJson? (json : Json) : Option SecurityScheme := do
  let json ← json.withNames? ["type", "scheme", "bearerFormat", "name", "in"] 5
  let type ← json.member? Json.string? "type"
  let scheme ← json.optional? Json.string? "scheme"
  let bearerFormat ← json.optional? Json.string? "bearerFormat"
  let name ← json.optional? Json.string? "name"
  let location ← json.optional? Json.string? "in"
  return ⟨type, scheme, bearerFormat, name, location⟩

end SecurityScheme

namespace Tag

/-- A tag as a JSON value. -/
def toJson (t : Tag) : Json :=
  .object [("name", .string t.name)]

/-- Reads a tag. -/
def ofJson? (json : Json) : Option Tag := do
  let json ← json.withNames? ["name"] 1
  return ⟨← json.member? Json.string? "name"⟩

end Tag

namespace Components

/-- The named parts of a document as a JSON value. -/
def toJson (c : Components) : Json :=
  .object (optionalMember "schemas" (c.schemas.map (Json.ofEntries Schema.toJson)) ++
    optionalMember "securitySchemes" (c.securitySchemes.map (Json.ofEntries SecurityScheme.toJson)))

/-- Reads the named parts of a document. -/
def ofJson? (json : Json) : Option Components := do
  let json ← json.withNames? ["schemas", "securitySchemes"] 2
  let schemas ← json.optional? (Json.entries? Schema.ofJson?) "schemas"
  let securitySchemes ← json.optional? (Json.entries? SecurityScheme.ofJson?) "securitySchemes"
  return ⟨schemas, securitySchemes⟩

end Components

/-- A document as a JSON value. -/
def toJson (d : Document) : Json :=
  .object ([("openapi", .string d.openapi), ("info", d.info.toJson),
      ("paths", Json.ofEntries PathItem.toJson d.paths)] ++
    optionalMember "components" (d.components.map Components.toJson) ++
    listMember "tags" Tag.toJson d.tags)

/-- Reads a document. -/
def ofJson? (json : Json) : Option Document := do
  let json ← json.withNames? ["openapi", "info", "paths", "components", "tags"] 4
  let openapi ← json.member? Json.string? "openapi"
  let info ← json.member? Info.ofJson? "info"
  let paths ← json.member? (Json.entries? PathItem.ofJson?) "paths"
  let components ← json.optional? Components.ofJson? "components"
  let tags ← json.listOf? Tag.ofJson? "tags"
  return ⟨openapi, info, paths, components, tags⟩

end Document

end ApiAtlas

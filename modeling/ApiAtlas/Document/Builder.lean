import ApiAtlas.Document.Basic
import ApiAtlas.Generator
import ApiAtlas.Route.Basic
import ApiAtlas.Route.Template

/-!
# Building documents

A document is built route by route. Each route with a known handler adds one operation: its
parameters come from the placeholders of the path and the fields of the request, its body from the
request, and its responses from the handler. The tags and security schemes of the document are those
of the operations in it.
-/

namespace ApiAtlas

/-- A document under construction. -/
structure Builder where
  info : Info
  parameterStyle : ParameterStyle
  paths : List (String × Document.PathItem) := []
  /-- The definitions of all schemes asked for, by name. -/
  schemes : List (String × Document.SecurityScheme) := []
  diagnostics : List Notice := []

namespace Builder

open Document (Parameter RequestBody Response MediaType SecurityScheme PathItem)

/-- An empty document. -/
def new (config : Config) : Builder :=
  { info := config.info, parameterStyle := config.parameterStyle }

/-! ## Fields of a request -/

/-- The fields of a request type and of what it embeds; of several embedded types the last one comes
first. -/
def requestFields (c : Catalog) (request : TypeExpr) : List Field :=
  (c.closure Definition.isRecord List.reverse [] request.name?.toList).flatMap Definition.fields

/-- The name of a field as a parameter. -/
def paramName (f : Field) : String :=
  if f.wireName.isEmpty then f.name else f.wireName

/-- The field that a placeholder is bound to. -/
def boundField? (fields : List Field) (placeholder : String) : Option Field :=
  fields.find? fun f ↦ paramName f == placeholder || f.name == placeholder

/-- The wire names of the body fields that the placeholders of a path take over, sorted. -/
def claimedNames (path : String) (fields : List Field) : List String :=
  Keyed.sortNames
    ((((Template.params path).filterMap (boundField? fields)).filter fun f ↦
      f.location == .body && f.isWire).map Field.wireName)

/-! ## Parameters -/

/-- The parameter of a placeholder. -/
def pathParameter (env : Env) (fields : List Field) (name : String) : Traced Parameter := do
  match boundField? fields name with
  | some f =>
    let schema ← env.fieldSchema f
    return ⟨name, Location.path.name, true, schema, f.doc⟩
  | none => return ⟨name, Location.path.name, true, Schema.typed "string", none⟩

/-- Whether the body fields of a request without a location are query parameters. -/
def impliesQuery (style : ParameterStyle) (method : Method) : Bool :=
  style == .implicit && (method == .get || method == .delete)

/-- Where a field becomes a parameter, if it does. -/
def parameterLocation? (implied : Bool) (f : Field) : Option Location :=
  match f.annotatedLocation with
  | some .query => some .query
  | some .header => some .header
  | none => if implied && f.isWire then some .query else none
  | _ => none

/-- The fields that become query and header parameters, with their locations; placeholders and
repeated names are left out. -/
def parameterFields (implied : Bool) (placeholders : List String) (fields : List Field) :
    List (Field × Location) :=
  let candidates := fields.filterMap fun f ↦
    (parameterLocation? implied f).map fun location ↦ (f, location)
  candidates.foldl (fun found (f, location) ↦
    if placeholders.contains (paramName f) ||
        found.any (fun (g, other) ↦ paramName g == paramName f && other == location) then found
    else found ++ [(f, location)]) []

/-- The parameter of a field. -/
def fieldParameter (env : Env) (f : Field) (location : Location) : Traced Parameter := do
  let schema ← env.fieldSchema f
  return ⟨paramName f, location.name, f.isRequired, schema, f.doc⟩

/-- Runs over a list. -/
def collect {α β : Type} (make : α → Traced β) : List α → Traced (List β)
  | [] => pure []
  | a :: rest => do
    let b ← make a
    return b :: (← collect make rest)

/-- The parameters of an operation: first those of the path, then those of the query and header. -/
def parameters (env : Env) (style : ParameterStyle) (method : Method) (path : String)
    (fields : List Field) : Traced (List Parameter) := do
  let placeholders := Template.params path
  let first ← collect (pathParameter env fields) placeholders
  let rest ← collect (fun (f, location) ↦ fieldParameter env f location)
    (parameterFields (impliesQuery style method) placeholders fields)
  return first ++ rest

/-! ## Operations -/

/-- A body in JSON. -/
def jsonContent (schema : Schema) : List (String × MediaType) :=
  [("application/json", ⟨schema⟩)]

/-- A response with a body in JSON. -/
def response (description : String) (schema : Schema) : Response :=
  ⟨description, some (jsonContent schema)⟩

/-- The request body of an operation, for methods that have one. -/
def requestBody (env : Env) (method : Method) (h : Handler) (claimed : List String) :
    Traced (Option RequestBody) :=
  if method.hasBody && !h.request.isUnit then do
    let schema ← env.requestBody h.request claimed
    return some ⟨some "Request body", true, jsonContent schema⟩
  else pure none

/-- The schema of a successful response. -/
def successSchema (env : Env) (h : Handler) : Traced Schema :=
  match h.response with
  | some t => env.schemaOf t
  | none => pure (Schema.typed "object")

/-- The operation of a route. -/
def operation (env : Env) (style : ParameterStyle) (method : Method) (route : Route)
    (h : Handler) : Traced Document.Operation := do
  let fields := requestFields env.catalog h.request
  let parameters ← parameters env style method route.path fields
  let body ← requestBody env method h (claimedNames route.path fields)
  let success ← successSchema env h
  return {
    summary := some (method.name ++ " " ++ route.path)
    description := h.doc
    operationId := h.name
    tags := route.tags
    parameters := parameters
    requestBody := body
    responses := [("200", response "Successful response" success),
      ("400", response "Bad request" Schema.errorObject),
      ("500", response "Internal server error" Schema.errorObject)]
    security := route.security.map fun s ↦ [(s.schemeName, s.scopes)] }

/-! ## Security -/

/-- The definition of the scheme of a requirement. -/
def schemeOf : Security → SecurityScheme
  | .basic => { type := "http", scheme := some "basic" }
  | .bearer _ => { type := "http", scheme := some "bearer", bearerFormat := some "JWT" }
  | .apiKey header => { type := "apiKey", name := some header, location := some "header" }

/-- Adds the scheme of a requirement. The first API key header is the documented one. -/
def addScheme (b : Builder) (method : Method) (path : String) (requirement : Security) :
    Builder × Option Notice :=
  match Keyed.get? requirement.schemeName b.schemes with
  | none =>
    ({ b with schemes := Keyed.insert requirement.schemeName (schemeOf requirement) b.schemes },
      none)
  | some existing =>
    match requirement with
    | .apiKey header =>
      let documented := existing.name.getD ""
      if documented == header then (b, none)
      else
        let notice := Notice.conflictingHeader header method.name path documented
        ({ b with diagnostics := b.diagnostics ++ [notice] }, some notice)
    | _ => (b, none)

/-- Adds the schemes of a list of requirements, with what there is to report. -/
def addSchemes (b : Builder) (method : Method) (path : String) (requirements : List Security) :
    Builder × List Notice :=
  requirements.foldl (fun (b, notices) requirement ↦
    let (b, notice) := b.addScheme method path requirement
    (b, notices ++ notice.toList)) (b, [])

/-! ## Routes -/

/-- Puts an operation into the document, with what there is to report if it replaces one. -/
def place (b : Builder) (method : Method) (path : String) (operation : Document.Operation) :
    Builder × Option Notice :=
  let item := (Keyed.get? path b.paths).getD {}
  let notice := (item.at? method).map fun existing ↦
    Notice.replacedOperation method.name path operation.operationId existing.operationId
  ({ b with paths := Keyed.insert path (item.set method operation) b.paths }, notice)

/-- The method of a route: its own, or the one that its handler's name suggests. -/
def effectiveMethod (route : Route) (h : Handler) : Method :=
  route.method.getD (Method.infer h.name)

/-- Adds the operation of a route and tells whether its handler is known. -/
def addRoute (env : Env) (b : Builder) (s : Session) (route : Route) : Bool × Builder × Session :=
  match env.catalog.handler? route.handler with
  | none =>
    let notice :=
      Notice.unknownHandler route.handler route.path route.origin.file route.origin.line
    (false, { b with diagnostics := b.diagnostics ++ [notice] }, s.report [notice])
  | some h =>
    let method := effectiveMethod route h
    let (made, s) := Session.run env s (operation env b.parameterStyle method route h)
    let (b, conflicts) := b.addSchemes method route.path route.security
    let (b, replaced) := b.place method route.path made
    (true, b, s.report (conflicts ++ replaced.toList))

/-- Adds the operations of a list of routes and counts those with a known handler. -/
def addRoutes (env : Env) (b : Builder) (s : Session) (routes : List Route) :
    Nat × Builder × Session :=
  routes.foldl (fun (count, b, s) route ↦
    let (added, b, s) := addRoute env b s route
    (if added then count + 1 else count, b, s)) (0, b, s)

/-! ## The document -/

/-- The operations in the document, path by path. -/
def operations (b : Builder) : List Document.Operation :=
  b.paths.flatMap fun (_, item) ↦ item.operations

/-- The names of the schemes that operations ask for. -/
def schemeNames (b : Builder) : List String :=
  b.operations.flatMap fun o ↦ o.security.flatMap Keyed.keys

/-- The document, with the components made by a generator. -/
def build (b : Builder) (g : Generator) : Document :=
  let names := b.schemeNames
  let schemes := b.schemes.filter fun (name, _) ↦ names.contains name
  let schemas := g.schemas
  { openapi := "3.1.0"
    info := b.info
    paths := b.paths
    components :=
      if schemas.isEmpty && schemes.isEmpty then none
      else some ⟨Env.nonempty? schemas, Env.nonempty? schemes⟩
    tags := (Keyed.sortNames (b.operations.flatMap Document.Operation.tags)).map fun name ↦ ⟨name⟩ }

end Builder

end ApiAtlas

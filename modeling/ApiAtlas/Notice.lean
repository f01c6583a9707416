import ApiAtlas.Text.Quoted

/-!
# Notices

What a run reports without stopping: names that are defined twice, routes that lead nowhere, unions
whose alternatives cannot be told apart, directives that cannot be followed. Each kind of notice has
one wording.
-/

namespace ApiAtlas

/-- Something worth reporting. -/
inductive Notice
  /-- A second definition of a type is ignored. -/
  | duplicateType (name file keptFile : String)
  /-- A second handler of the same name is ignored. -/
  | duplicateHandler (name : String)
  /-- No route registration was found. -/
  | noRoutes
  /-- Every wire field of one alternative of a union also belongs to another one. -/
  | subsetAlternative (label small large : String)
  /-- A type has no discriminator value, so its name serves as one. -/
  | fallbackValue (name value : String)
  /-- A field names a discriminator, but its type is no union. -/
  | notUnion (field property : String)
  /-- The directive of a field has errors. -/
  | brokenDirective (field message : String)
  /-- The handler of a route is not known. -/
  | unknownHandler (handler path file : String) (line : Nat)
  /-- A route asks for another API key header than the documented one. -/
  | conflictingHeader (header method path documented : String)
  /-- An operation takes the place of an earlier one. -/
  | replacedOperation (method path new old : String)
  deriving DecidableEq, Repr

/-- The wording of a notice. -/
def Notice.message : Notice → String
  | .duplicateType name file keptFile =>
    s!"Duplicate type {name} in {file} (keeping the one from {keptFile})"
  | .duplicateHandler name => s!"Duplicate handler {name} ignored"
  | .noRoutes => "No routes found"
  | .subsetAlternative label small large =>
    s!"union {label}: every wire field of {small} also appears in {large}; " ++
      s!"add a discriminator or list {large} before {small}"
  | .fallbackValue name value =>
    let quoted := Text.quoted value
    s!"No discriminator value declared for {name}; falling back to {quoted}. " ++
      "Add #[api(discriminator_value = \"...\")] to make it explicit"
  | .notUnion field property => s!"Field {field} names discriminator {property} but is not a union"
  | .brokenDirective field message => s!"Field {field}: {message}"
  | .unknownHandler handler path file line =>
    s!"Unknown handler {handler} for route {path} ({file}:{line}), skipping"
  | .conflictingHeader header method path documented =>
    s!"API key header {header} for {method} {path} differs from {documented}; " ++
      s!"only {documented} is documented"
  | .replacedOperation method path new old =>
    s!"Duplicate operation {method} {path}: {new} replaces {old}"

end ApiAtlas

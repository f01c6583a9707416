import ApiAtlas.Directive.Apply
import ApiAtlas.Generator.Traced

/-!
# Schemas of types

The schema of a type expression, of a field and of a component. Types of the catalog are mentioned
by reference, primitive types, sequences and maps are written out, and unknown types are objects.
-/

namespace ApiAtlas

/-- What schemas are made from. -/
structure Env where
  catalog : Catalog
  config : Config

namespace Env

/-! ## Types -/

/-- The schema of a primitive type. -/
def primitiveSchema (p : Primitive) : Schema :=
  { type := p.schemaType?, format := p.format? }

/-- The schema of a name that is not the unit type. -/
def nameSchema (env : Env) (name : String) : Traced Schema :=
  match Primitive.ofName? name with
  | some p => pure (primitiveSchema p)
  | none =>
    if env.catalog.hasType name then do
      Traced.step (.mention name)
      return Schema.reference name
    else pure (Schema.typed "object")

/-- Resolves a union under a label, with the steps that this takes. -/
def resolved (env : Env) (label : String) (property : Option String) (u : Union) : Traced Union := do
  Traced.report (u.resolveNotices env.catalog env.config property)
  let found := u.resolve env.catalog env.config property
  Traced.step (.meet label found)
  return found

/-- The schema of a resolved union, from the schemas of its alternatives. -/
def unionSchema (u : Union) (alternatives : List Schema) : Schema :=
  { oneOf := some alternatives, discriminator := u.discriminator }

mutual

/-- The schema of a type expression. -/
def schemaOf (env : Env) : TypeExpr → Traced Schema
  | .named name =>
    if name == "()" then pure (Schema.typed "object") else env.nameSchema name
  | .optional inner => do
    let schema ← schemaOf env inner
    return { schema with nullable := true }
  | .sequence element => do return Schema.array (← schemaOf env element)
  | .map _ value => do
    let schema ← schemaOf env value
    return { Schema.typed "object" with additionalProperties := some schema }
  | .generic base args =>
    match args, TypeExpr.wrappers.contains base with
    | [a], true => schemaOf env a
    | args, _ =>
      match Union.detect? env.config.unionPrefix (.generic base args) with
      | some u => do
        let found ← env.resolved (TypeExpr.generic base args).render none u
        return unionSchema found (← schemasOf env args)
      | none => env.nameSchema base

/-- The schemas of a list of type expressions. -/
def schemasOf (env : Env) : List TypeExpr → Traced (List Schema)
  | [] => pure []
  | t :: rest => do
    let first ← schemaOf env t
    return first :: (← schemasOf env rest)

end

/-! ## Fields -/

/-- The expression that a type stands for on the wire: under wrappers, one optional slot and simple
aliases, as long as no alias comes back. -/
def wireTarget (env : Env) (seen : List String) (t : TypeExpr) : TypeExpr :=
  match t.payload.1 with
  | .named name =>
    if _hseen : (Primitive.ofName? name).isSome || seen.contains name then .named name
    else
      match _hd : env.catalog.type? name with
      | some d =>
        match d.kind, d.aliased with
        | .simple, some aliased => wireTarget env (name :: seen) aliased
        | _, _ => .named name
      | none => .named name
  | other => other
termination_by env.catalog.unvisited seen
decreasing_by
  apply Catalog.unvisited_cons_lt _hd
  simp only [Bool.or_eq_true, not_or, Bool.not_eq_true] at _hseen
  exact _hseen.2

/-- The wire type by which the directive of a field is read. -/
def wireType (env : Env) (t : TypeExpr) : WireType :=
  WireType.ofType (env.wireTarget [] t)

/-- The union that a field holds, given directly or by an alias. -/
def unionOf? (env : Env) (t : TypeExpr) : Option Union :=
  let inner := t.payload.1
  match Union.detect? env.config.unionPrefix inner with
  | some u => some u
  | none => (inner.name?.bind env.catalog.type?).bind Definition.union

/-- The schema of a field before its documentation and its directive. -/
def fieldBase (env : Env) (f : Field) : Traced Schema :=
  match f.discriminator with
  | none => env.schemaOf f.type
  | some property =>
    match env.unionOf? f.type with
    | some u => do
      let found ← env.resolved f.type.payload.1.render (some property) u
      let schema := unionSchema found (← env.schemasOf found.alternatives)
      return { schema with nullable := f.isOptional }
    | none => do
      Traced.report [.notUnion f.name property]
      env.schemaOf f.type

/-- The schema of a field. Errors of its directive are added to the description. -/
def fieldSchema (env : Env) (f : Field) : Traced Schema := do
  let base ← env.fieldBase f
  let documented :=
    match f.doc with
    | some doc => base.describe doc
    | none => base
  let schema := { documented with deprecated := documented.deprecated || f.isDeprecated }
  if f.directive.isEmpty then return schema
  else
    let (schema, issues) :=
      Directive.apply env.config.customDirectives f.directive (env.wireType f.type) schema
    if issues.isEmpty then return schema
    else
      let message := Directive.issuesMessage issues
      Traced.report [.brokenDirective f.name message]
      return schema.describe ("WARNING: " ++ message)

/-! ## Records -/

/-- The fields of a record and of what it embeds that belong to the body, without some names. -/
def bodyFields (env : Env) (excluded : List String) (d : Definition) : List Field :=
  ((env.catalog.withEmbedded d).flatMap Definition.fields).filter fun f ↦
    f.isWire && f.location == .body && !excluded.contains f.wireName

/-- The properties of a list of fields; of two fields with the same name the later one counts. -/
def properties (env : Env) : List Field → Traced (List (String × Schema))
  | [] => pure []
  | f :: rest => do
    let schema ← env.fieldSchema f
    return (f.wireName, schema) :: (← properties env rest)

/-- The distinct names of the required fields of a list, in order. -/
def requiredNames (fields : List Field) : List String :=
  fields.foldl (fun names f ↦
    if f.isRequired && !names.contains f.wireName then names ++ [f.wireName] else names) []

/-- A list, unless it is empty. -/
def nonempty? {α : Type} (l : List α) : Option (List α) :=
  if l.isEmpty then none else some l

/-- The schema of a record as an object, without some of its names. -/
def objectSchema (env : Env) (excluded : List String) (d : Definition) : Traced Schema := do
  let fields := env.bodyFields excluded d
  let entries ← env.properties fields
  return { Schema.typed "object" with
    description := d.doc
    properties := some (Keyed.ofList entries)
    required := nonempty? (requiredNames fields) }

/-- The schema of a record that stands for a choice. -/
def choiceSchema (env : Env) (d : Definition) : Traced Schema := do
  let alternatives ← env.schemasOf (d.fields.map fun f ↦ f.type.payload.1)
  return { description := d.doc, oneOf := some alternatives }

/-! ## Components -/

/-- The schema of a simple alias. -/
def aliasSchema (env : Env) (d : Definition) : Traced Schema := do
  let base ←
    match d.aliased with
    | some t => env.schemaOf t
    | none => pure (Schema.typed "object")
  let valued := if d.enumValues.isEmpty then base else { base with enum := some d.enumValues }
  match d.doc with
  | some doc => return valued.describe doc
  | none => return valued

/-- The schema of an alias of a union. -/
def unionAliasSchema (env : Env) (d : Definition) : Traced Schema :=
  match d.union with
  | none => pure (Schema.typed "object")
  | some u => do
    let found ← env.resolved d.name d.discriminatorProperty u
    let schema := unionSchema found (← env.schemasOf found.alternatives)
    return { schema with description := d.doc }

/-- The schema of a component. -/
def component (env : Env) (d : Definition) : Traced Schema :=
  match d.kind with
  | .record => if d.holdsAlternatives then env.choiceSchema d else env.objectSchema [] d
  | .simple => env.aliasSchema d
  | .union => env.unionAliasSchema d

/-- The schema of a request body, without the names that the path carries. With no such name it is
the schema of the type. -/
def requestBody (env : Env) (t : TypeExpr) (claimed : List String) : Traced Schema :=
  match t.name?.bind env.catalog.record?, claimed with
  | some d, _ :: _ => env.objectSchema claimed d
  | _, _ => env.schemaOf t

end Env

end ApiAtlas

import ApiAtlas.Schema

/-!
# Schemas as JSON values

A schema is written as an object whose members stand in a fixed order, absent members and false
flags left out. Reading takes the members in any order, ignores unknown ones, and treats a null as
an absent optional member. An array is read like an object: it gives the values of the members in
their order.
-/

namespace ApiAtlas

namespace Json

/-- A member that is left out when there is no value. -/
def optionalMember (key : String) (value : Option Json) : List (String × Json) :=
  match value with
  | some json => [(key, json)]
  | none => []

/-- A member that is written only when the flag is set. -/
def flagMember (key : String) (flag : Bool) : List (String × Json) :=
  if flag then [(key, .bool true)] else []

/-- A table of strings as an object. -/
def ofTable (table : List (String × String)) : Json :=
  .object (table.map fun (key, value) ↦ (key, .string value))

/-- Reads every element of a list. -/
def mapAll? {α β : Type} (read : α → Option β) : List α → Option (List β)
  | [] => some []
  | a :: rest =>
    match read a, mapAll? read rest with
    | some b, some bs => some (b :: bs)
    | _, _ => none

/-- Reads an optional member: null stands for an absent value. -/
def nullable? {α : Type} (read : Json → Option α) (json : Json) : Option (Option α) :=
  match json with
  | .null => some none
  | json => (read json).map some

/-- Reads a flag. -/
def bool? : Json → Option Bool
  | .bool value => some value
  | _ => none

/-- Reads a number. -/
def toNumber? : Json → Option Number
  | .number value => some value
  | _ => none

/-- Reads a natural number of 64 bits. -/
def nat? : Json → Option Nat
  | .number (.int value) => if Decimal.isUnsigned64 value then some value.toNat else none
  | _ => none

/-- Reads an array of strings. -/
def strings? : Json → Option (List String)
  | .array items => mapAll? string? items
  | _ => none

/-- Reads an array of arbitrary values. -/
def values? : Json → Option (List Json)
  | .array items => some items
  | _ => none

/-- A value as an object of the named members. An array gives their values in order, all of the first
`needed` ones and as many of the others as it has. -/
def withNames? (names : List String) (needed : Nat) : Json → Option Json
  | .object members => some (.object members)
  | .array items =>
    if needed ≤ items.length && items.length ≤ names.length then some (.object (names.zip items))
    else none
  | _ => none

/-- Reads an object of strings as a table. -/
def table? : Json → Option (List (String × String))
  | .object members =>
    (mapAll? (fun (key, value) ↦ (string? value).map fun s ↦ (key, s)) members).map Keyed.ofList
  | _ => none

end Json

namespace Discriminator

/-- A discriminator as a JSON value; an empty mapping is left out. -/
def toJson (d : Discriminator) : Json :=
  .object (("propertyName", .string d.propertyName) ::
    if d.mapping.isEmpty then [] else [("mapping", Json.ofTable d.mapping)])

/-- Reads a discriminator. -/
def ofJson? (json : Json) : Option Discriminator := do
  let json ← json.withNames? ["propertyName", "mapping"] 1
  let name ← (← json.get? "propertyName").string?
  match json.get? "mapping" with
  | none => return ⟨name, []⟩
  | some mapping => return ⟨name, ← mapping.table?⟩

end Discriminator

namespace Schema

open Json (optionalMember flagMember)

mutual

/-- A schema as a JSON value. -/
def toJson : Schema → Json
  | ⟨ref, type, format, description, properties, items, additionalProperties, required, enum,
      minimum, maximum, minLength, maxLength, minItems, maxItems, pattern, exclusiveMinimum,
      exclusiveMaximum, uniqueItems, nullable, readOnly, writeOnly, deprecated, oneOf, anyOf, allOf,
      discriminator⟩ =>
    .object (
      optionalMember "$ref" (ref.map .string) ++
      optionalMember "type" (type.map .string) ++
      optionalMember "format" (format.map .string) ++
      optionalMember "description" (description.map .string) ++
      optionalMember "properties" (tableToJson? properties) ++
      optionalMember "items" (schemaToJson? items) ++
      optionalMember "additionalProperties" (schemaToJson? additionalProperties) ++
      optionalMember "required" (required.map Json.ofStrings) ++
      optionalMember "enum" (enum.map .array) ++
      optionalMember "minimum" (minimum.map .number) ++
      optionalMember "maximum" (maximum.map .number) ++
      optionalMember "minLength" (minLength.map Json.ofNat) ++
      optionalMember "maxLength" (maxLength.map Json.ofNat) ++
      optionalMember "minItems" (minItems.map Json.ofNat) ++
      optionalMember "maxItems" (maxItems.map Json.ofNat) ++
      optionalMember "pattern" (pattern.map .string) ++
      flagMember "exclusiveMinimum" exclusiveMinimum ++
      flagMember "exclusiveMaximum" exclusiveMaximum ++
      flagMember "uniqueItems" uniqueItems ++
      flagMember "nullable" nullable ++
      flagMember "readOnly" readOnly ++
      flagMember "writeOnly" writeOnly ++
      flagMember "deprecated" deprecated ++
      optionalMember "oneOf" (schemasToJson? oneOf) ++
      optionalMember "anyOf" (schemasToJson? anyOf) ++
      optionalMember "allOf" (schemasToJson? allOf) ++
      optionalMember "discriminator" (discriminator.map Discriminator.toJson))

/-- The JSON value of a schema that may be absent. -/
def schemaToJson? : Option Schema → Option Json
  | some schema => some (toJson schema)
  | none => none

/-- The JSON value of a list of schemas that may be absent. -/
def schemasToJson? : Option (List Schema) → Option Json
  | some schemas => some (.array (listToJson schemas))
  | none => none

/-- The JSON value of a table of schemas that may be absent. -/
def tableToJson? : Option (List (String × Schema)) → Option Json
  | some table => some (.object (membersToJson table))
  | none => none

/-- The schemas of a list as JSON values. -/
def listToJson : List Schema → List Json
  | [] => []
  | schema :: rest => toJson schema :: listToJson rest

/-- The schemas of a table as members of an object. -/
def membersToJson : List (String × Schema) → List (String × Json)
  | [] => []
  | (key, schema) :: rest => (key, toJson schema) :: membersToJson rest

end

/-- Reads a member whose value holds no schema. Unknown members change nothing. -/
def setPlain? (key : String) (value : Json) (s : Schema) : Option Schema :=
  if key == "$ref" then (value.nullable? Json.string?).map fun v ↦ { s with ref := v }
  else if key == "type" then (value.nullable? Json.string?).map fun v ↦ { s with type := v }
  else if key == "format" then (value.nullable? Json.string?).map fun v ↦ { s with format := v }
  else if key == "description" then
    (value.nullable? Json.string?).map fun v ↦ { s with description := v }
  else if key == "required" then
    (value.nullable? Json.strings?).map fun v ↦ { s with required := v }
  else if key == "enum" then (value.nullable? Json.values?).map fun v ↦ { s with enum := v }
  else if key == "minimum" then (value.nullable? Json.toNumber?).map fun v ↦ { s with minimum := v }
  else if key == "maximum" then (value.nullable? Json.toNumber?).map fun v ↦ { s with maximum := v }
  else if key == "minLength" then (value.nullable? Json.nat?).map fun v ↦ { s with minLength := v }
  else if key == "maxLength" then (value.nullable? Json.nat?).map fun v ↦ { s with maxLength := v }
  else if key == "minItems" then (value.nullable? Json.nat?).map fun v ↦ { s with minItems := v }
  else if key == "maxItems" then (value.nullable? Json.nat?).map fun v ↦ { s with maxItems := v }
  else if key == "pattern" then (value.nullable? Json.string?).map fun v ↦ { s with pattern := v }
  else if key == "exclusiveMinimum" then
    value.bool?.map fun v ↦ { s with exclusiveMinimum := v }
  else if key == "exclusiveMaximum" then
    value.bool?.map fun v ↦ { s with exclusiveMaximum := v }
  else if key == "uniqueItems" then value.bool?.map fun v ↦ { s with uniqueItems := v }
  else if key == "nullable" then value.bool?.map fun v ↦ { s with nullable := v }
  else if key == "readOnly" then value.bool?.map fun v ↦ { s with readOnly := v }
  else if key == "writeOnly" then value.bool?.map fun v ↦ { s with writeOnly := v }
  else if key == "deprecated" then value.bool?.map fun v ↦ { s with deprecated := v }
  else if key == "discriminator" then
    (value.nullable? Discriminator.ofJson?).map fun v ↦ { s with discriminator := v }
  else some s

/-- The members of a schema in their order. -/
def memberNames : List String :=
  ["$ref", "type", "format", "description", "properties", "items", "additionalProperties",
    "required", "enum", "minimum", "maximum", "minLength", "maxLength", "minItems", "maxItems",
    "pattern", "exclusiveMinimum", "exclusiveMaximum", "uniqueItems", "nullable", "readOnly",
    "writeOnly", "deprecated", "oneOf", "anyOf", "allOf", "discriminator"]

/-- What the value of a member holds. -/
inductive Content
  | schema
  | schemas
  | table
  | plain
  deriving DecidableEq

/-- What the value of the member of a given name holds. -/
def contentOf (key : String) : Content :=
  if key == "items" || key == "additionalProperties" then .schema
  else if key == "oneOf" || key == "anyOf" || key == "allOf" then .schemas
  else if key == "properties" then .table
  else .plain

/-- Sets a member that is a schema. -/
def setSchema (key : String) (schema s : Schema) : Schema :=
  if key == "items" then { s with items := some schema }
  else { s with additionalProperties := some schema }

/-- Sets a member that is a list of schemas. -/
def setSchemas (key : String) (schemas : List Schema) (s : Schema) : Schema :=
  if key == "oneOf" then { s with oneOf := some schemas }
  else if key == "anyOf" then { s with anyOf := some schemas }
  else { s with allOf := some schemas }

/-- Sets the properties. -/
def setProperties (table : List (String × Schema)) (s : Schema) : Schema :=
  { s with properties := some (Keyed.ofList table) }

mutual

/-- Reads a schema. -/
def ofJson? : Json → Option Schema
  | .object members => ofMembers? members
  | .array items => ofValues? memberNames items
  | _ => none

/-- Reads a member. -/
def setMember? (key : String) (s : Schema) : Json → Option Schema
  | .null => if contentOf key = .plain then setPlain? key .null s else some s
  | .object members =>
    match contentOf key with
    | .schema => (ofMembers? members).map fun schema ↦ setSchema key schema s
    | .table => (ofEntries? members).map fun table ↦ setProperties table s
    | .schemas => none
    | .plain => setPlain? key (.object members) s
  | .array items =>
    match contentOf key with
    | .schema => (ofValues? memberNames items).map fun schema ↦ setSchema key schema s
    | .schemas => (ofItems? items).map fun schemas ↦ setSchemas key schemas s
    | .table => none
    | .plain => setPlain? key (.array items) s
  | value => if contentOf key = .plain then setPlain? key value s else none

/-- Reads the members of a schema, the last one first. -/
def ofMembers? : List (String × Json) → Option Schema
  | [] => some empty
  | (key, value) :: rest =>
    match ofMembers? rest with
    | some s => setMember? key s value
    | none => none

/-- Reads the values of the members of a schema, one for every name. -/
def ofValues? (names : List String) : List Json → Option Schema
  | [] => if names.isEmpty then some empty else none
  | value :: rest =>
    match names with
    | [] => none
    | key :: names =>
      match ofValues? names rest with
      | some s => setMember? key s value
      | none => none

/-- Reads the schemas of an array. -/
def ofItems? : List Json → Option (List Schema)
  | [] => some []
  | item :: rest =>
    match ofJson? item, ofItems? rest with
    | some schema, some schemas => some (schema :: schemas)
    | _, _ => none

/-- Reads the schemas of an object. -/
def ofEntries? : List (String × Json) → Option (List (String × Schema))
  | [] => some []
  | (key, value) :: rest =>
    match ofJson? value, ofEntries? rest with
    | some schema, some table => some ((key, schema) :: table)
    | _, _ => none

end

end Schema

end ApiAtlas

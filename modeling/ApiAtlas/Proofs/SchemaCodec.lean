import ApiAtlas.Proofs.Arrangement
import ApiAtlas.Proofs.Reference

/-!
# Reading schemas back

A schema is written as the list of the members that it has. Reading goes through such a list and
sets one member after the other, so what has been read of a schema at any time is the schema
restricted to the members so far. Each member has one key, and reading it sets the same member that
was written; hence the order does not matter, and what is left out is what is absent. In the end the
restriction is the schema itself. The schemas inside are read back by induction.
-/

namespace ApiAtlas

open Json

namespace Discriminator

variable {a : Arrangement}

/-- A discriminator whose mapping is in order is read back. -/
theorem readsBack {d : Discriminator} (h : Keyed.Sorted d.mapping) :
    ReadsBack a toJson ofJson? d := by
  obtain ⟨name, mapping⟩ := d
  have htable : table? ((ofTable mapping).arrange a) = some mapping := by
    have hentries : ReadsBack a (ofEntries string) (entries? string?) mapping :=
      entries?_arrange h fun entry _ ↦ readsBack_string entry.2
    exact hentries
  rw [ReadsBack, toJson, ofJson?, withNames?_arrange, Option.bind_eq_bind, Option.bind_some]
  by_cases hempty : mapping.isEmpty
  · have hnil : mapping = [] := List.isEmpty_iff.1 hempty
    subst hnil
    simp [get?_arrange, Keyed.keys, Keyed.get?_cons, string?]
  · simp [get?_arrange, Keyed.keys, Keyed.get?_cons, string?, hempty, htable]

end Discriminator

namespace Schema

/-! ## Writing -/

/-- A flag as an optional member. -/
def flag? (flag : Bool) : Option Json :=
  if flag then some (.bool true) else none

theorem flagMember_eq (key : String) (flag : Bool) :
    flagMember key flag = optionalMember key (flag? flag) := by
  cases flag <;> rfl

theorem listToJson_eq_map (schemas : List Schema) : listToJson schemas = schemas.map toJson := by
  induction schemas with
  | nil => rw [listToJson, List.map_nil]
  | cons schema rest ih => rw [listToJson, ih, List.map_cons]

theorem membersToJson_eq_map (table : List (String × Schema)) :
    membersToJson table = table.map fun entry ↦ (entry.1, toJson entry.2) := by
  induction table with
  | nil => rw [membersToJson, List.map_nil]
  | cons entry rest ih => rw [membersToJson, ih, List.map_cons]

theorem schemaToJson?_eq_map (schema : Option Schema) :
    schemaToJson? schema = schema.map toJson := by
  cases schema <;> rfl

theorem schemasToJson?_eq_map (schemas : Option (List Schema)) :
    schemasToJson? schemas = schemas.map fun l ↦ .array (l.map toJson) := by
  cases schemas with
  | none => rfl
  | some l => rw [schemasToJson?, listToJson_eq_map, Option.map_some]

theorem tableToJson?_eq_map (table : Option (List (String × Schema))) :
    tableToJson? table = table.map (Json.ofEntries toJson) := by
  cases table with
  | none => rfl
  | some l => rw [tableToJson?, membersToJson_eq_map, Option.map_some, Json.ofEntries]

/-- The members of a schema in their order, each with its value if it is there. -/
def fields (s : Schema) : List (String × Option Json) :=
  [("$ref", s.ref.map .string), ("type", s.type.map .string), ("format", s.format.map .string),
    ("description", s.description.map .string),
    ("properties", s.properties.map (Json.ofEntries toJson)),
    ("items", s.items.map toJson),
    ("additionalProperties", s.additionalProperties.map toJson),
    ("required", s.required.map Json.ofStrings), ("enum", s.enum.map .array),
    ("minimum", s.minimum.map .number), ("maximum", s.maximum.map .number),
    ("minLength", s.minLength.map Json.ofNat), ("maxLength", s.maxLength.map Json.ofNat),
    ("minItems", s.minItems.map Json.ofNat), ("maxItems", s.maxItems.map Json.ofNat),
    ("pattern", s.pattern.map .string), ("exclusiveMinimum", flag? s.exclusiveMinimum),
    ("exclusiveMaximum", flag? s.exclusiveMaximum), ("uniqueItems", flag? s.uniqueItems),
    ("nullable", flag? s.nullable), ("readOnly", flag? s.readOnly),
    ("writeOnly", flag? s.writeOnly), ("deprecated", flag? s.deprecated),
    ("oneOf", s.oneOf.map fun schemas ↦ .array (schemas.map toJson)),
    ("anyOf", s.anyOf.map fun schemas ↦ .array (schemas.map toJson)),
    ("allOf", s.allOf.map fun schemas ↦ .array (schemas.map toJson)),
    ("discriminator", s.discriminator.map Discriminator.toJson)]

theorem toJson_eq (s : Schema) : s.toJson = .object (present s.fields) := by
  cases s
  rw [toJson]
  simp only [flagMember_eq, schemaToJson?_eq_map, schemasToJson?_eq_map, tableToJson?_eq_map,
    present, fields, List.flatMap_cons, List.flatMap_nil, List.append_nil, List.append_assoc]

theorem mem_children_of_properties {s : Schema} {table : List (String × Schema)}
    {entry : String × Schema} (htable : table ∈ s.properties) (hentry : entry ∈ table) :
    entry.2 ∈ s.children := by
  have hsome : s.properties = some table := htable
  simp only [children, hsome, Option.getD_some, List.mem_append, List.mem_map]
  grind

/-! ## Restrictions -/

/-- A schema with the members of some names only. -/
def restrict (keep : String → Bool) (s : Schema) : Schema where
  ref := if keep "$ref" then s.ref else none
  type := if keep "type" then s.type else none
  format := if keep "format" then s.format else none
  description := if keep "description" then s.description else none
  properties := if keep "properties" then s.properties else none
  items := if keep "items" then s.items else none
  additionalProperties := if keep "additionalProperties" then s.additionalProperties else none
  required := if keep "required" then s.required else none
  enum := if keep "enum" then s.enum else none
  minimum := if keep "minimum" then s.minimum else none
  maximum := if keep "maximum" then s.maximum else none
  minLength := if keep "minLength" then s.minLength else none
  maxLength := if keep "maxLength" then s.maxLength else none
  minItems := if keep "minItems" then s.minItems else none
  maxItems := if keep "maxItems" then s.maxItems else none
  pattern := if keep "pattern" then s.pattern else none
  exclusiveMinimum := if keep "exclusiveMinimum" then s.exclusiveMinimum else false
  exclusiveMaximum := if keep "exclusiveMaximum" then s.exclusiveMaximum else false
  uniqueItems := if keep "uniqueItems" then s.uniqueItems else false
  nullable := if keep "nullable" then s.nullable else false
  readOnly := if keep "readOnly" then s.readOnly else false
  writeOnly := if keep "writeOnly" then s.writeOnly else false
  deprecated := if keep "deprecated" then s.deprecated else false
  oneOf := if keep "oneOf" then s.oneOf else none
  anyOf := if keep "anyOf" then s.anyOf else none
  allOf := if keep "allOf" then s.allOf else none
  discriminator := if keep "discriminator" then s.discriminator else none

theorem restrict_none (s : Schema) : s.restrict (fun _ ↦ false) = empty := rfl

theorem kept_eq_iff {α : Type} (keep : Bool) (value default : α) :
    (if keep then value else default) = value ↔ (keep = false → value = default) := by
  cases keep <;> simp [eq_comm]

theorem flag?_eq_none_iff (flag : Bool) : flag? flag = none ↔ flag = false := by
  cases flag <;> simp [flag?]

/-- Nothing is lost if only absent members are left out. -/
theorem restrict_eq_self {keep : String → Bool} {s : Schema}
    (h : ∀ field ∈ s.fields, keep field.1 = false → field.2 = none) : s.restrict keep = s := by
  simp only [fields, List.forall_mem_cons, Option.map_eq_none_iff, flag?_eq_none_iff] at h
  cases s
  simp only [restrict, Schema.mk.injEq, kept_eq_iff]
  grind

/-! ## Reading -/

theorem ofItems?_eq_mapAll? (items : List Json) : ofItems? items = mapAll? ofJson? items := by
  induction items with
  | nil => rw [ofItems?, mapAll?]
  | cons item rest ih =>
    rw [ofItems?, mapAll?, ih]
    cases ofJson? item <;> cases mapAll? ofJson? rest <;> rfl

theorem ofEntries?_eq_mapAll? (members : List (String × Json)) :
    ofEntries? members =
      mapAll? (fun entry ↦ (ofJson? entry.2).map fun schema ↦ (entry.1, schema)) members := by
  induction members with
  | nil => rw [ofEntries?, mapAll?]
  | cons entry rest ih =>
    rw [ofEntries?, mapAll?, ih]
    cases ofJson? entry.2 <;> cases mapAll? _ rest <;> rfl

theorem setMember?_plain {key : String} (h : contentOf key = .plain) (s : Schema) (value : Json) :
    setMember? key s value = setPlain? key value s := by
  cases value <;> simp [setMember?, h]

theorem setMember?_schema {key : String} (h : contentOf key = .schema) (s : Schema) {value : Json}
    {schema : Schema} (hread : ofJson? value = some schema) :
    setMember? key s value = some (setSchema key schema s) := by
  cases value <;> simp_all [setMember?, ofJson?]

theorem setMember?_schemas {key : String} (h : contentOf key = .schemas) (s : Schema)
    {items : List Json} {schemas : List Schema} (hread : mapAll? ofJson? items = some schemas) :
    setMember? key s (.array items) = some (setSchemas key schemas s) := by
  simp [setMember?, h, ofItems?_eq_mapAll?, hread]

variable {a : Arrangement} {s : Schema}

/-- Reading the value of a member adds the member to what has been read before. -/
def Adds (a : Arrangement) (s : Schema) (field : String × Option Json) : Prop :=
  ∀ value ∈ field.2, ∀ keep : String → Bool,
    setMember? field.1 (s.restrict keep) (value.arrange a) =
      some (s.restrict fun name ↦ name == field.1 || keep name)

section Adds

variable {α : Type} {write : α → Json} {read : Json → Option α} {value : Option α} {key : String}

theorem adds_plain (update : Option α → Schema → Schema) (hcontent : contentOf key = .plain)
    (hset : ∀ json t, setPlain? key json t = (json.nullable? read).map fun v ↦ update v t)
    (hupdate : ∀ keep, update value (s.restrict keep) =
      s.restrict fun name ↦ name == key || keep name)
    (hnull : read .null = none) (hread : ∀ x ∈ value, ReadsBack a write read x) :
    Adds a s (key, value.map write) := by
  intro json hjson keep
  obtain ⟨x, rfl, rfl⟩ := Option.map_eq_some_iff.1 hjson
  have hvalue := nullable?_of_read hnull (hread x rfl)
  rw [setMember?_plain hcontent, hset, hvalue, Option.map_some, hupdate]

theorem adds_flag {flag : Bool} (update : Bool → Schema → Schema)
    (hcontent : contentOf key = .plain)
    (hset : ∀ json t, setPlain? key json t = json.bool?.map fun v ↦ update v t)
    (hupdate : ∀ keep, update flag (s.restrict keep) =
      s.restrict fun name ↦ name == key || keep name) :
    Adds a s (key, flag? flag) := by
  intro json hjson keep
  cases flag with
  | false => simp [flag?] at hjson
  | true =>
    cases hjson
    rw [arrange_bool, setMember?_plain hcontent, hset, bool?, Option.map_some, hupdate]

theorem adds_schema {value : Option Schema} (hcontent : contentOf key = .schema)
    (hupdate : ∀ schema ∈ value, ∀ keep, setSchema key schema (s.restrict keep) =
      s.restrict fun name ↦ name == key || keep name)
    (hread : ∀ schema ∈ value, ReadsBack a toJson ofJson? schema) :
    Adds a s (key, value.map toJson) := by
  intro json hjson keep
  obtain ⟨schema, rfl, rfl⟩ := Option.map_eq_some_iff.1 hjson
  rw [setMember?_schema hcontent _ (hread schema rfl), hupdate schema rfl]

theorem adds_schemas {value : Option (List Schema)} (hcontent : contentOf key = .schemas)
    (hupdate : ∀ schemas ∈ value, ∀ keep, setSchemas key schemas (s.restrict keep) =
      s.restrict fun name ↦ name == key || keep name)
    (hread : ∀ schemas ∈ value, ∀ schema ∈ schemas, ReadsBack a toJson ofJson? schema) :
    Adds a s (key, value.map fun schemas ↦ .array (schemas.map toJson)) := by
  intro json hjson keep
  obtain ⟨schemas, rfl, rfl⟩ := Option.map_eq_some_iff.1 hjson
  have hlist := list?_arrange (hread schemas rfl)
  rw [arrange_array] at hlist ⊢
  rw [setMember?_schemas hcontent _ hlist, hupdate schemas rfl]

end Adds

theorem adds_properties (hsorted : ∀ table ∈ s.properties, Keyed.Sorted table)
    (hread : ∀ table ∈ s.properties, ∀ entry ∈ table, ReadsBack a toJson ofJson? entry.2) :
    Adds a s ("properties", s.properties.map (ofEntries toJson)) := by
  intro json hjson keep
  obtain ⟨table, htable, rfl⟩ := Option.map_eq_some_iff.1 hjson
  obtain ⟨entries, hperm, hentries⟩ := mapAll?_order (hsorted table htable) (hread table htable)
  have hcontent : contentOf "properties" = .table := rfl
  rw [ofEntries, arrange_object, setMember?, hcontent, ofEntries?_eq_mapAll?]
  simp only [hentries]
  simp [setProperties, restrict, Keyed.ofList_of_perm (hsorted table htable) hperm, htable]

/-! ## Well-formed schemas -/

/-- The members of a schema are of the kind that they are declared with: tables in order, counts of
64 bits, and values in the arrangement. -/
structure Sound (a : Arrangement) (s : Schema) : Prop where
  properties : ∀ table ∈ s.properties, Keyed.Sorted table
  discriminator : ∀ d ∈ s.discriminator, Keyed.Sorted d.mapping
  counts : ∀ count ∈ [s.minLength, s.maxLength, s.minItems, s.maxItems], ∀ n ∈ count, n < 2 ^ 64
  enum : ∀ values ∈ s.enum, ∀ value ∈ values, value.arrange a = value

/-- Every member adds itself to what has been read, if the schemas inside are read back. -/
theorem adds_of_mem_fields (h : s.Sound a)
    (hchildren : ∀ c ∈ s.children, ReadsBack a toJson ofJson? c) :
    ∀ field ∈ s.fields, Adds a s field := by
  simp only [fields, List.forall_mem_cons, List.not_mem_nil, false_implies, implies_true, and_true]
  -- The members come in the order of the fields. Comparing restrictions compares all members, so
  -- that a member which set another one's place would be found out here.
  and_intros
  · exact adds_plain (fun v t ↦ { t with ref := v }) rfl (by simp [setPlain?])
      (by simp [restrict]) rfl fun x _ ↦ readsBack_string x
  · exact adds_plain (fun v t ↦ { t with type := v }) rfl (by simp [setPlain?])
      (by simp [restrict]) rfl fun x _ ↦ readsBack_string x
  · exact adds_plain (fun v t ↦ { t with format := v }) rfl (by simp [setPlain?])
      (by simp [restrict]) rfl fun x _ ↦ readsBack_string x
  · exact adds_plain (fun v t ↦ { t with description := v }) rfl (by simp [setPlain?])
      (by simp [restrict]) rfl fun x _ ↦ readsBack_string x
  · exact adds_properties h.properties fun table htable entry hentry ↦
      hchildren entry.2 (mem_children_of_properties htable hentry)
  · exact adds_schema rfl (by simp_all [setSchema, restrict])
      fun c hc ↦ hchildren c (mem_children_of_items hc)
  · exact adds_schema rfl (by simp_all [setSchema, restrict])
      fun c hc ↦ hchildren c (mem_children_of_additionalProperties hc)
  · exact adds_plain (fun v t ↦ { t with required := v }) rfl (by simp [setPlain?])
      (by simp [restrict]) rfl fun x _ ↦ readsBack_ofStrings x
  · exact adds_plain (fun v t ↦ { t with enum := v }) rfl (by simp [setPlain?])
      (by simp [restrict]) rfl fun x hx ↦ readsBack_values (h.enum x hx)
  · exact adds_plain (fun v t ↦ { t with minimum := v }) rfl (by simp [setPlain?])
      (by simp [restrict]) rfl fun x _ ↦ readsBack_number x
  · exact adds_plain (fun v t ↦ { t with maximum := v }) rfl (by simp [setPlain?])
      (by simp [restrict]) rfl fun x _ ↦ readsBack_number x
  · exact adds_plain (fun v t ↦ { t with minLength := v }) rfl (by simp [setPlain?])
      (by simp [restrict]) rfl fun x hx ↦ readsBack_ofNat (h.counts _ (by simp) x hx)
  · exact adds_plain (fun v t ↦ { t with maxLength := v }) rfl (by simp [setPlain?])
      (by simp [restrict]) rfl fun x hx ↦ readsBack_ofNat (h.counts _ (by simp) x hx)
  · exact adds_plain (fun v t ↦ { t with minItems := v }) rfl (by simp [setPlain?])
      (by simp [restrict]) rfl fun x hx ↦ readsBack_ofNat (h.counts _ (by simp) x hx)
  · exact adds_plain (fun v t ↦ { t with maxItems := v }) rfl (by simp [setPlain?])
      (by simp [restrict]) rfl fun x hx ↦ readsBack_ofNat (h.counts _ (by simp) x hx)
  · exact adds_plain (fun v t ↦ { t with pattern := v }) rfl (by simp [setPlain?])
      (by simp [restrict]) rfl fun x _ ↦ readsBack_string x
  · exact adds_flag (fun v t ↦ { t with exclusiveMinimum := v }) rfl (by simp [setPlain?])
      (by simp [restrict])
  · exact adds_flag (fun v t ↦ { t with exclusiveMaximum := v }) rfl (by simp [setPlain?])
      (by simp [restrict])
  · exact adds_flag (fun v t ↦ { t with uniqueItems := v }) rfl (by simp [setPlain?])
      (by simp [restrict])
  · exact adds_flag (fun v t ↦ { t with nullable := v }) rfl (by simp [setPlain?])
      (by simp [restrict])
  · exact adds_flag (fun v t ↦ { t with readOnly := v }) rfl (by simp [setPlain?])
      (by simp [restrict])
  · exact adds_flag (fun v t ↦ { t with writeOnly := v }) rfl (by simp [setPlain?])
      (by simp [restrict])
  · exact adds_flag (fun v t ↦ { t with deprecated := v }) rfl (by simp [setPlain?])
      (by simp [restrict])
  · exact adds_schemas rfl (by simp_all [setSchemas, restrict])
      fun schemas hschemas c hc ↦ hchildren c (by simp_all [children])
  · exact adds_schemas rfl (by simp_all [setSchemas, restrict])
      fun schemas hschemas c hc ↦ hchildren c (by simp_all [children])
  · exact adds_schemas rfl (by simp_all [setSchemas, restrict])
      fun schemas hschemas c hc ↦ hchildren c (by simp_all [children])
  · exact adds_plain (fun v t ↦ { t with discriminator := v }) rfl (by simp [setPlain?])
      (by simp [restrict]) rfl fun d hd ↦ Discriminator.readsBack (h.discriminator d hd)

/-- Members of a schema are read as the schema restricted to them, in whatever order they stand. -/
theorem ofMembers?_eq_restrict (hadds : ∀ field ∈ s.fields, Adds a s field)
    {members : List (String × Json)}
    (h : ∀ entry ∈ members, ∃ value, (entry.1, some value) ∈ s.fields ∧
      entry.2 = value.arrange a) :
    ofMembers? members = some (s.restrict (Keyed.keys members).contains) := by
  induction members with
  | nil =>
    rw [ofMembers?]
    exact congrArg some (restrict_none s).symm
  | cons entry rest ih =>
    obtain ⟨key, json⟩ := entry
    obtain ⟨value, hfield, rfl⟩ := h _ List.mem_cons_self
    rw [ofMembers?, ih fun other hother ↦ h other (List.mem_cons_of_mem _ hother)]
    exact hadds _ hfield value rfl (Keyed.keys rest).contains

theorem nodup_fields (s : Schema) : (Keyed.keys s.fields).Nodup := by
  have hnames : memberNames.Nodup := by decide
  exact hnames

/-- A schema whose children are read back is read back. -/
theorem readsBack_of_children (h : s.Sound a)
    (hchildren : ∀ c ∈ s.children, ReadsBack a toJson ofJson? c) :
    ReadsBack a toJson ofJson? s := by
  have hperm := order_perm (a := a) (nodup_keys_present s.nodup_fields)
  rw [ReadsBack, toJson_eq, arrange_object, ofJson?]
  calc
    _ = some (s.restrict (Keyed.keys _).contains) := by
      apply ofMembers?_eq_restrict (adds_of_mem_fields h hchildren)
      intro entry hentry
      obtain ⟨field, hfield, rfl⟩ := List.mem_map.1 (hperm.subset hentry)
      exact ⟨field.2, mem_present.1 hfield, rfl⟩
    _ = some s := by
      congr 1
      apply restrict_eq_self
      intro field hfield habsent
      obtain ⟨key, value⟩ := field
      cases value with
      | none => rfl
      | some json =>
        have hmem : (key, json.arrange a) ∈ a.order ((present s.fields).map
            fun entry ↦ (entry.1, entry.2.arrange a)) :=
          hperm.mem_iff.2 (List.mem_map.2 ⟨(key, json), mem_present.2 hfield, rfl⟩)
        have hkey : key ∈ Keyed.keys _ := List.mem_map_of_mem hmem
        simp [hkey] at habsent

/-- A schema that is sound everywhere inside. -/
inductive WellFormed (a : Arrangement) : Schema → Prop
  | mk {s : Schema} (own : s.Sound a) (children : ∀ c ∈ s.children, WellFormed a c) :
    WellFormed a s

/-- **Reading inverts writing for schemas.** -/
theorem WellFormed.readsBack (h : s.WellFormed a) : ReadsBack a toJson ofJson? s := by
  induction h with
  | mk own _ ih => exact readsBack_of_children own ih

theorem wellFormed_empty : empty.WellFormed a := by
  refine .mk ⟨?_, ?_, ?_, ?_⟩ ?_ <;> simp [empty, children]

theorem wellFormed_reference (name : String) : (reference name).WellFormed a := by
  refine .mk ⟨?_, ?_, ?_, ?_⟩ ?_ <;> simp [reference, children]

end Schema

end ApiAtlas

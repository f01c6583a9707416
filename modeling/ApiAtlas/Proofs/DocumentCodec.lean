import ApiAtlas.Proofs.SchemaCodec

/-!
# Reading documents back

Every part of a document is an object of a few members, and each of its members is read by its key
alone. So a part is read back, in every arrangement, as soon as the parts inside it are. The main
statement puts this together for whole documents: reading inverts writing, and different documents
are written differently. A document is well-formed for it if its tables are in order, its counts
have 64 bits and the values listed in its schemas are arranged.
-/

namespace ApiAtlas

open Json

variable {a : Arrangement}

/-- A table in order whose values all have a property. -/
def TableOf {α : Type} (P : α → Prop) (table : List (String × α)) : Prop :=
  Keyed.Sorted table ∧ ∀ entry ∈ table, P entry.2

theorem TableOf.readsBack {α : Type} {P : α → Prop} {write : α → Json} {read : Json → Option α}
    {table : List (String × α)} (h : TableOf P table)
    (hread : ∀ value, P value → ReadsBack a write read value) :
    ReadsBack a (ofEntries write) (entries? read) table :=
  entries?_arrange h.1 fun entry hentry ↦ hread entry.2 (h.2 entry hentry)

namespace Info

/-- The members of a title section. -/
def fields (i : Info) : List (String × Option Json) :=
  [("title", some (.string i.title)),
    ("version", some (.string i.version)),
    ("description", i.description.map .string)]

theorem toJson_eq (i : Info) : i.toJson = .object (present i.fields) := by
  simp [toJson, present, fields, optionalMember]

theorem readsBack (i : Info) : ReadsBack a toJson ofJson? i := by
  have hkeys : (Keyed.keys i.fields).Nodup := by simp [fields, Keyed.keys]
  rw [ReadsBack, toJson_eq, ofJson?, withNames?_arrange]
  simp only [Option.bind_eq_bind, Option.bind_some,
    member?_arrange "title" hkeys (by simp [fields]) (readsBack_string i.title),
    member?_arrange "version" hkeys (by simp [fields]) (readsBack_string i.version),
    optional?_string_arrange "description" hkeys i.description (by simp [fields])]
  rfl

end Info

namespace Document

namespace MediaType

/-- The members of a body in one format. -/
def fields (m : MediaType) : List (String × Option Json) :=
  [("schema", some m.schema.toJson)]

theorem toJson_eq (m : MediaType) : m.toJson = .object (present m.fields) := by
  simp [toJson, present, fields, optionalMember]

/-- A body with a well-formed schema. -/
def WellFormed (a : Arrangement) (m : MediaType) : Prop :=
  m.schema.WellFormed a

theorem WellFormed.readsBack {m : MediaType} (h : m.WellFormed a) :
    ReadsBack a toJson ofJson? m := by
  have hkeys : (Keyed.keys m.fields).Nodup := by simp [fields, Keyed.keys]
  rw [ReadsBack, toJson_eq, ofJson?, withNames?_arrange]
  simp only [Option.bind_eq_bind, Option.bind_some,
    member?_arrange "schema" hkeys (by simp [fields]) (Schema.WellFormed.readsBack h)]
  rfl

end MediaType

namespace Parameter

/-- The members of a parameter. -/
def fields (p : Parameter) : List (String × Option Json) :=
  [("name", some (.string p.name)),
    ("in", some (.string p.location)),
    ("required", some (.bool p.required)),
    ("schema", some p.schema.toJson),
    ("description", p.description.map .string)]

theorem toJson_eq (p : Parameter) : p.toJson = .object (present p.fields) := by
  simp [toJson, present, fields, optionalMember]

/-- A parameter with a well-formed schema. -/
def WellFormed (a : Arrangement) (p : Parameter) : Prop :=
  p.schema.WellFormed a

theorem WellFormed.readsBack {p : Parameter} (h : p.WellFormed a) :
    ReadsBack a toJson ofJson? p := by
  have hkeys : (Keyed.keys p.fields).Nodup := by simp [fields, Keyed.keys]
  rw [ReadsBack, toJson_eq, ofJson?, withNames?_arrange]
  simp only [Option.bind_eq_bind, Option.bind_some,
    member?_arrange "name" hkeys (by simp [fields]) (readsBack_string p.name),
    member?_arrange "in" hkeys (by simp [fields]) (readsBack_string p.location),
    member?_arrange "required" hkeys (by simp [fields]) (readsBack_bool p.required),
    member?_arrange "schema" hkeys (by simp [fields]) (Schema.WellFormed.readsBack h),
    optional?_string_arrange "description" hkeys p.description (by simp [fields])]
  rfl

end Parameter

/-- A table of bodies by format. -/
def IsContent (a : Arrangement) : List (String × MediaType) → Prop :=
  TableOf (MediaType.WellFormed a)

theorem IsContent.readsBack {content : List (String × MediaType)} (h : IsContent a content) :
    ReadsBack a (ofEntries MediaType.toJson) (entries? MediaType.ofJson?) content :=
  TableOf.readsBack h fun _ ↦ MediaType.WellFormed.readsBack

namespace RequestBody

/-- The members of a request body. -/
def fields (b : RequestBody) : List (String × Option Json) :=
  [("description", b.description.map .string),
    ("required", some (.bool b.required)),
    ("content", some (ofEntries MediaType.toJson b.content))]

theorem toJson_eq (b : RequestBody) : b.toJson = .object (present b.fields) := by
  simp [toJson, present, fields, optionalMember]

/-- A request body with well-formed content. -/
def WellFormed (a : Arrangement) (b : RequestBody) : Prop :=
  IsContent a b.content

theorem WellFormed.readsBack {b : RequestBody} (h : b.WellFormed a) :
    ReadsBack a toJson ofJson? b := by
  have hkeys : (Keyed.keys b.fields).Nodup := by simp [fields, Keyed.keys]
  rw [ReadsBack, toJson_eq, ofJson?, withNames?_arrange]
  simp only [Option.bind_eq_bind, Option.bind_some,
    optional?_string_arrange "description" hkeys b.description (by simp [fields]),
    member?_arrange "required" hkeys (by simp [fields]) (readsBack_bool b.required),
    member?_arrange "content" hkeys (by simp [fields]) (IsContent.readsBack h)]
  rfl

end RequestBody

namespace Response

/-- The members of a response. -/
def fields (r : Response) : List (String × Option Json) :=
  [("description", some (.string r.description)),
    ("content", r.content.map (ofEntries MediaType.toJson))]

theorem toJson_eq (r : Response) : r.toJson = .object (present r.fields) := by
  simp [toJson, present, fields, optionalMember]

/-- A response with well-formed content, if any. -/
def WellFormed (a : Arrangement) (r : Response) : Prop :=
  ∀ content ∈ r.content, IsContent a content

theorem WellFormed.readsBack {r : Response} (h : r.WellFormed a) :
    ReadsBack a toJson ofJson? r := by
  have hkeys : (Keyed.keys r.fields).Nodup := by simp [fields, Keyed.keys]
  rw [ReadsBack, toJson_eq, ofJson?, withNames?_arrange]
  simp only [Option.bind_eq_bind, Option.bind_some,
    member?_arrange "description" hkeys (by simp [fields]) (readsBack_string r.description),
    optional?_arrange "content" hkeys (by simp [fields]) rfl
      fun content hcontent ↦ (h content hcontent).readsBack]
  rfl

end Response

namespace Operation

/-- The members of an operation. -/
def fields (o : Operation) : List (String × Option Json) :=
  [("summary", o.summary.map .string),
    ("description", o.description.map .string),
    ("operationId", some (.string o.operationId)),
    ("tags", nonEmpty? Json.string o.tags),
    ("parameters", nonEmpty? Parameter.toJson o.parameters),
    ("requestBody", o.requestBody.map RequestBody.toJson),
    ("responses", some (ofEntries Response.toJson o.responses)),
    ("security", nonEmpty? (ofEntries Json.ofStrings) o.security)]

theorem toJson_eq (o : Operation) : o.toJson = .object (present o.fields) := by
  simp [toJson, present, fields, optionalMember, listMember_eq]

/-- An operation with well-formed parts whose responses and requirements are tables. -/
structure WellFormed (a : Arrangement) (o : Operation) : Prop where
  parameters : ∀ p ∈ o.parameters, p.WellFormed a
  requestBody : ∀ b ∈ o.requestBody, b.WellFormed a
  responses : TableOf (Response.WellFormed a) o.responses
  security : ∀ requirement ∈ o.security, Keyed.Sorted requirement

theorem WellFormed.readsBack {o : Operation} (h : o.WellFormed a) :
    ReadsBack a toJson ofJson? o := by
  have hkeys : (Keyed.keys o.fields).Nodup := by simp [fields, Keyed.keys]
  rw [ReadsBack, toJson_eq, ofJson?, withNames?_arrange]
  have hsecurity : ∀ requirement ∈ o.security,
      ReadsBack a (ofEntries Json.ofStrings) (entries? strings?) requirement :=
    fun requirement hrequirement ↦
      entries?_arrange (h.security requirement hrequirement) fun entry _ ↦
        readsBack_ofStrings entry.2
  simp only [Option.bind_eq_bind, Option.bind_some,
    optional?_string_arrange "summary" hkeys o.summary (by simp [fields]),
    optional?_string_arrange "description" hkeys o.description (by simp [fields]),
    member?_arrange "operationId" hkeys (by simp [fields]) (readsBack_string o.operationId),
    listOf?_arrange "tags" hkeys (by simp [fields])
      fun tag (_ : tag ∈ o.tags) ↦ readsBack_string tag,
    listOf?_arrange "parameters" hkeys (by simp [fields]) fun p hp ↦ (h.parameters p hp).readsBack,
    optional?_arrange "requestBody" hkeys (by simp [fields]) rfl
      fun b hb ↦ (h.requestBody b hb).readsBack,
    member?_arrange "responses" hkeys (by simp [fields])
      (h.responses.readsBack fun _ ↦ Response.WellFormed.readsBack),
    listOf?_arrange "security" hkeys (by simp [fields]) hsecurity]
  rfl

end Operation

namespace PathItem

/-- The members of the operations of a path. -/
def fields (p : PathItem) : List (String × Option Json) :=
  [("get", p.get.map Operation.toJson),
    ("post", p.post.map Operation.toJson),
    ("put", p.put.map Operation.toJson),
    ("delete", p.delete.map Operation.toJson),
    ("patch", p.patch.map Operation.toJson),
    ("options", p.options.map Operation.toJson),
    ("head", p.head.map Operation.toJson)]

theorem toJson_eq (p : PathItem) : p.toJson = .object (present p.fields) := by
  simp [toJson, present, fields, optionalMember]

/-- Well-formed operations, by method. -/
def WellFormed (a : Arrangement) (p : PathItem) : Prop :=
  ∀ method, ∀ o ∈ p.at? method, o.WellFormed a

theorem WellFormed.readsBack {p : PathItem} (h : p.WellFormed a) :
    ReadsBack a toJson ofJson? p := by
  have hkeys : (Keyed.keys p.fields).Nodup := by simp [fields, Keyed.keys]
  rw [ReadsBack, toJson_eq, ofJson?, withNames?_arrange]
  simp only [Option.bind_eq_bind, Option.bind_some,
    optional?_arrange "get" hkeys (by simp [fields]) rfl
      fun o (ho : o ∈ p.get) ↦ (h .get o ho).readsBack,
    optional?_arrange "post" hkeys (by simp [fields]) rfl
      fun o (ho : o ∈ p.post) ↦ (h .post o ho).readsBack,
    optional?_arrange "put" hkeys (by simp [fields]) rfl
      fun o (ho : o ∈ p.put) ↦ (h .put o ho).readsBack,
    optional?_arrange "delete" hkeys (by simp [fields]) rfl
      fun o (ho : o ∈ p.delete) ↦ (h .delete o ho).readsBack,
    optional?_arrange "patch" hkeys (by simp [fields]) rfl
      fun o (ho : o ∈ p.patch) ↦ (h .patch o ho).readsBack,
    optional?_arrange "options" hkeys (by simp [fields]) rfl
      fun o (ho : o ∈ p.options) ↦ (h .options o ho).readsBack,
    optional?_arrange "head" hkeys (by simp [fields]) rfl
      fun o (ho : o ∈ p.head) ↦ (h .head o ho).readsBack]
  rfl

end PathItem

namespace SecurityScheme

/-- The members of a security scheme. -/
def fields (s : SecurityScheme) : List (String × Option Json) :=
  [("type", some (.string s.type)),
    ("scheme", s.scheme.map .string),
    ("bearerFormat", s.bearerFormat.map .string),
    ("name", s.name.map .string),
    ("in", s.location.map .string)]

theorem toJson_eq (s : SecurityScheme) : s.toJson = .object (present s.fields) := by
  simp [toJson, present, fields, optionalMember]

theorem readsBack (s : SecurityScheme) : ReadsBack a toJson ofJson? s := by
  have hkeys : (Keyed.keys s.fields).Nodup := by simp [fields, Keyed.keys]
  rw [ReadsBack, toJson_eq, ofJson?, withNames?_arrange]
  simp only [Option.bind_eq_bind, Option.bind_some,
    member?_arrange "type" hkeys (by simp [fields]) (readsBack_string s.type),
    optional?_string_arrange "scheme" hkeys s.scheme (by simp [fields]),
    optional?_string_arrange "bearerFormat" hkeys s.bearerFormat (by simp [fields]),
    optional?_string_arrange "name" hkeys s.name (by simp [fields]),
    optional?_string_arrange "in" hkeys s.location (by simp [fields])]
  rfl

end SecurityScheme

namespace Tag

/-- The members of a tag. -/
def fields (t : Tag) : List (String × Option Json) :=
  [("name", some (.string t.name))]

theorem toJson_eq (t : Tag) : t.toJson = .object (present t.fields) := by
  simp [toJson, present, fields, optionalMember]

theorem readsBack (t : Tag) : ReadsBack a toJson ofJson? t := by
  have hkeys : (Keyed.keys t.fields).Nodup := by simp [fields, Keyed.keys]
  rw [ReadsBack, toJson_eq, ofJson?, withNames?_arrange]
  simp only [Option.bind_eq_bind, Option.bind_some,
    member?_arrange "name" hkeys (by simp [fields]) (readsBack_string t.name)]
  rfl

end Tag

namespace Components

/-- The members of the named parts of a document. -/
def fields (c : Components) : List (String × Option Json) :=
  [("schemas", c.schemas.map (ofEntries Schema.toJson)),
    ("securitySchemes", c.securitySchemes.map (ofEntries SecurityScheme.toJson))]

theorem toJson_eq (c : Components) : c.toJson = .object (present c.fields) := by
  simp [toJson, present, fields, optionalMember]

/-- Named parts in order, with well-formed schemas. -/
structure WellFormed (a : Arrangement) (c : Components) : Prop where
  schemas : ∀ table ∈ c.schemas, TableOf (Schema.WellFormed a) table
  securitySchemes : ∀ table ∈ c.securitySchemes, Keyed.Sorted table

theorem WellFormed.readsBack {c : Components} (h : c.WellFormed a) :
    ReadsBack a toJson ofJson? c := by
  have hkeys : (Keyed.keys c.fields).Nodup := by simp [fields, Keyed.keys]
  rw [ReadsBack, toJson_eq, ofJson?, withNames?_arrange]
  simp only [Option.bind_eq_bind, Option.bind_some,
    optional?_arrange "schemas" hkeys (by simp [fields]) rfl
      fun table htable ↦ (h.schemas table htable).readsBack fun _ ↦ Schema.WellFormed.readsBack,
    optional?_arrange "securitySchemes" hkeys (by simp [fields]) rfl
      fun table htable ↦ entries?_arrange (h.securitySchemes table htable) fun entry _ ↦
        SecurityScheme.readsBack entry.2]
  rfl

end Components

/-- The members of a document. -/
def fields (d : Document) : List (String × Option Json) :=
  [("openapi", some (.string d.openapi)),
    ("info", some d.info.toJson),
    ("paths", some (ofEntries PathItem.toJson d.paths)),
    ("components", d.components.map Components.toJson),
    ("tags", nonEmpty? Tag.toJson d.tags)]

theorem toJson_eq (d : Document) : d.toJson = .object (present d.fields) := by
  simp [toJson, present, fields, optionalMember, listMember_eq]

/-- A document whose tables are in order and whose schemas are well-formed. -/
structure WellFormed (a : Arrangement) (d : Document) : Prop where
  paths : TableOf (PathItem.WellFormed a) d.paths
  components : ∀ c ∈ d.components, c.WellFormed a

theorem WellFormed.readsBack {d : Document} (h : d.WellFormed a) :
    ReadsBack a toJson ofJson? d := by
  have hkeys : (Keyed.keys d.fields).Nodup := by simp [fields, Keyed.keys]
  rw [ReadsBack, toJson_eq, ofJson?, withNames?_arrange]
  simp only [Option.bind_eq_bind, Option.bind_some,
    member?_arrange "openapi" hkeys (by simp [fields]) (readsBack_string d.openapi),
    member?_arrange "info" hkeys (by simp [fields]) (Info.readsBack d.info),
    member?_arrange "paths" hkeys (by simp [fields])
      (h.paths.readsBack fun _ ↦ PathItem.WellFormed.readsBack),
    optional?_arrange "components" hkeys (by simp [fields]) rfl
      fun c hc ↦ (h.components c hc).readsBack,
    listOf?_arrange "tags" hkeys (by simp [fields]) fun t (_ : t ∈ d.tags) ↦ Tag.readsBack t]
  rfl

/-- A document is read back from its members in the order in which they are written. -/
theorem WellFormed.ofJson?_toJson {d : Document} (h : d.WellFormed .asWritten) :
    ofJson? d.toJson = some d :=
  calc
    ofJson? d.toJson = ofJson? (d.toJson.arrange .asWritten) := by rw [arrange_asWritten]
    _ = some d := h.readsBack

/-- **Reading inverts writing.** However the members of objects are arranged, a well-formed document
is read back from the value that it is written as, and different documents have different values. -/
theorem reading_inverts_writing (a : Arrangement) :
    (∀ d : Document, d.WellFormed a → ofJson? (d.toJson.arrange a) = some d) ∧
      Set.InjOn (fun d : Document ↦ d.toJson.arrange a) {d | d.WellFormed a} := by
  refine ⟨fun d h ↦ h.readsBack, ?_⟩
  intro d hd other hother hsame
  have hread : some d = some other :=
    calc
      some d = ofJson? (d.toJson.arrange a) := (WellFormed.readsBack hd).symm
      _ = ofJson? (other.toJson.arrange a) := congrArg ofJson? hsame
      _ = some other := WellFormed.readsBack hother
  exact Option.some.inj hread

/-! ### A document with nested schemas -/

/-- A choice that is told apart by a mapping. -/
def leadSchema : Schema :=
  { oneOf := some [Schema.reference "User", Schema.empty]
    discriminator := some ⟨"kind", [("bot", "#/bot"), ("person", "#/person")]⟩ }

/-- A list that is not empty. -/
def membersSchema : Schema :=
  { items := some (Schema.reference "User"), minItems := some 1 }

/-- Values of which one is an object. -/
def stateSchema : Schema :=
  { enum := some [.null, .object [("code", .ofInt 1), ("open", .bool true)]] }

/-- An object with these properties. -/
def teamSchema : Schema :=
  { properties := some [("lead", leadSchema), ("members", membersSchema), ("state", stateSchema)]
    required := some []
    deprecated := true }

/-- A document with one operation, whose response is a team. -/
def teamDocument : Document where
  openapi := "3.0.3"
  info := ⟨"Teams", "1", none⟩
  paths := [("/teams", {
    get := some {
      operationId := "listTeams"
      tags := ["teams"]
      responses := [("200", ⟨"OK", some [("application/json", ⟨teamSchema⟩)]⟩), ("404", ⟨"", none⟩)]
      security := [[("bearer", [])]] } })]
  components := some ⟨some [], none⟩

theorem wellFormed_leadSchema : leadSchema.WellFormed .byKey := by
  refine .mk ⟨by simp [leadSchema], ?_, by simp [leadSchema], by simp [leadSchema]⟩ ?_
  · rintro _ ⟨⟩
    decide
  · simp [leadSchema, Schema.children, Schema.wellFormed_reference, Schema.wellFormed_empty]

theorem wellFormed_membersSchema : membersSchema.WellFormed .byKey := by
  refine .mk ⟨?_, ?_, ?_, ?_⟩ ?_ <;>
    simp [membersSchema, Schema.children, Schema.wellFormed_reference]

theorem wellFormed_stateSchema : stateSchema.WellFormed .byKey := by
  refine .mk ⟨by simp [stateSchema], by simp [stateSchema], by simp [stateSchema], ?_⟩
    (by simp [stateSchema, Schema.children])
  rintro _ ⟨⟩ value hvalue
  have hcases : value = .null ∨ value = .object [("code", .ofInt 1), ("open", .bool true)] := by
    simpa using hvalue
  rcases hcases with rfl | rfl <;> rfl

theorem wellFormed_teamSchema : teamSchema.WellFormed .byKey := by
  refine .mk ⟨?_, by simp [teamSchema], by simp [teamSchema], by simp [teamSchema]⟩ ?_
  · rintro _ ⟨⟩
    decide
  · simp [teamSchema, Schema.children, wellFormed_leadSchema, wellFormed_membersSchema,
      wellFormed_stateSchema]

theorem wellFormed_teamDocument : teamDocument.WellFormed .byKey := by
  constructor
  · refine ⟨by decide, ?_⟩
    rintro _ (_ | ⟨_, ⟨⟩⟩) method o ho
    cases method <;> simp only [PathItem.at?, Option.not_mem_none, Option.mem_some] at ho
    subst ho
    refine ⟨by simp, by simp, ⟨by decide, ?_⟩, by decide⟩
    have hcontent : IsContent .byKey [("application/json", ⟨teamSchema⟩)] :=
      ⟨by decide, by simpa [MediaType.WellFormed] using wellFormed_teamSchema⟩
    simpa [Response.WellFormed] using hcontent
  · rintro _ ⟨⟩
    refine ⟨?_, ?_⟩ <;> rintro _ ⟨⟩
    exact ⟨by decide, by simp⟩

theorem teamDocument_read_back :
    teamDocument.WellFormed .byKey ∧
      ofJson? (teamDocument.toJson.arrange .byKey) = some teamDocument :=
  ⟨wellFormed_teamDocument, (reading_inverts_writing .byKey).1 _ wellFormed_teamDocument⟩

end Document

end ApiAtlas

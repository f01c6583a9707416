import ApiAtlas.Proofs.Mention
import ApiAtlas.Proofs.Operation
import Mathlib.Data.List.Nodup

/-!
# Where the fields of a request are described

A field of a request may be described by a path parameter, by a query or header parameter, or by a
property of the request body. A field that a placeholder is bound to is never a property of the
body. The exclusion from query and header goes by the name of the parameter alone: a placeholder
bound through the field's own name does not exclude a parameter with the field's wire name, and the
field is then described twice. The condition below is exact.
-/

namespace ApiAtlas

/-! ## Properties of a schema -/

namespace Env

variable {env : Env}

/-- A schema has a property, of its own or by the component that it refers to. -/
def HasProperty (env : Env) (s : Schema) (key : String) : Prop :=
  key ∈ Keyed.keys (s.properties.getD []) ∨
    ∃ name d, s.ref = some (Schema.componentRef name) ∧ env.catalog.type? name = some d ∧
      key ∈ Keyed.keys ((env.component d).value.properties.getD [])

theorem mem_keys_objectSchema {excluded : List String} {d : Definition} {key : String}
    (h : key ∈ Keyed.keys ((env.objectSchema excluded d).value.properties.getD [])) :
    ∃ f ∈ env.bodyFields excluded d, f.wireName = key := by
  unfold Keyed.keys at h
  obtain ⟨entry, hentry, rfl⟩ := List.mem_map.1 h
  have hmem := Keyed.mem_of_mem_ofList hentry
  rw [value_properties] at hmem
  obtain ⟨f, hf, rfl⟩ := List.mem_map.1 hmem
  exact ⟨f, hf, rfl⟩

/-- The component of a record has the properties of its body fields, or none at all. -/
theorem mem_keys_component {d : Definition} (hd : d.isRecord = true) {key : String}
    (h : key ∈ Keyed.keys ((env.component d).value.properties.getD [])) :
    ∃ f ∈ env.bodyFields [] d, f.wireName = key := by
  have hkind : d.kind = .record := beq_iff_eq.1 hd
  unfold component at h
  rw [hkind] at h
  simp only at h
  split at h
  · simp [choiceSchema, Keyed.keys] at h
  · exact mem_keys_objectSchema h

theorem hasProperty_schemaOf {t : TypeExpr} {name key : String} {d : Definition}
    (hname : t.name? = some name) (hd : env.catalog.record? name = some d)
    (h : env.HasProperty (env.schemaOf t).value key) :
    ∃ f ∈ env.bodyFields [] d, f.wireName = key := by
  obtain ⟨htype, hrecord⟩ := Catalog.record?_eq_some.1 hd
  rw [schemaOf_of_name? hname, schemaOf] at h
  split at h
  · simp [HasProperty, Schema.typed, Keyed.keys] at h
  · unfold nameSchema at h
    split at h
    · simp [HasProperty, primitiveSchema, Keyed.keys] at h
    · split at h
      · rcases h with hown | ⟨other, e, href, he, hkey⟩
        · simp [Schema.reference, Keyed.keys] at hown
        · have hsame : name = other := Schema.componentRef_inj.1 (Option.some.inj href)
          obtain rfl := Option.some.inj (htype.symm.trans (hsame ▸ he))
          exact mem_keys_component hrecord hkey
      · simp [HasProperty, Schema.typed, Keyed.keys] at h

/-- A request body has only the properties of body fields that the path does not claim. -/
theorem hasProperty_requestBody {t : TypeExpr} {name key : String} {d : Definition}
    {claimed : List String} (hname : t.name? = some name) (hd : env.catalog.record? name = some d)
    (h : env.HasProperty (env.requestBody t claimed).value key) :
    ∃ f ∈ env.bodyFields claimed d, f.wireName = key := by
  unfold requestBody at h
  rw [hname, Option.bind_some, hd] at h
  cases claimed with
  | nil => exact hasProperty_schemaOf hname hd h
  | cons first rest =>
    rcases h with hown | ⟨_, _, href, _⟩
    · exact mem_keys_objectSchema hown
    · simp [objectSchema, Schema.typed] at href

end Env

/-! ## Fields and placeholders -/

namespace Builder

variable {env : Env}

theorem mem_requestFields_iff (c : Catalog) (request : TypeExpr) (f : Field) :
    f ∈ requestFields c request ↔
      ∃ name d e, request.name? = some name ∧ c.record? name = some d ∧
        Relation.ReflTransGen c.Embeds d e ∧ f ∈ e.fields := by
  have hreverse : ∀ (names : List String) (name : String), name ∈ names.reverse ↔ name ∈ names :=
    fun _ _ ↦ List.mem_reverse
  unfold requestFields
  cases request.name? with
  | none => simp [Catalog.closure]
  | some name =>
    simp only [Option.toList_some, List.mem_flatMap, Catalog.mem_closure_singleton_iff hreverse,
      Option.some.injEq, exists_and_left, exists_eq_left']
    constructor
    · rintro ⟨e, ⟨d, hd, hpath⟩, hf⟩
      exact ⟨d, hd, e, hpath, hf⟩
    · rintro ⟨d, hd, e, hpath, hf⟩
      exact ⟨e, ⟨d, hd, hpath⟩, hf⟩

theorem mem_of_boundField? {fields : List Field} {p : String} {f : Field}
    (h : boundField? fields p = some f) : f ∈ fields :=
  List.mem_of_find?_eq_some h

theorem mem_claimedNames {path : String} {fields : List Field} {p : String} {f : Field}
    (hp : p ∈ Template.params path) (hf : boundField? fields p = some f)
    (hbody : f.location = .body) (hwire : f.isWire = true) :
    f.wireName ∈ claimedNames path fields := by
  unfold claimedNames
  rw [Keyed.mem_sortNames]
  apply List.mem_map_of_mem
  rw [List.mem_filter]
  exact ⟨List.mem_filterMap.2 ⟨p, hp, hf⟩, by simp [hbody, hwire]⟩

/-! ## Query and header parameters -/

/-- Among some fields with locations, one with a given parameter name and location. -/
def Holds (found : List (Field × Location)) (name : String) (location : Location) : Prop :=
  ∃ entry ∈ found, paramName entry.1 = name ∧ entry.2 = location

/-- Takes up a field, unless its name is a placeholder or already there. -/
def keep (placeholders : List String) (found : List (Field × Location)) (entry : Field × Location) :
    List (Field × Location) :=
  if placeholders.contains (paramName entry.1) ||
      found.any (fun other ↦ paramName other.1 == paramName entry.1 && other.2 == entry.2) then found
  else found ++ [entry]

theorem holds_keep_iff (placeholders : List String) (found : List (Field × Location))
    (entry : Field × Location) (name : String) (location : Location) :
    Holds (keep placeholders found entry) name location ↔
      Holds found name location ∨
        name ∉ placeholders ∧ paramName entry.1 = name ∧ entry.2 = location := by
  unfold keep
  split
  · next hskip =>
    refine ⟨.inl, ?_⟩
    rintro (hfound | ⟨hfree, rfl, rfl⟩)
    · exact hfound
    · -- The name is no placeholder, so the field was left out for one that is there.
      rw [Bool.or_eq_true, List.contains_iff_mem, List.any_eq_true] at hskip
      obtain ⟨other, hother, hsame⟩ := hskip.resolve_left hfree
      exact ⟨other, hother, by simpa using hsame⟩
  · next hkeep =>
    rw [Bool.or_eq_true, List.contains_iff_mem, not_or] at hkeep
    constructor
    · rintro ⟨other, hother, rfl, rfl⟩
      rcases List.mem_append.1 hother with hold | hnew
      · exact .inl ⟨other, hold, rfl, rfl⟩
      · obtain rfl := List.mem_singleton.1 hnew
        exact .inr ⟨hkeep.1, rfl, rfl⟩
    · rintro (⟨other, hother, hsame⟩ | ⟨_, hsame⟩)
      · exact ⟨other, List.mem_append_left _ hother, hsame⟩
      · exact ⟨entry, List.mem_append_right _ List.mem_cons_self, hsame⟩

theorem holds_foldl_keep_iff (placeholders : List String)
    (candidates found : List (Field × Location)) (name : String) (location : Location) :
    Holds (candidates.foldl (keep placeholders) found) name location ↔
      Holds found name location ∨ name ∉ placeholders ∧ Holds candidates name location := by
  induction candidates generalizing found with
  | nil => simp [Holds]
  | cons entry rest ih =>
    rw [List.foldl_cons, ih, holds_keep_iff, or_assoc, ← and_or_left]
    simp [Holds]

/-- The fields with a location are taken up one after the other. -/
theorem parameterFields_eq_foldl (implied : Bool) (placeholders : List String)
    (fields : List Field) :
    parameterFields implied placeholders fields =
      (fields.filterMap fun f ↦ (parameterLocation? implied f).map fun place ↦ (f, place)).foldl
        (keep placeholders) [] := rfl

/-- The parameter names of a location are those of its fields, without the placeholders. -/
theorem holds_parameterFields_iff (implied : Bool) (placeholders : List String)
    (fields : List Field) (name : String) (location : Location) :
    Holds (parameterFields implied placeholders fields) name location ↔
      name ∉ placeholders ∧
        ∃ f ∈ fields, paramName f = name ∧ parameterLocation? implied f = some location := by
  rw [parameterFields_eq_foldl, holds_foldl_keep_iff]
  simp only [Holds, List.not_mem_nil, false_and, exists_false, false_or, List.mem_filterMap,
    Option.map_eq_some_iff]
  refine and_congr_right fun _ ↦ ⟨?_, ?_⟩
  · rintro ⟨_, ⟨f, hf, place, hplace, rfl⟩, hname, rfl⟩
    exact ⟨f, hf, hname, hplace⟩
  · rintro ⟨f, hf, hname, hplace⟩
    exact ⟨(f, location), ⟨f, hf, location, hplace, rfl⟩, hname, rfl⟩

theorem parameterLocation?_cases {implied : Bool} {f : Field} {location : Location}
    (h : parameterLocation? implied f = some location) :
    (location = .query ∨ location = .header) ∧ (f.location ≠ .body ∨ implied = true) := by
  unfold parameterLocation? at h
  unfold Field.location
  split at h
  · next hplace =>
    obtain rfl := Option.some.inj h
    exact ⟨.inl rfl, .inl (by simp [hplace])⟩
  · next hplace =>
    obtain rfl := Option.some.inj h
    exact ⟨.inr rfl, .inl (by simp [hplace])⟩
  · split at h
    · next himplied =>
      obtain rfl := Option.some.inj h
      exact ⟨.inl rfl, .inr (Bool.and_eq_true_iff.1 himplied).1⟩
    · simp at h
  · simp at h

end Builder

/-! ## The parts of an operation -/

namespace Document.Operation

/-- An operation has a parameter with a given name and location. -/
def HasParameter (o : Operation) (name : String) (location : Location) : Prop :=
  ∃ p ∈ o.parameters, p.name = name ∧ p.location = location.name

/-- The request body of an operation has a property. -/
def BodyHas (env : Env) (o : Operation) (key : String) : Prop :=
  ∃ body ∈ o.requestBody, ∃ s ∈ contentSchemas body.content, env.HasProperty s key

end Document.Operation

namespace Builder

variable {env : Env}

theorem parameters_made (env : Env) (b : Builder) (route : Route) (h : Handler) :
    (made env b route h).value.parameters =
      (parameters env b.parameterStyle (effectiveMethod route h) route.path
        (requestFields env.catalog h.request)).value := rfl

theorem requestBody_made (env : Env) (b : Builder) (route : Route) (h : Handler) :
    (made env b route h).value.requestBody =
      (requestBody env (effectiveMethod route h) h
        (claimedNames route.path (requestFields env.catalog h.request))).value := rfl

/-- The path parameter of a placeholder describes the field that it is bound to. -/
theorem pathParameter_mem_made (env : Env) (b : Builder) (route : Route) (h : Handler) {p : String}
    {f : Field} (hp : p ∈ Template.params route.path)
    (hf : boundField? (requestFields env.catalog h.request) p = some f) :
    ⟨p, Location.path.name, true, (env.fieldSchema f).value, f.doc⟩ ∈
      (made env b route h).value.parameters := by
  rw [parameters_made, value_parameters]
  apply List.mem_append_left
  refine List.mem_map.2 ⟨p, hp, ?_⟩
  simp [pathParameter, hf]

theorem location_pathParameter (env : Env) (fields : List Field) (p : String) :
    (pathParameter env fields p).value.location = Location.path.name := by
  unfold pathParameter
  split <;> rfl

/-- The query and header parameters of an operation, by name. -/
theorem hasParameter_made_iff (env : Env) (b : Builder) (route : Route) (h : Handler)
    (name : String) {location : Location} (hlocation : location = .query ∨ location = .header) :
    (made env b route h).value.HasParameter name location ↔
      name ∉ Template.params route.path ∧
        ∃ f ∈ requestFields env.catalog h.request, paramName f = name ∧
          parameterLocation? (impliesQuery b.parameterStyle (effectiveMethod route h)) f =
            some location := by
  rw [← holds_parameterFields_iff]
  unfold Document.Operation.HasParameter
  rw [parameters_made, value_parameters]
  constructor
  · rintro ⟨p, hp, rfl, hplace⟩
    rcases List.mem_append.1 hp with hpath | hother
    · obtain ⟨placeholder, _, rfl⟩ := List.mem_map.1 hpath
      rw [location_pathParameter] at hplace
      rcases hlocation with rfl | rfl <;> simp [Location.name] at hplace
    · obtain ⟨entry, hentry, rfl⟩ := List.mem_map.1 hother
      refine ⟨entry, hentry, rfl, ?_⟩
      have hname : entry.2.name = location.name := hplace
      revert hname
      rcases hlocation with rfl | rfl <;> cases entry.2 <;> simp [Location.name]
  · rintro ⟨entry, hentry, rfl, rfl⟩
    exact ⟨_, List.mem_append_right _ (List.mem_map.2 ⟨entry, hentry, rfl⟩), rfl, rfl⟩

/-- A property of the request body comes from a body field of the request that the path does not
claim, and only methods with a body have one. -/
theorem field_of_bodyHas {b : Builder} {route : Route} {h : Handler} {g : Field} {key : String}
    (hg : g ∈ requestFields env.catalog h.request)
    (hkey : (made env b route h).value.BodyHas env key) :
    (effectiveMethod route h).hasBody = true ∧
      ∃ f ∈ requestFields env.catalog h.request, f.wireName = key ∧ f.isWire = true ∧
        f.location = .body ∧
        f.wireName ∉ claimedNames route.path (requestFields env.catalog h.request) := by
  obtain ⟨name, d, _, hname, hd, _, _⟩ := (mem_requestFields_iff env.catalog h.request g).1 hg
  obtain ⟨body, hbody, s, hs, hproperty⟩ := hkey
  rw [requestBody_made] at hbody
  unfold requestBody at hbody
  split at hbody
  · next hmethod =>
    refine ⟨(Bool.and_eq_true_iff.1 hmethod).1, ?_⟩
    obtain rfl := Option.mem_some_iff.1 hbody
    obtain rfl : s = _ := by simpa [Document.contentSchemas, jsonContent] using hs
    obtain ⟨f, hf, rfl⟩ := Env.hasProperty_requestBody hname hd hproperty
    have hself := (Catalog.record?_eq_some.1 hd).1
    rw [Env.mem_bodyFields_iff env (Catalog.name_of_type? hself ▸ hself)] at hf
    obtain ⟨⟨e, hpath, hmem⟩, hwire, hlocation, hfree⟩ := hf
    exact ⟨f, (mem_requestFields_iff env.catalog h.request f).2 ⟨name, d, e, hname, hd, hpath, hmem⟩,
      rfl, hwire, hlocation, hfree⟩
  · simp at hbody

/-! ## Placement -/

/-- No two fields on the wire share a wire name. -/
def DistinctWireNames (fields : List Field) : Prop :=
  ((fields.filter Field.isWire).map Field.wireName).Nodup

theorem DistinctWireNames.eq_of_wireName {fields : List Field} (hdistinct : DistinctWireNames fields)
    {f g : Field} (hf : f ∈ fields) (hfwire : f.isWire = true) (hg : g ∈ fields)
    (hgwire : g.isWire = true) (h : f.wireName = g.wireName) : f = g :=
  List.inj_on_of_nodup_map hdistinct (List.mem_filter.2 ⟨hf, hfwire⟩)
    (List.mem_filter.2 ⟨hg, hgwire⟩) h

theorem isWire_of_wireName_eq {f g : Field} (h : f.wireName = g.wireName)
    (hwire : f.isWire = true) : g.isWire = true := by
  unfold Field.isWire at hwire ⊢
  rw [← h]
  exact hwire

/-- A field that a placeholder is bound to is no property of the request body. -/
theorem not_bodyHas_of_bound {b : Builder} {route : Route} {h : Handler} {p : String} {f : Field}
    (hdistinct : DistinctWireNames (requestFields env.catalog h.request))
    (hp : p ∈ Template.params route.path)
    (hf : boundField? (requestFields env.catalog h.request) p = some f) :
    ¬ (made env b route h).value.BodyHas env f.wireName := by
  intro hbody
  have hmem := mem_of_boundField? hf
  obtain ⟨_, g, hg, hname, hwire, hlocation, hfree⟩ := field_of_bodyHas hmem hbody
  have hfwire := isWire_of_wireName_eq hname hwire
  obtain rfl := hdistinct.eq_of_wireName hg hwire hmem hfwire hname
  exact hfree (mem_claimedNames hp hf hlocation hwire)

/-- A field that becomes a query or header parameter is no property of the request body. -/
theorem not_bodyHas_of_parameterLocation? {b : Builder} {route : Route} {h : Handler} {f : Field}
    {location : Location} (hdistinct : DistinctWireNames (requestFields env.catalog h.request))
    (hf : f ∈ requestFields env.catalog h.request)
    (hlocation : parameterLocation? (impliesQuery b.parameterStyle (effectiveMethod route h)) f =
      some location) :
    ¬ (made env b route h).value.BodyHas env f.wireName := by
  intro hbody
  obtain ⟨hmethod, g, hg, hname, hwire, hgbody, _⟩ := field_of_bodyHas hf hbody
  have hfwire := isWire_of_wireName_eq hname hwire
  obtain rfl := hdistinct.eq_of_wireName hg hwire hf hfwire hname
  rcases (parameterLocation?_cases hlocation).2 with hother | himplied
  · exact hother hgbody
  · -- Fields become query parameters without being asked only where there is no body.
    unfold impliesQuery at himplied
    cases hm : effectiveMethod route h <;> simp [hm, Method.hasBody] at hmethod himplied

/-- Where the fields of a request are described by the operation that a route adds, if no two of
them share a wire name. A bound field has its path parameter and no property in the body; it has a
query or header parameter besides exactly if its parameter name is none of the placeholders and a
field of that name has such a location. A field with a query or header location has no property in
the body either. -/
theorem placement_of_request_fields (env : Env) (b : Builder) (s : Session) (route : Route)
    (h : Handler) (hh : env.catalog.handler? route.handler = some h)
    (hdistinct : DistinctWireNames (requestFields env.catalog h.request)) :
    ∃ o, (addRoute env b s route).2.1.operationAt? route.path (effectiveMethod route h) = some o ∧
      (∀ p ∈ Template.params route.path, ∀ f,
        boundField? (requestFields env.catalog h.request) p = some f →
          ⟨p, Location.path.name, true, (env.fieldSchema f).value, f.doc⟩ ∈ o.parameters ∧
          ¬ o.BodyHas env f.wireName ∧
          ∀ location, location = .query ∨ location = .header →
            (o.HasParameter (paramName f) location ↔
              paramName f ∉ Template.params route.path ∧
                ∃ g ∈ requestFields env.catalog h.request, paramName g = paramName f ∧
                  parameterLocation? (impliesQuery b.parameterStyle (effectiveMethod route h)) g =
                    some location)) ∧
      ∀ f ∈ requestFields env.catalog h.request, ∀ location,
        parameterLocation? (impliesQuery b.parameterStyle (effectiveMethod route h)) f =
          some location → ¬ o.BodyHas env f.wireName := by
  refine ⟨_, operationAt?_addRoute b s hh, ?_, ?_⟩
  · intro p hp f hf
    refine ⟨pathParameter_mem_made env b route h hp hf, not_bodyHas_of_bound hdistinct hp hf, ?_⟩
    intro location hlocation
    exact hasParameter_made_iff env b route h (paramName f) hlocation
  · intro f hf location hlocation
    exact not_bodyHas_of_parameterLocation? hdistinct hf hlocation

/-! ## A field with another name on the wire -/

/-- A field whose name on the wire is not its own. -/
def renamedField : Field where
  name := "user_id"
  type := .named "String"
  wireName := "userId"

/-- A handler of requests with such a field, and with another one from an embedded record. -/
def accountHandler : Handler where
  name := "account"
  request := .named "AccountRequest"

/-- The types and handlers of a small API. -/
def accounts : Catalog where
  types :=
    [{ name := "AccountRequest", fields := [renamedField, .plain "label" (.named "String")],
       embedded := [.named "Tenant"] },
     { name := "Tenant", fields := [{ Field.plain "tenant" (.named "String") with
         wireName := "X-Tenant", annotatedLocation := some .header }] }]
  handlers := [accountHandler]

/-- A route of that API whose placeholder is the field's own name. -/
def accountRoute (method : Method) : Route where
  method := some method
  path := "/users/\x7buser_id\x7d"
  handler := "account"

theorem requestFields_accounts :
    requestFields accounts accountHandler.request = accounts.types.flatMap Definition.fields := by
  have htenant : accounts.closure Definition.isRecord List.reverse ["AccountRequest"] ["Tenant"] =
      accounts.types.tail :=
    (Catalog.closure_of_pass (by decide) rfl rfl).trans (congrArg _ (Catalog.closure_nil _))
  have haccount : accounts.closure Definition.isRecord List.reverse [] ["AccountRequest"] =
      accounts.types :=
    (Catalog.closure_of_pass List.not_mem_nil rfl rfl).trans (congrArg _ htenant)
  exact congrArg (fun met ↦ met.flatMap Definition.fields) haccount

theorem distinctWireNames_accounts :
    DistinctWireNames (requestFields accounts accountHandler.request) := by
  rw [requestFields_accounts]
  unfold DistinctWireNames
  decide

theorem boundField?_accounts :
    boundField? (requestFields accounts accountHandler.request) "user_id" = some renamedField := by
  rw [requestFields_accounts]
  rfl

theorem placement_of_put_account :
    accounts.handler? (accountRoute .put).handler = some accountHandler ∧
      DistinctWireNames (requestFields accounts accountHandler.request) ∧
      ∃ o, (addRoute ⟨accounts, {}⟩ (Builder.new {}) {} (accountRoute .put)).2.1.operationAt?
          (accountRoute .put).path .put = some o ∧
        ¬ o.BodyHas ⟨accounts, {}⟩ "userId" := by
  refine ⟨rfl, distinctWireNames_accounts, ?_⟩
  obtain ⟨o, ho, hbound, _⟩ := placement_of_request_fields ⟨accounts, {}⟩ (Builder.new {}) {}
    (accountRoute .put) accountHandler rfl distinctWireNames_accounts
  exact ⟨o, ho, (hbound "user_id" (by decide) renamedField boundField?_accounts).2.1⟩

/-- A placeholder bound through the own name of a field leaves the field among the query parameters:
it is described twice. -/
theorem renamed_field_described_twice :
    DistinctWireNames (requestFields accounts accountHandler.request) ∧
      boundField? (requestFields accounts accountHandler.request) "user_id" = some renamedField ∧
      ∃ o, (addRoute ⟨accounts, {}⟩ (Builder.new {}) {} (accountRoute .get)).2.1.operationAt?
          (accountRoute .get).path .get = some o ∧
        o.HasParameter "user_id" .path ∧ o.HasParameter (paramName renamedField) .query := by
  have hparam : "user_id" ∈ Template.params (accountRoute .get).path := by decide
  have hadded := operationAt?_addRoute (Builder.new {}) {}
    (rfl : (⟨accounts, {}⟩ : Env).catalog.handler? (accountRoute .get).handler = some accountHandler)
  refine ⟨distinctWireNames_accounts, boundField?_accounts, _, hadded, ?_, ?_⟩
  · exact ⟨_, pathParameter_mem_made _ _ _ _ hparam boundField?_accounts, rfl, rfl⟩
  · rw [hasParameter_made_iff _ _ _ _ _ (.inl rfl)]
    refine ⟨by decide, renamedField, ?_, rfl, rfl⟩
    exact mem_of_boundField? boundField?_accounts

end Builder

end ApiAtlas

import ApiAtlas.Proofs.History
import Mathlib.Data.Set.Function

/-!
# Discriminators and alternatives

Without a property asked for by name, the discriminator of a union maps the value of each
alternative to its component, and the alternatives themselves are written as references. The two
sides are made from different lookups. The mapping goes by the catalog alone and has one entry per
value; the alternatives put built-in names before the catalog. So the two describe the same types
exactly if no alternative is a record with a built-in name and no two of them share a value.
-/

namespace ApiAtlas

namespace Schema

/-- The references among the alternatives of a choice. -/
def alternativeRefs (s : Schema) : List String :=
  (s.oneOf.getD []).filterMap Schema.ref

/-- The components that the values of a discriminator select. -/
def mappingTargets (s : Schema) : List String :=
  (s.discriminator.toList.flatMap Discriminator.mapping).map Prod.snd

theorem refers_of_mem_alternativeRefs {s : Schema} {ref : String} (h : ref ∈ s.alternativeRefs) :
    s.Refers ref := by
  obtain ⟨alternative, halternative, href⟩ := List.mem_filterMap.1 h
  refine .inside ?_ (.own href)
  simp [children, halternative]

end Schema

/-- Whether a name has a schema of its own, whatever the catalog says. -/
def TypeExpr.isBuiltIn (name : String) : Bool :=
  name == "()" || (Primitive.ofName? name).isSome

/-! ## Records among the alternatives -/

namespace Union

variable {c : Catalog} {config : Config} {u : Union}

/-- The records that alternatives of a union name. -/
def members (c : Catalog) (u : Union) : List Definition :=
  (u.records c).filterMap id

theorem mem_members_iff {d : Definition} :
    d ∈ u.members c ↔
      ∃ a ∈ u.alternatives, alternativeName? a = some d.name ∧ c.record? d.name = some d := by
  simp only [members, records, List.filterMap_map, List.mem_filterMap, Function.comp_apply, id,
    Option.bind_eq_some_iff]
  constructor
  · rintro ⟨a, ha, name, hname, hd⟩
    obtain rfl := Catalog.name_of_type? (Catalog.record?_eq_some.1 hd).1
    exact ⟨a, ha, hname, hd⟩
  · rintro ⟨a, ha, hname, hd⟩
    exact ⟨a, ha, d.name, hname, hd⟩

theorem eq_of_mem_members {d e : Definition} (hd : d ∈ u.members c) (he : e ∈ u.members c)
    (h : d.name = e.name) : d = e := by
  obtain ⟨_, _, _, hrecord⟩ := mem_members_iff.1 hd
  obtain ⟨_, _, _, hrecord'⟩ := mem_members_iff.1 he
  rw [h] at hrecord
  exact Option.some.inj (hrecord.symm.trans hrecord')

theorem exists_member (h : u.allMarked c config = true) {a : TypeExpr} (ha : a ∈ u.alternatives) :
    ∃ d ∈ u.members c, alternativeName? a = some d.name := by
  have hmarked := List.all_eq_true.1 h _ (List.mem_map_of_mem ha)
  cases hd : (alternativeName? a).bind c.record? with
  | none => simp [hd] at hmarked
  | some d =>
    obtain ⟨name, hname, hrecord⟩ := Option.bind_eq_some_iff.1 hd
    obtain rfl := Catalog.name_of_type? (Catalog.record?_eq_some.1 hrecord).1
    exact ⟨d, mem_members_iff.2 ⟨a, ha, hname, hrecord⟩, hname⟩

/-- What holds of the name of every alternative holds of the names of the records. -/
theorem forall_alternatives_iff (h : u.allMarked c config = true) {p : String → Prop} :
    (∀ a ∈ u.alternatives, ∃ name, alternativeName? a = some name ∧ p name) ↔
      ∀ d ∈ u.members c, p d.name := by
  constructor
  · intro hall d hd
    obtain ⟨a, ha, hname, _⟩ := mem_members_iff.1 hd
    obtain ⟨name, hname', hp⟩ := hall a ha
    obtain rfl := Option.some.inj (hname.symm.trans hname')
    exact hp
  · intro hall a ha
    obtain ⟨d, hd, hname⟩ := exists_member h ha
    exact ⟨d.name, hname, hall d hd⟩

/-! ## The mapping -/

/-- The values of the alternatives with the components that they select. -/
def valueMapping (c : Catalog) (config : Config) (u : Union) : List (String × String) :=
  Keyed.ofList ((u.members c).map (entryOf config))

/-- A discriminator that was not asked for maps the values of marked records. -/
theorem resolve_of_marker {property : Option String}
    (hfound : (u.resolve c config property).discriminator ≠ none)
    (hmarker : (u.resolve c config property).isExplicit = false) :
    u.allMarked c config = true ∧ (u.resolve c config property).discriminator =
      some ⟨config.discriminatorProperty, u.valueMapping c config⟩ := by
  unfold resolve at hfound hmarker ⊢
  cases hoverride : override? property with
  | some name => simp [hoverride] at hmarker
  | none =>
    cases hmarked : u.allMarked c config with
    | true => simp [valueMapping, members]
    | false => simp [hoverride, hmarked] at hfound

theorem sorted_valueMapping (c : Catalog) (config : Config) (u : Union) :
    Keyed.Sorted (u.valueMapping c config) :=
  Keyed.sorted_ofList _

theorem mem_valueMapping {value target : String}
    (h : (value, target) ∈ u.valueMapping c config) :
    ∃ d ∈ u.members c, valueOf config d = value ∧ Schema.componentRef d.name = target := by
  obtain ⟨d, hd, hentry⟩ := List.mem_map.1 (Keyed.mem_of_mem_ofList h)
  exact ⟨d, hd, Prod.mk.inj hentry⟩

/-- A record is selected by some value exactly if its own value selects it. -/
theorem selected_iff {d : Definition} (hd : d ∈ u.members c) :
    Schema.componentRef d.name ∈ (u.valueMapping c config).map Prod.snd ↔
      Keyed.get? (valueOf config d) (u.valueMapping c config) =
        some (Schema.componentRef d.name) := by
  rw [← Keyed.mem_iff_get? (sorted_valueMapping c config u)]
  constructor
  · intro h
    obtain ⟨⟨value, target⟩, hentry, rfl⟩ := List.mem_map.1 h
    obtain ⟨e, he, rfl, hname⟩ := mem_valueMapping hentry
    obtain rfl := eq_of_mem_members he hd (Schema.componentRef_inj.1 hname)
    exact hentry
  · intro h
    exact List.mem_map_of_mem h

/-- All records are selected exactly if no two of them share a value. -/
theorem selected_all_iff :
    (∀ d ∈ u.members c, Schema.componentRef d.name ∈ (u.valueMapping c config).map Prod.snd) ↔
      Set.InjOn (valueOf config) {d | d ∈ u.members c} := by
  constructor
  · intro hall d hd e he hvalue
    have hfirst := (selected_iff hd).1 (hall d hd)
    have hsecond := (selected_iff he).1 (hall e he)
    rw [hvalue] at hfirst
    have hsame := Option.some.inj (hfirst.symm.trans hsecond)
    exact eq_of_mem_members hd he (Schema.componentRef_inj.1 hsame)
  · intro hinj d hd
    have hkey : valueOf config d ∈ Keyed.keys (u.valueMapping c config) := by
      rw [valueMapping, Keyed.mem_keys_ofList]
      exact List.mem_map.2 ⟨entryOf config d, List.mem_map_of_mem hd, rfl⟩
    obtain ⟨⟨value, target⟩, hentry, hvalue⟩ := List.mem_map.1 hkey
    obtain ⟨e, he, rfl, rfl⟩ := mem_valueMapping hentry
    obtain rfl := hinj he hd hvalue
    exact List.mem_map_of_mem hentry

end Union

/-! ## The alternatives -/

namespace Env

variable {env : Env}

@[simp]
theorem value_schemasOf (env : Env) (ts : List TypeExpr) :
    (env.schemasOf ts).value = ts.map fun t ↦ (env.schemaOf t).value := by
  induction ts with
  | nil => simp [schemasOf]
  | cons t rest ih => simp [schemasOf, ih]

theorem ref_schemaOf_payload (env : Env) (t : TypeExpr) :
    (env.schemaOf t.payload.1).value.ref = (env.schemaOf t).value.ref := by
  rw [← env.schemaOf_unwrapped t]
  unfold TypeExpr.payload
  split
  · next inner ht => simp [ht, schemaOf, schemaOf_unwrapped]
  · rfl

theorem ref_schemaOf_named {name : String} (h : env.catalog.hasType name = true) :
    (env.schemaOf (.named name)).value.ref =
      if TypeExpr.isBuiltIn name then none else some (Schema.componentRef name) := by
  rw [schemaOf]
  by_cases hunit : name = "()"
  · simp [hunit, TypeExpr.isBuiltIn, Schema.typed]
  · cases hprimitive : Primitive.ofName? name with
    | some p => simp [hunit, nameSchema, hprimitive, TypeExpr.isBuiltIn, primitiveSchema]
    | none => simp [hunit, nameSchema, hprimitive, h, TypeExpr.isBuiltIn, Schema.reference]

/-- An alternative that names a record refers to it, unless the name is built in. -/
theorem ref_schemaOf_alternative {u : Union} {a : TypeExpr} {d : Definition}
    (hd : d ∈ u.members env.catalog) (ha : Union.alternativeName? a = some d.name) :
    (env.schemaOf a).value.ref =
      if TypeExpr.isBuiltIn d.name then none else some (Schema.componentRef d.name) := by
  obtain ⟨_, _, _, hrecord⟩ := Union.mem_members_iff.1 hd
  have hknown : env.catalog.hasType d.name = true := by
    simp [Catalog.hasType, (Catalog.record?_eq_some.1 hrecord).1]
  rw [← ref_schemaOf_payload, schemaOf_of_name? ha, ref_schemaOf_named hknown]

theorem mem_alternativeRefs_iff {u found : Union}
    (hmarked : u.allMarked env.catalog env.config = true) (ref : String) :
    ref ∈ (unionSchema found (env.schemasOf u.alternatives).value).alternativeRefs ↔
      ∃ d ∈ u.members env.catalog, TypeExpr.isBuiltIn d.name = false ∧
        Schema.componentRef d.name = ref := by
  simp only [Schema.alternativeRefs, unionSchema, Option.getD_some, value_schemasOf,
    List.filterMap_map, List.mem_filterMap, Function.comp_apply]
  constructor
  · rintro ⟨a, ha, href⟩
    obtain ⟨d, hd, hname⟩ := Union.exists_member hmarked ha
    rw [ref_schemaOf_alternative hd hname] at href
    exact ⟨d, hd, by simpa using href⟩
  · rintro ⟨d, hd, hplain, rfl⟩
    obtain ⟨a, ha, hname, _⟩ := Union.mem_members_iff.1 hd
    exact ⟨a, ha, by simp [ref_schemaOf_alternative hd hname, hplain]⟩

/-- Once the alternatives of a union are made, what they refer to are components. -/
theorem component_of_mem_alternativeRefs (env : Env) (history : List Call) (u found : Union)
    {ref : String}
    (h : ref ∈ (unionSchema found (env.schemasOf u.alternatives).value).alternativeRefs) :
    let made := env.schemasOf u.alternatives
    ∃ name ∈ Keyed.keys (Session.run env (.after env {} history) made).2.generator.schemas,
      Schema.componentRef name = ref := by
  have hgrounds := grounds_unionSchema found (grounds_schemasOf env u.alternatives)
  obtain ⟨name, rfl, hmention, hknown⟩ := hgrounds ref (Schema.refers_of_mem_alternativeRefs h)
  have hruns := Session.runs_run env (.after env {} history) (env.schemasOf u.alternatives)
  have hsettled := hruns.settled (Session.settled_after env history)
  refine ⟨name, (hsettled.mem_keys_schemas_iff name).2 ?_, rfl⟩
  exact hruns.covers hmention (type?_ne_none_of_hasType hknown)

/-- Schemas of expressions make no component with the name of a primitive type. -/
theorem notMem_keys_of_ofName? (env : Env) (ts : List TypeExpr) {name : String}
    (h : Primitive.ofName? name ≠ none) :
    name ∉ Keyed.keys (Session.run env {} (env.schemasOf ts)).2.generator.schemas := by
  have hruns := Session.runs_run env {} (env.schemasOf ts)
  rw [(hruns.settled (Session.settled_empty env)).mem_keys_schemas_iff]
  intro hmade
  obtain ⟨root, hroot, hpath⟩ := hruns.reaches (Session.slot?_empty name) hmade
  rw [mention_mem_schemasOf_iff] at hroot
  rcases Relation.ReflTransGen.cases_tail hpath with rfl | ⟨middle, _, hlast⟩
  · obtain ⟨t, _, ht⟩ := hroot
    exact h ht.isComponent.1
  · obtain ⟨d, _, hmention⟩ := (env.follows_iff_leads middle name).1 hlast
    obtain ⟨t, ht⟩ := hmention.exists_mentions
    exact h ht.isComponent.1

/-- Where the discriminator of a union was not asked for, its mapping and the alternatives describe
the same types, none missing and none without a component, exactly if no alternative is a record
with a built-in name and no two of the records share a value. -/
theorem mapping_matches_alternatives_iff (env : Env) (property : Option String) (u : Union)
    (hfound : (u.resolve env.catalog env.config property).discriminator ≠ none)
    (hmarker : (u.resolve env.catalog env.config property).isExplicit = false) :
    let found := u.resolve env.catalog env.config property
    let made := env.schemasOf found.alternatives
    let schema := unionSchema found made.value
    ((∀ ref, ref ∈ schema.mappingTargets ↔ ref ∈ schema.alternativeRefs) ∧
      (∀ a ∈ u.alternatives, ∃ name, Union.alternativeName? a = some name ∧
        Schema.componentRef name ∈ schema.mappingTargets) ∧
      ∀ history, ∀ target ∈ schema.mappingTargets,
        ∃ name ∈ Keyed.keys (Session.run env (.after env {} history) made).2.generator.schemas,
          Schema.componentRef name = target) ↔
    (∀ d ∈ u.members env.catalog, TypeExpr.isBuiltIn d.name = false) ∧
      Set.InjOn (Union.valueOf env.config) {d | d ∈ u.members env.catalog} := by
  intro found made schema
  obtain ⟨hmarked, hdiscriminator⟩ := Union.resolve_of_marker hfound hmarker
  have htargets : schema.mappingTargets =
      (u.valueMapping env.catalog env.config).map Prod.snd := by
    simp [schema, found, Schema.mappingTargets, unionSchema, hdiscriminator]
  have hrefs : ∀ ref, ref ∈ schema.alternativeRefs ↔ ∃ d ∈ u.members env.catalog,
      TypeExpr.isBuiltIn d.name = false ∧ Schema.componentRef d.name = ref := by
    intro ref
    rw [← mem_alternativeRefs_iff hmarked ref, ← alternatives_resolve]
  rw [htargets, Union.forall_alternatives_iff hmarked, ← Union.selected_all_iff]
  constructor
  · rintro ⟨hsame, hselected, _⟩
    refine ⟨fun d hd ↦ ?_, hselected⟩
    obtain ⟨e, _, hplain, hname⟩ := (hrefs _).1 ((hsame _).1 (hselected d hd))
    rwa [← Schema.componentRef_inj.1 hname]
  · rintro ⟨hplain, hselected⟩
    have hsame : ∀ ref, ref ∈ (u.valueMapping env.catalog env.config).map Prod.snd ↔
        ref ∈ schema.alternativeRefs := by
      intro ref
      rw [hrefs]
      constructor
      · intro htarget
        obtain ⟨⟨value, target⟩, hentry, rfl⟩ := List.mem_map.1 htarget
        obtain ⟨d, hd, _, rfl⟩ := Union.mem_valueMapping hentry
        exact ⟨d, hd, hplain d hd, rfl⟩
      · rintro ⟨d, hd, _, rfl⟩
        exact hselected d hd
    refine ⟨hsame, hselected, fun history target htarget ↦ ?_⟩
    -- What the alternatives refer to is made with them, so equal targets are made as well.
    exact component_of_mem_alternativeRefs env history found found ((hsame target).1 htarget)

/-! ## A union that is told apart, and two that are not -/

/-- A record that declares its value. -/
def card : Definition where
  name := "Card"
  fields := [.plain "number" (.named "String")]
  discriminatorValue := some "card"

/-- A record with the marker method, whose value is made from its name. -/
def bankTransfer : Definition where
  name := "BankTransfer"
  fields := [.plain "iban" (.named "String")]
  operations := [{ name := "discriminator" }]

/-- An API with two means of payment. -/
def payments : Env where
  catalog := { types := [card, bankTransfer] }
  config := {}

/-- Either means of payment, one of them in an optional slot. -/
def payment : Union where
  arity := 2
  alternatives := [.named "Card", .optional (.generic "Box" [.named "BankTransfer"])]

theorem mapping_of_payment :
    let found := payment.resolve payments.catalog payments.config none
    let schema := unionSchema found (payments.schemasOf found.alternatives).value
    found.discriminator ≠ none ∧ found.isExplicit = false ∧
      (∀ ref, ref ∈ schema.mappingTargets ↔ ref ∈ schema.alternativeRefs) ∧
      ∃ name, Union.alternativeName? (.optional (.generic "Box" [.named "BankTransfer"])) =
        some name ∧ Schema.componentRef name ∈ schema.mappingTargets := by
  intro found schema
  have hfound : found.discriminator ≠ none := by decide
  have hmembers : payment.members payments.catalog = [card, bankTransfer] := rfl
  have hplain : ∀ d ∈ payment.members payments.catalog, TypeExpr.isBuiltIn d.name = false := by
    rw [hmembers]
    decide
  have hvalues : Set.InjOn (Union.valueOf payments.config)
      {d | d ∈ payment.members payments.catalog} := by
    have hcard : Union.valueOf payments.config card = "card" := rfl
    have htransfer : Union.valueOf payments.config bankTransfer = "bank_transfer" := by decide
    simp [hmembers, Set.InjOn, hcard, htransfer]
  obtain ⟨hsame, hnamed, _⟩ :=
    (mapping_matches_alternatives_iff payments none payment hfound rfl).2 ⟨hplain, hvalues⟩
  exact ⟨hfound, rfl, hsame, hnamed _ (by simp [payment])⟩

/-- An API with a record that has the name of a primitive type. -/
def calendar : Env where
  catalog :=
    { types :=
        [{ name := "Date", fields := [.plain "day" (.named "String")],
           discriminatorValue := some "date" },
         { name := "Period", fields := [.plain "start" (.named "String")],
           discriminatorValue := some "period" }] }
  config := {}

/-- A day or a period. -/
def occasion : Union where
  arity := 2
  alternatives := [.named "Date", .named "Period"]

/-- An API with two records of the same value. -/
def wallets : Env where
  catalog := { types := [card, { card with name := "Voucher" }] }
  config := {}

/-- Either of two records of the same value. -/
def wallet : Union where
  arity := 2
  alternatives := [.named "Card", .named "Voucher"]

/-- The mapping leads to a record with a built-in name, which is neither among the references of
the alternatives nor a component, and it leaves out the first of two records of the same value. -/
theorem mapping_differs_from_alternatives :
    (let found := occasion.resolve calendar.catalog calendar.config none
     let made := calendar.schemasOf found.alternatives
     let schema := unionSchema found made.value
     found.discriminator ≠ none ∧ found.isExplicit = false ∧
      Schema.componentRef "Date" ∈ schema.mappingTargets ∧
      Schema.componentRef "Date" ∉ schema.alternativeRefs ∧
      "Date" ∉ Keyed.keys (Session.run calendar {} made).2.generator.schemas) ∧
    (let found := wallet.resolve wallets.catalog wallets.config none
     let schema := unionSchema found (wallets.schemasOf found.alternatives).value
     found.discriminator ≠ none ∧ found.isExplicit = false ∧
      Schema.componentRef "Card" ∈ schema.alternativeRefs ∧
      Schema.componentRef "Card" ∉ schema.mappingTargets) := by
  refine ⟨⟨by decide, rfl, by decide, by decide, ?_⟩, by decide, rfl, by decide, by decide⟩
  exact notMem_keys_of_ofName? calendar _ (by decide)

end Env

end ApiAtlas

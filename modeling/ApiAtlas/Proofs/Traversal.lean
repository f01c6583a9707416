import ApiAtlas.Document.Builder
import ApiAtlas.Proofs.Mention

/-!
# Traversals of embedded types

Embedded types are followed in three places: for the properties of a record, for the fields of a
request, and for the wire names by which the alternatives of a union are compared. The three start
with different names marked as visited, follow what a record embeds in different orders, and pass
over different definitions. They agree nevertheless: each of them meets the records that embedding
leads to, whatever circles, diamonds, unknown names and aliases there are on the way. All three
end, since every name is visited at most once.
-/

namespace ApiAtlas

namespace Catalog

variable {c : Catalog}

/-- A field belongs to a record or to a record that embedding leads to. -/
def HasField (c : Catalog) (d : Definition) (f : Field) : Prop :=
  ∃ e, Relation.ReflTransGen c.Embeds d e ∧ f ∈ e.fields

/-- A list holds the records that embedding leads to from a record, each once. -/
structure Enumerates (c : Catalog) (d : Definition) (records : List Definition) : Prop where
  nodup : (records.map Definition.name).Nodup
  mem_iff : ∀ e, e ∈ records ↔ Relation.ReflTransGen c.Embeds d e

/-- Aliases carry no fields and embed nothing. -/
def PlainAliases (c : Catalog) : Prop :=
  ∀ d ∈ c.types, d.isRecord = false → d.fields = [] ∧ d.embedded = []

/-- In whatever order embedded types are arranged, each record is met once. -/
theorem enumerates_closure {order : List String → List String}
    (horder : ∀ names name, name ∈ order names ↔ name ∈ names) {name : String} {d : Definition}
    (hd : c.record? name = some d) :
    c.Enumerates d (c.closure Definition.isRecord order [] [name]) where
  nodup := nodup_names_closure [] [name]
  mem_iff := by
    intro e
    rw [mem_closure_singleton_iff horder, hd]
    simp

/-- A traversal that also meets aliases meets nothing more that has a field. -/
theorem mem_closure_all {name : String} {d e : Definition} (hplain : c.PlainAliases)
    (hd : c.record? name = some d) (he : e ∈ c.closure (fun _ ↦ true) id [] [name]) :
    Relation.ReflTransGen c.Embeds d e ∨ e.fields = [] ∧ e.embedded = [] := by
  refine closure_induction
    (motive := fun e ↦ Relation.ReflTransGen c.Embeds d e ∨ e.fields = [] ∧ e.embedded = [])
    [] [name] (fun _ _ ↦ Iff.rfl) ?_ ?_ e he
  · intro first hfirst met hmet _
    obtain rfl := List.mem_singleton.1 hfirst
    obtain rfl := Option.some.inj ((record?_eq_some.1 hd).1.symm.trans hmet)
    exact .inl .refl
  · rintro middle hmiddle inner hinner met hmet _
    rcases hmiddle with hpath | ⟨_, hempty⟩
    · cases hrecord : met.isRecord with
      | true => exact .inl (hpath.tail ⟨inner, hinner, record?_eq_some.2 ⟨hmet, hrecord⟩⟩)
      | false => exact .inr (hplain met (List.mem_of_find?_eq_some hmet) hrecord)
    · simp [Definition.embeddedNames, hempty] at hinner

end Catalog

namespace Env

theorem mem_keys_properties_iff (env : Env) {d : Definition}
    (hd : env.catalog.type? d.name = some d) (excluded : List String) (key : String) :
    key ∈ Keyed.keys (Keyed.ofList (env.properties (env.bodyFields excluded d)).value) ↔
      key ∉ excluded ∧ ∃ f, env.catalog.HasField d f ∧ f.isWire = true ∧ f.location = .body ∧
        f.wireName = key := by
  rw [Keyed.mem_keys_ofList, value_properties]
  simp only [Keyed.keys, List.map_map, List.mem_map, Function.comp_apply,
    mem_bodyFields_iff env hd]
  constructor
  · rintro ⟨f, ⟨hfield, hwire, hbody, hout⟩, rfl⟩
    exact ⟨hout, f, hfield, hwire, hbody, rfl⟩
  · rintro ⟨hout, f, hfield, hwire, hbody, rfl⟩
    exact ⟨f, ⟨hfield, hwire, hbody, hout⟩, rfl⟩

end Env

namespace Union

variable {c : Catalog}

theorem mem_wireNames_iff {d : Definition} (hplain : c.PlainAliases)
    (hd : c.record? d.name = some d) (key : String) :
    key ∈ wireNames c d.name ↔ ∃ f, c.HasField d f ∧ f.isWire = true ∧ f.wireName = key := by
  unfold wireNames
  rw [Keyed.mem_sortNames, List.mem_map]
  simp only [List.mem_filter, List.mem_flatMap]
  constructor
  · rintro ⟨f, ⟨⟨e, he, hf⟩, hwire⟩, hkey⟩
    rcases Catalog.mem_closure_all hplain hd he with hpath | ⟨hempty, _⟩
    · exact ⟨f, ⟨e, hpath, hf⟩, hwire, hkey⟩
    · simp [hempty] at hf
  · rintro ⟨f, ⟨e, hpath, hf⟩, hwire, hkey⟩
    have he : e ∈ c.closure (fun _ ↦ true) id [] [d.name] :=
      Catalog.mem_closure_of_path (fun _ _ ↦ Iff.rfl) (fun _ _ ↦ rfl) hd hpath
    exact ⟨f, ⟨⟨e, he, hf⟩, hwire⟩, hkey⟩

end Union

namespace Env

/-- The three traversals from a record of the catalog meet the same records. The properties of the
record without some names, the fields of a request of that type, and the wire names by which it is
compared are those of the records that embedding leads to. -/
theorem embedded_traversals_agree (env : Env) (hplain : env.catalog.PlainAliases) (r : Definition)
    (hr : env.catalog.record? r.name = some r) (excluded : List String) (request : TypeExpr)
    (hrequest : request.name? = some r.name) :
    (∃ table, (env.objectSchema excluded r).value.properties = some table ∧
      ∀ key, key ∈ Keyed.keys table ↔ key ∉ excluded ∧ ∃ f, env.catalog.HasField r f ∧
        f.isWire = true ∧ f.location = .body ∧ f.wireName = key) ∧
    (∃ records, env.catalog.Enumerates r records ∧
      Builder.requestFields env.catalog request = records.flatMap Definition.fields) ∧
    (Union.wireNames env.catalog r.name).Pairwise (· < ·) ∧
    ∀ key, key ∈ Union.wireNames env.catalog r.name ↔
      ∃ f, env.catalog.HasField r f ∧ f.isWire = true ∧ f.wireName = key := by
  have htype := (Catalog.record?_eq_some.1 hr).1
  have hmet := Catalog.enumerates_closure (fun _ _ ↦ List.mem_reverse) hr
  refine ⟨⟨_, rfl, ?_⟩, ⟨_, hmet, ?_⟩, ?_, ?_⟩
  · exact env.mem_keys_properties_iff htype excluded
  · simp [Builder.requestFields, hrequest]
  · exact Keyed.pairwise_sortNames _
  · exact Union.mem_wireNames_iff hplain hr

/-! ## A record with a circle, a diamond and names that are no records -/

/-- A record that embeds itself, an alias, an unknown name, and one record on two ways. -/
def invoice : Definition where
  name := "Invoice"
  fields := [.plain "number" (.named "String")]
  embedded := [.named "Audit", .named "Address", .named "Amount", .named "Missing",
    .named "Invoice"]

/-- A record whose own field is carried by a header. -/
def audit : Definition where
  name := "Audit"
  fields := [{ Field.plain "trace" (.named "String") with annotatedLocation := some .header }]
  embedded := [.named "Stamp"]

/-- A record that leads back to the one that embeds it. -/
def stamp : Definition where
  name := "Stamp"
  fields := [.plain "at" (.named "DateTime")]
  embedded := [.generic "Box" [.named "Invoice"]]

/-- The types of a small API. -/
def invoices : Catalog where
  types :=
    [invoice, audit, stamp,
     { name := "Address", fields := [.plain "city" (.named "String")],
       embedded := [.named "Stamp"] },
     { name := "Amount", kind := .simple, aliased := some (.named "Decimal") }]

theorem traversals_of_invoice :
    invoices.PlainAliases ∧ invoices.record? invoice.name = some invoice ∧
      ("at" ∈ Union.wireNames invoices "Invoice" ∧ "trace" ∈ Union.wireNames invoices "Invoice") ∧
      ∃ table,
        ((⟨invoices, {}⟩ : Env).objectSchema ["city"] invoice).value.properties = some table ∧
        "at" ∈ Keyed.keys table ∧ "city" ∉ Keyed.keys table := by
  have hplain : invoices.PlainAliases := by
    simp [Catalog.PlainAliases, invoices, invoice, audit, stamp, Definition.isRecord]
  obtain ⟨⟨table, htable, hkeys⟩, _, _, hnames⟩ := embedded_traversals_agree ⟨invoices, {}⟩ hplain
    invoice rfl ["city"] (.named "Invoice") rfl
  have haudit : invoices.Embeds invoice audit := ⟨"Audit", by decide, rfl⟩
  have hstamp : invoices.Embeds audit stamp := ⟨"Stamp", by decide, rfl⟩
  have hat : invoices.HasField invoice (.plain "at" (.named "DateTime")) :=
    ⟨stamp, .tail (.single haudit) hstamp, List.mem_cons_self⟩
  refine ⟨hplain, rfl, ⟨(hnames "at").2 ?_, (hnames "trace").2 ?_⟩, table, htable, ?_, ?_⟩
  · exact ⟨_, hat, rfl, rfl⟩
  · exact ⟨_, ⟨_, .single haudit, List.mem_cons_self⟩, rfl, rfl⟩
  · exact (hkeys "at").2 ⟨by decide, _, hat, rfl, rfl, rfl⟩
  · exact fun hcity ↦ ((hkeys "city").1 hcity).1 List.mem_cons_self

end Env

end ApiAtlas

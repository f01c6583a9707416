import ApiAtlas.Proofs.RequestBody
import ApiAtlas.Proofs.Tokenizing
import ApiAtlas.Proofs.Traversal
import Mathlib.Data.List.Nodup

/-!
# Required names

The object schema of a record lists its required names beside its properties. Both are collected from
the fields of the record and of all that it embeds, in a circle or more than once. A property is given
by the last field of its name, but it is required as soon as one field of its name asks for it,
whatever the directives of the others say. So the two lists agree although a later field may replace
the property of an earlier one: each required name is a property, and it is listed once.
-/

namespace ApiAtlas

/-- A directive has a token of a given name in one of its groups. -/
def Directive.Has (directive name : String) : Prop :=
  ∃ group ∈ groups directive.toList, ∃ t ∈ tokens group, t.name = name

theorem Directive.isRequired_iff_has (directive : String) :
    isRequired directive = true ↔ Has directive "required" ∧ ¬ Has directive "omitempty" := by
  rw [isRequired_iff]
  simp [Has]

namespace Env

variable {env : Env} {d : Definition} {excluded : List String}

/-! ## Collecting -/

theorem nodup_requiredNames (fields : List Field) : (requiredNames fields).Nodup := by
  induction fields using List.reverseRecOn with
  | nil => exact List.nodup_nil
  | append_singleton fields f ih =>
    rw [requiredNames_concat]
    split
    · next hnew =>
      have hfree : f.wireName ∉ requiredNames fields := by
        simpa using (Bool.and_eq_true_iff.1 hnew).2
      exact List.Nodup.append ih (List.nodup_singleton _) (List.disjoint_singleton.2 hfree)
    · exact ih

theorem mem_requiredNames_iff (fields : List Field) (name : String) :
    name ∈ requiredNames fields ↔ ∃ f ∈ fields, f.isRequired = true ∧ f.wireName = name := by
  induction fields using List.reverseRecOn with
  | nil => simp [requiredNames]
  | append_singleton fields f ih =>
    have hsplit : (∃ g ∈ fields ++ [f], g.isRequired = true ∧ g.wireName = name) ↔
        name ∈ requiredNames fields ∨ f.isRequired = true ∧ f.wireName = name := by
      rw [ih]
      simp only [List.mem_append, List.mem_singleton, or_and_right, exists_or, exists_eq_left]
    rw [hsplit, requiredNames_concat]
    split
    · next hnew => simp [(Bool.and_eq_true_iff.1 hnew).1, eq_comm]
    · next hold =>
      -- The field asks for nothing, or its name is listed already.
      refine ⟨.inl, fun h ↦ h.elim id ?_⟩
      rintro ⟨hrequired, rfl⟩
      simpa [hrequired] using hold

theorem getD_nonempty? {α : Type} (l : List α) : (nonempty? l).getD [] = l := by
  cases l <;> rfl

theorem nonempty?_ne_some_nil {α : Type} (l : List α) : nonempty? l ≠ some [] := by
  cases l <;> simp [nonempty?]

/-! ## Objects -/

/-- A field gives an object the property of a name: it belongs to the record or to a record that
embedding leads to, it is on the wire and in the body, and its name is not left out. -/
structure Contributes (env : Env) (excluded : List String) (d : Definition) (name : String)
    (f : Field) : Prop where
  hasField : env.catalog.HasField d f
  isWire : f.isWire = true
  isBody : f.location = .body
  wireName : f.wireName = name
  kept : name ∉ excluded

/-- The required names of a schema are those that some contributing field asks for. -/
structure ListsRequired (env : Env) (excluded : List String) (d : Definition) (s : Schema) :
    Prop where
  nodup : (s.required.getD []).Nodup
  mem_properties : ∀ name ∈ s.required.getD [], name ∈ Keyed.keys (s.properties.getD [])
  mem_iff : ∀ name, name ∈ s.required.getD [] ↔
    ∃ f, env.Contributes excluded d name f ∧ Directive.Has f.directive "required" ∧
      ¬ Directive.Has f.directive "omitempty"
  ne_nil : s.required ≠ some []

theorem contributes_iff (hd : env.catalog.type? d.name = some d) (name : String) (f : Field) :
    env.Contributes excluded d name f ↔ f ∈ env.bodyFields excluded d ∧ f.wireName = name := by
  rw [mem_bodyFields_iff env hd]
  constructor
  · intro h
    exact ⟨⟨h.hasField, h.isWire, h.isBody, h.wireName ▸ h.kept⟩, h.wireName⟩
  · rintro ⟨⟨hfield, hwire, hbody, hkept⟩, rfl⟩
    exact ⟨hfield, hwire, hbody, rfl, hkept⟩

theorem required_objectSchema (env : Env) (excluded : List String) (d : Definition) :
    (env.objectSchema excluded d).value.required =
      nonempty? (requiredNames (env.bodyFields excluded d)) := rfl

theorem listsRequired_objectSchema (hd : env.catalog.type? d.name = some d)
    (excluded : List String) :
    env.ListsRequired excluded d (env.objectSchema excluded d).value := by
  have hrequired : (env.objectSchema excluded d).value.required.getD [] =
      requiredNames (env.bodyFields excluded d) := by
    rw [required_objectSchema, getD_nonempty?]
  have hmem (name : String) : name ∈ requiredNames (env.bodyFields excluded d) ↔
      ∃ f, env.Contributes excluded d name f ∧ f.isRequired = true := by
    rw [mem_requiredNames_iff]
    simp only [contributes_iff hd]
    constructor
    · rintro ⟨f, hf, hasked, hname⟩
      exact ⟨f, ⟨hf, hname⟩, hasked⟩
    · rintro ⟨f, ⟨hf, hname⟩, hasked⟩
      exact ⟨f, hf, hasked, hname⟩
  constructor
  · rw [hrequired]
    exact nodup_requiredNames _
  · intro name hname
    rw [hrequired, hmem] at hname
    obtain ⟨f, hf, _⟩ := hname
    apply (env.mem_keys_properties_iff hd excluded name).2
    exact ⟨hf.kept, f, hf.hasField, hf.isWire, hf.isBody, hf.wireName⟩
  · intro name
    rw [hrequired, hmem]
    simp only [Field.isRequired, Directive.isRequired_iff_has]
  · rw [required_objectSchema]
    exact nonempty?_ne_some_nil _

end Env

namespace Session

/-- In whatever state of the generator, the component of a record and every request body that
leaves names out of it list as required, once each, exactly the properties that some contributing
field asks for, and have no list at all if there is none. -/
theorem required_names_of_record (env : Env) (history : List Call) (name : String) (d : Definition)
    (hd : env.catalog.record? name = some d) :
    (d.holdsAlternatives = false →
      ∃ s, ((Call.generate name).perform env (Session.after env {} history)).1 = some s ∧
        env.ListsRequired [] d s) ∧
    ∀ t claimed, t.name? = some name → claimed ≠ [] →
      ∃ s, ((Call.requestBody t claimed).perform env (Session.after env {} history)).1 = some s ∧
        env.ListsRequired claimed d s := by
  obtain ⟨htype, hrecord⟩ := Catalog.record?_eq_some.1 hd
  have hself : env.catalog.type? d.name = some d := Catalog.name_of_type? htype ▸ htype
  have hsettled := settled_after env history
  constructor
  · intro hfields
    refine ⟨_, ?_, Env.listsRequired_objectSchema hself []⟩
    rw [perform_eq_answer hsettled, Call.answer, htype, Option.map_some,
      env.component_of_record hrecord hfields]
  · intro t claimed hname hclaimed
    refine ⟨_, ?_, Env.listsRequired_objectSchema hself claimed⟩
    rw [perform_eq_answer hsettled, Call.answer, Env.requestBody_of_claimed hname hd hclaimed]

/-- The name that two records of a circle have in common is required although only one of them asks
for it. -/
theorem required_names_of_profile :
    profiles.catalog.record? "Profile" = some profile ∧ profile.holdsAlternatives = false ∧
      (∃ s, ((Call.generate "Profile").perform profiles {}).1 = some s ∧
        "id" ∈ s.required.getD []) ∧
      ∃ s, ((Call.requestBody (.named "Profile") ["label"]).perform profiles {}).1 = some s ∧
        "id" ∈ s.required.getD [] ∧ "label" ∉ s.required.getD [] := by
  have hrecord : profiles.catalog.record? "Profile" = some profile := rfl
  have hfields : profile.holdsAlternatives = false := by decide
  have hid (excluded : List String) (hkept : "id" ∉ excluded) :
      ∃ f, profiles.Contributes excluded profile "id" f ∧ Directive.Has f.directive "required" ∧
        ¬ Directive.Has f.directive "omitempty" := by
    refine ⟨{ Field.plain "id" (.named "String") with directive := "required" }, ?_, ?_⟩
    · exact ⟨⟨profile, .refl, List.mem_cons_self⟩, rfl, rfl, rfl, hkept⟩
    · exact (Directive.isRequired_iff_has "required").1 (by decide)
  obtain ⟨hcomponent, hbody⟩ := required_names_of_record profiles [] "Profile" profile hrecord
  obtain ⟨s, hs, hlists⟩ := hcomponent hfields
  obtain ⟨t, ht, hlists'⟩ := hbody (.named "Profile") ["label"] rfl (List.cons_ne_nil _ _)
  refine ⟨hrecord, hfields, ⟨s, hs, ?_⟩, t, ht, ?_, ?_⟩
  · exact (hlists.mem_iff "id").2 (hid [] List.not_mem_nil)
  · exact (hlists'.mem_iff "id").2 (hid ["label"] (by decide))
  · rw [hlists'.mem_iff]
    rintro ⟨f, hf, _⟩
    exact hf.kept List.mem_cons_self

end Session

end ApiAtlas

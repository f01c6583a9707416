import ApiAtlas.Proofs.Discriminator
import ApiAtlas.Proofs.History

/-!
# Request bodies without claimed names

The names that a path claims are left out while the fields of a record and of all that it embeds are
gone through. This is the same as making the component of the record first and leaving the names out
of the result: fields of one name are kept or left out together, so which of them counts does not
change, and neither does the order of the required names.
-/

namespace ApiAtlas

/-- Making a table commutes with leaving out keys. -/
theorem Keyed.ofList_filter {α : Type} (p : String → Bool) (entries : List (String × α)) :
    ofList (entries.filter fun entry ↦ p entry.1) =
      (ofList entries).filter fun entry ↦ p entry.1 := by
  apply eq_of_get? (sorted_ofList _) ((sorted_ofList entries).filter _)
  intro key
  rw [get?_filter, get?_ofList, get?_ofList, ← List.filter_reverse, get?_filter]

/-- An object schema without some names; required names are left out as a whole if none remains. -/
def Schema.without (claimed : List String) (s : Schema) : Schema :=
  { s with
    properties := s.properties.map fun table ↦
      table.filter fun entry ↦ !claimed.contains entry.1
    required := (s.required.map fun names ↦
      names.filter fun name ↦ !claimed.contains name).filter fun names ↦ !names.isEmpty }

theorem Schema.notMem_keys_without {claimed : List String} {name : String} (h : name ∈ claimed)
    (s : Schema) : name ∉ Keyed.keys ((s.without claimed).properties.getD []) := by
  rw [Keyed.mem_keys_iff, not_not]
  cases hproperties : s.properties with
  | none => simp [without, hproperties]
  | some table =>
    simp only [without, hproperties, Option.map_some, Option.getD_some]
    rw [Keyed.get?_filter fun key ↦ !claimed.contains key]
    simp [h]

theorem Schema.notMem_required_without {claimed : List String} {name : String} (h : name ∈ claimed)
    (s : Schema) : name ∉ (s.without claimed).required.getD [] := by
  cases hrequired : s.required with
  | none => simp [without, hrequired]
  | some names =>
    simp only [without, hrequired, Option.map_some]
    rw [Option.filter]
    split
    · simp [h]
    · simp

namespace Env

variable {env : Env}

theorem bodyFields_eq_filter (env : Env) (claimed : List String) (d : Definition) :
    env.bodyFields claimed d =
      (env.bodyFields [] d).filter fun f ↦ !claimed.contains f.wireName := by
  unfold bodyFields
  rw [List.filter_filter]
  apply List.filter_congr
  intro f _
  simp [Bool.and_comm]

/-- A field adds its name if it is required and its name is not there yet. -/
theorem requiredNames_concat (fields : List Field) (f : Field) :
    requiredNames (fields ++ [f]) =
      if f.isRequired && !(requiredNames fields).contains f.wireName then
        requiredNames fields ++ [f.wireName]
      else requiredNames fields :=
  List.foldl_append

/-- Leaving out names does not change the order of the other required names. -/
theorem requiredNames_filter (p : String → Bool) (fields : List Field) :
    requiredNames (fields.filter fun f ↦ p f.wireName) = (requiredNames fields).filter p := by
  induction fields using List.reverseRecOn with
  | nil => rfl
  | append_singleton fields f ih =>
    rw [List.filter_append, requiredNames_concat]
    cases hp : p f.wireName with
    | false =>
      rw [List.filter_singleton, hp, cond_false, List.append_nil, ih]
      split <;> simp [hp]
    | true =>
      have hcontains : ((requiredNames fields).filter p).contains f.wireName =
          (requiredNames fields).contains f.wireName := by
        simp [hp]
      rw [List.filter_singleton, hp, cond_true, requiredNames_concat, ih, hcontains]
      split <;> simp [hp]

theorem nonempty?_filter {α : Type} (p : α → Bool) (l : List α) :
    nonempty? (l.filter p) =
      ((nonempty? l).map (List.filter p)).filter fun kept ↦ !kept.isEmpty := by
  cases l with
  | nil => rfl
  | cons a l =>
    have hfull : nonempty? (a :: l) = some (a :: l) := rfl
    rw [hfull, Option.map_some]
    cases (a :: l).filter p <;> rfl

/-- Leaving names out of the fields is leaving them out of the schema. -/
theorem objectSchema_eq_without (env : Env) (claimed : List String) (d : Definition) :
    (env.objectSchema claimed d).value = (env.objectSchema [] d).value.without claimed := by
  have hentries : (env.properties (env.bodyFields claimed d)).value =
      (env.properties (env.bodyFields [] d)).value.filter
        fun entry ↦ !claimed.contains entry.1 := by
    rw [value_properties, value_properties, bodyFields_eq_filter, List.filter_map]
    rfl
  have hproperties := Keyed.ofList_filter (fun key ↦ !claimed.contains key)
    (env.properties (env.bodyFields [] d)).value
  have hrequired : nonempty? (requiredNames (env.bodyFields claimed d)) =
      ((nonempty? (requiredNames (env.bodyFields [] d))).map
        (List.filter fun name ↦ !claimed.contains name)).filter fun kept ↦ !kept.isEmpty := by
    rw [bodyFields_eq_filter, requiredNames_filter fun name ↦ !claimed.contains name,
      nonempty?_filter]
  simp only [objectSchema, Traced.value_bind, Traced.value_pure, Schema.without, Schema.typed,
    Option.map_some, hentries, hproperties, hrequired]

theorem component_of_record (env : Env) {d : Definition} (hrecord : d.isRecord = true)
    (hfields : d.holdsAlternatives = false) : env.component d = env.objectSchema [] d := by
  have hkind : d.kind = .record := beq_iff_eq.1 hrecord
  unfold component
  simp [hkind, hfields]

theorem requestBody_of_claimed {t : TypeExpr} {name : String} {d : Definition}
    {claimed : List String} (hname : t.name? = some name) (hd : env.catalog.record? name = some d)
    (hclaimed : claimed ≠ []) : env.requestBody t claimed = env.objectSchema claimed d := by
  cases claimed with
  | nil => exact absurd rfl hclaimed
  | cons first rest => simp only [requestBody, hname, Option.bind_some, hd]

theorem requestBody_nil (env : Env) (t : TypeExpr) : env.requestBody t [] = env.schemaOf t := by
  unfold requestBody
  split
  · next hclaimed => simp at hclaimed
  · rfl

theorem schemaOf_known_name {t : TypeExpr} {name : String} {d : Definition}
    (hname : t.name? = some name) (hd : env.catalog.type? name = some d)
    (hown : TypeExpr.isBuiltIn name = false) :
    (env.schemaOf t).value = Schema.reference name ∧
      Step.mention name ∈ (env.schemaOf t).steps := by
  simp only [TypeExpr.isBuiltIn, Bool.or_eq_false_iff, Option.isSome_eq_false_iff,
    Option.isNone_iff_eq_none] at hown
  rw [schemaOf_of_name? hname]
  simp [schemaOf, hown.1, nameSchema, hown.2, Catalog.hasType, hd]

end Env

namespace Session

/-- The body of a request that names a record, in any state of the generator. With claimed names it
is the component of the record without these names, and otherwise a reference to that component,
which is then made. -/
theorem request_body_is_component_without_claimed (env : Env) (history other : List Call)
    (t : TypeExpr) (name : String) (d : Definition) (claimed : List String)
    (hname : t.name? = some name) (hd : env.catalog.record? name = some d)
    (hfields : d.holdsAlternatives = false) :
    ∃ component,
      ((Call.generate name).perform env (Session.after env {} other)).1 = some component ∧
      (claimed ≠ [] →
        ((Call.requestBody t claimed).perform env (Session.after env {} history)).1 =
          some (component.without claimed)) ∧
      (TypeExpr.isBuiltIn name = false →
        ((Call.requestBody t []).perform env (Session.after env {} history)).1 =
          some (Schema.reference name) ∧
        ((Call.requestBody t []).perform env (Session.after env {} history)).2.slot? name =
          some (.ready component)) ∧
      ∀ body, ((Call.requestBody t claimed).perform env (Session.after env {} history)).1 =
          some body →
        ∀ key ∈ claimed, key ∉ Keyed.keys (body.properties.getD []) ∧
          key ∉ body.required.getD [] := by
  obtain ⟨htype, hrecord⟩ := Catalog.record?_eq_some.1 hd
  have hcomponent := env.component_of_record hrecord hfields
  have hsettled := settled_after env history
  have hclaimed : claimed ≠ [] →
      ((Call.requestBody t claimed).perform env (Session.after env {} history)).1 =
        some ((env.component d).value.without claimed) := by
    intro hne
    rw [perform_eq_answer hsettled, Call.answer, Env.requestBody_of_claimed hname hd hne,
      Env.objectSchema_eq_without, hcomponent]
  refine ⟨(env.component d).value, ?_, hclaimed, ?_, ?_⟩
  · rw [perform_eq_answer (settled_after env other), Call.answer, htype, Option.map_some]
  · intro hown
    obtain ⟨hvalue, hmention⟩ := Env.schemaOf_known_name hname htype hown
    have hruns := (Call.requestBody t []).runs_perform env (Session.after env {} history)
    have hstep : Step.mention name ∈ (Call.requestBody t []).steps env := by
      rw [Call.steps, Env.requestBody_nil]
      exact hmention
    have hmade := hruns.covers hstep (by simp [htype])
    obtain ⟨slot, hslot⟩ := Option.ne_none_iff_exists'.1 hmade
    obtain ⟨e, he, rfl⟩ := (hruns.settled hsettled).ready name slot hslot
    obtain rfl := Option.some.inj (htype.symm.trans he)
    refine ⟨?_, hslot⟩
    rw [perform_eq_answer hsettled, Call.answer, Env.requestBody_nil, hvalue]
  · intro body hbody key hkey
    have hne : claimed ≠ [] := List.ne_nil_of_mem hkey
    rw [hclaimed hne] at hbody
    rw [← Option.some.inj hbody]
    exact ⟨Schema.notMem_keys_without hkey _, Schema.notMem_required_without hkey _⟩

/-- A record with a field of its own and one of the record that it embeds under the same name. -/
def profile : Definition where
  name := "Profile"
  fields := [{ Field.plain "id" (.named "String") with directive := "required" },
    { Field.plain "label" (.named "String") with directive := "required" }]
  embedded := [.named "Revision"]

/-- A record that leads back to the one that embeds it. -/
def revision : Definition where
  name := "Revision"
  fields := [.plain "id" (.named "u64"), .plain "note" (.named "String")]
  embedded := [.generic "Box" [.named "Profile"]]

/-- An API of these two records. -/
def profiles : Env :=
  ⟨{ types := [profile, revision] }, {}⟩

theorem request_body_of_profile :
    profiles.catalog.record? "Profile" = some profile ∧ profile.holdsAlternatives = false ∧
      TypeExpr.isBuiltIn "Profile" = false ∧
      ∃ component body,
        ((Call.generate "Profile").perform profiles
          (Session.after profiles {} [.schemaOf (.named "Revision")])).1 = some component ∧
        ((Call.requestBody (.generic "Box" [.named "Profile"]) ["id"]).perform profiles {}).1 =
          some body ∧
        body = component.without ["id"] ∧ "id" ∉ Keyed.keys (body.properties.getD []) ∧
        ((Call.requestBody (.named "Profile") []).perform profiles {}).1 =
          some (Schema.reference "Profile") := by
  have hrecord : profiles.catalog.record? "Profile" = some profile := rfl
  have hfields : profile.holdsAlternatives = false := by decide
  have hown : TypeExpr.isBuiltIn "Profile" = false := by decide
  have hbody (t : TypeExpr) (ht : t.name? = some "Profile") :=
    request_body_is_component_without_claimed profiles [] [.schemaOf (.named "Revision")] t
      "Profile" profile ["id"] ht hrecord hfields
  obtain ⟨component, hmade, hinlined, _, hclaimed⟩ :=
    hbody (.generic "Box" [.named "Profile"]) (by decide)
  obtain ⟨_, _, _, hreference, _⟩ := hbody (.named "Profile") rfl
  have hwithout := hinlined (List.cons_ne_nil "id" [])
  exact ⟨hrecord, hfields, hown, component, component.without ["id"], hmade, hwithout, rfl,
    (hclaimed _ hwithout "id" List.mem_cons_self).1, (hreference hown).1⟩

end Session

end ApiAtlas

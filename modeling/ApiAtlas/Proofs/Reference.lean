import ApiAtlas.Proofs.Mention

/-!
# References of schemas

A schema refers to a component if it, or a schema anywhere inside it, holds the reference. Making a
schema mentions every component that the schema refers to. Directives change schemas all over but
bring in no reference: what they build anew refers to nothing.
-/

namespace ApiAtlas

namespace Schema

/-- The schemas directly inside a schema. -/
def children (s : Schema) : List Schema :=
  (s.properties.getD []).map Prod.snd ++ s.items.toList ++ s.additionalProperties.toList ++
    s.oneOf.getD [] ++ s.anyOf.getD [] ++ s.allOf.getD []

/-- A schema holds a reference, itself or at any depth. -/
inductive Refers : Schema → String → Prop
  | own {s : Schema} {ref : String} (h : s.ref = some ref) : Refers s ref
  | inside {s c : Schema} {ref : String} (hc : c ∈ s.children) (h : Refers c ref) : Refers s ref

theorem refers_iff (s : Schema) (ref : String) :
    s.Refers ref ↔ s.ref = some ref ∨ ∃ c ∈ s.children, c.Refers ref := by
  constructor
  · rintro (h | ⟨hc, h⟩)
    · exact .inl h
    · exact .inr ⟨_, hc, h⟩
  · rintro (h | ⟨c, hc, h⟩)
    · exact .own h
    · exact .inside hc h

theorem Refers.congr {s s' : Schema} {ref : String} (h : s.Refers ref) (href : s.ref = s'.ref)
    (hchildren : s.children = s'.children) : s'.Refers ref := by
  rw [refers_iff] at h ⊢
  rw [← href, ← hchildren]
  exact h

theorem not_refers_empty (ref : String) : ¬ empty.Refers ref := by
  rw [refers_iff]
  simp [empty, children]

theorem refers_of_describe {s : Schema} {line ref : String} (h : (s.describe line).Refers ref) :
    s.Refers ref := by
  unfold describe at h
  split at h
  · split at h <;> exact h.congr rfl rfl
  · exact h.congr rfl rfl

theorem refers_of_documented {s : Schema} {doc : Option String} {ref : String}
    (h : ((doc.map s.describe).getD s).Refers ref) : s.Refers ref := by
  cases doc with
  | none => exact h
  | some line => exact refers_of_describe h

/-- A schema that keeps its own reference and gets new schemas inside refers to no more than before
and the new ones do. -/
theorem Refers.of_added {s s' : Schema} {ref : String} (h : s'.Refers ref) (added : List Schema)
    (href : s'.ref = s.ref) (hchildren : ∀ c ∈ s'.children, c ∈ s.children ∨ c ∈ added) :
    s.Refers ref ∨ ∃ c ∈ added, c.Refers ref := by
  rw [refers_iff] at h
  rcases h with hown | ⟨c, hc, hinside⟩
  · exact .inl (.own (href ▸ hown))
  · rcases hchildren c hc with hold | hnew
    · exact .inl (.inside hold hinside)
    · exact .inr ⟨c, hnew, hinside⟩

theorem mem_children_of_items {s c : Schema} (h : s.items = some c) : c ∈ s.children := by
  simp [children, h]

theorem mem_children_of_additionalProperties {s c : Schema}
    (h : s.additionalProperties = some c) : c ∈ s.children := by
  simp [children, h]

end Schema

/-! ## Directives -/

namespace Directive

theorem refers_of_addPattern {text ref : String} {s : Schema}
    (h : (addPattern text s).Refers ref) : s.Refers ref := by
  unfold addPattern at h
  split at h
  · exact h.congr rfl rfl
  · have hadded := h.of_added (s := s) [{ pattern := some text }] rfl
      (by simp [Schema.children, or_assoc])
    rcases hadded with hold | ⟨c, hc, hinside⟩
    · exact hold
    · obtain rfl := List.mem_singleton.1 hc
      rw [Schema.refers_iff] at hinside
      simp [Schema.children] at hinside

theorem refers_of_apply (edit : Edit) {s : Schema} {ref : String}
    (h : (edit.apply s).Refers ref) : s.Refers ref := by
  induction edit generalizing s with
  | pattern text => exact refers_of_addPattern h
  | line text => exact Schema.refers_of_describe h
  | both first second ihFirst ihSecond => exact ihFirst (ihSecond h)
  | _ => exact h.congr rfl rfl

theorem refers_of_items {s c : Schema} {ref : String}
    (h : Schema.Refers { s with items := some c } ref) : s.Refers ref ∨ c.Refers ref := by
  have hadded := h.of_added (s := s) [c] rfl (by simp only [Schema.children]; grind)
  simpa using hadded

theorem refers_of_additionalProperties {s c : Schema} {ref : String}
    (h : Schema.Refers { s with additionalProperties := some c } ref) :
    s.Refers ref ∨ c.Refers ref := by
  have hadded := h.of_added (s := s) [c] rfl (by simp only [Schema.children]; grind)
  simpa using hadded

theorem refers_of_getD_empty {s : Schema} {part : Option Schema} {ref : String}
    (hpart : ∀ c, part = some c → c ∈ s.children) (h : (part.getD .empty).Refers ref) :
    s.Refers ref := by
  cases part with
  | none => exact absurd h (Schema.not_refers_empty ref)
  | some c => exact .inside (hpart c rfl) h

theorem refers_of_applyTokens (custom : List (String × String)) (tokens : List Token)
    (wire : WireType) {s : Schema} {ref : String}
    (h : (applyTokens custom tokens wire s).1.Refers ref) : s.Refers ref := by
  induction tokens generalizing wire s with
  | nil => exact h
  | cons token rest ih =>
    unfold applyTokens at h
    split at h
    · split at h
      · rcases refers_of_additionalProperties h with hold | hedited
        · exact hold
        · exact refers_of_getD_empty (fun _ ↦ Schema.mem_children_of_additionalProperties)
            (ih _ hedited)
      · rcases refers_of_items h with hold | hedited
        · exact hold
        · exact refers_of_getD_empty (fun _ ↦ Schema.mem_children_of_items) (ih _ hedited)
    · split at h
      · next edit _ => exact refers_of_apply edit (ih wire h)
      · exact ih wire h

/-- A directive brings in no reference. -/
theorem refers_of_directive (custom : List (String × String)) (directive : String)
    (wire : WireType) {s : Schema} {ref : String}
    (h : (apply custom directive wire s).1.Refers ref) : s.Refers ref := by
  unfold apply at h
  split at h
  · next first second rest _ =>
    have hadded := h.of_added (s := s)
      ((first :: second :: rest).map fun group ↦ (applyTokens custom (tokens group) wire .empty).1)
      rfl (by simp only [Schema.children]; grind)
    rcases hadded with hold | ⟨c, hc, hinside⟩
    · exact hold
    · obtain ⟨group, _, rfl⟩ := List.mem_map.1 hc
      exact absurd (refers_of_applyTokens custom _ wire hinside) (Schema.not_refers_empty ref)
  · exact refers_of_applyTokens custom _ wire h

end Directive

/-! ## References are mentioned -/

namespace Env

variable {env : Env}

/-- Every reference of a schema is the one to a known component that the steps mention. -/
def Grounds (env : Env) (steps : List Step) (s : Schema) : Prop :=
  ∀ ref, s.Refers ref → ∃ name, ref = Schema.componentRef name ∧ Step.mention name ∈ steps ∧
    env.catalog.hasType name = true

theorem Grounds.mono {steps steps' : List Step} {s : Schema} (h : env.Grounds steps s)
    (hsteps : steps ⊆ steps') : env.Grounds steps' s := by
  intro ref href
  obtain ⟨name, hname, hmention, hknown⟩ := h ref href
  exact ⟨name, hname, hsteps hmention, hknown⟩

theorem Grounds.of_refers {steps : List Step} {s s' : Schema} (h : env.Grounds steps s)
    (hrefers : ∀ ref, s'.Refers ref → s.Refers ref) : env.Grounds steps s' :=
  fun ref href ↦ h ref (hrefers ref href)

theorem Grounds.congr {steps : List Step} {s s' : Schema} (h : env.Grounds steps s)
    (href : s'.ref = s.ref) (hchildren : s'.children = s.children) : env.Grounds steps s' :=
  h.of_refers fun _ hr ↦ hr.congr href hchildren

/-- A schema without a reference of its own is grounded if the schemas inside it are. -/
theorem grounds_of_children {steps : List Step} {s : Schema} (href : s.ref = none)
    (h : ∀ c ∈ s.children, env.Grounds steps c) : env.Grounds steps s := by
  intro ref hrefers
  rw [Schema.refers_iff, href] at hrefers
  rcases hrefers with hown | ⟨c, hc, hinside⟩
  · simp at hown
  · exact h c hc ref hinside

theorem grounds_leaf {steps : List Step} {s : Schema} (href : s.ref = none)
    (hchildren : s.children = []) : env.Grounds steps s :=
  grounds_of_children href (by simp [hchildren])

theorem grounds_nameSchema (env : Env) (name : String) :
    env.Grounds (env.nameSchema name).steps (env.nameSchema name).value := by
  unfold nameSchema
  split
  · exact grounds_leaf rfl rfl
  · split
    · next hknown =>
      intro ref href
      rw [Schema.refers_iff] at href
      simp only [Schema.reference, Schema.children, Traced.value_bind, Traced.value_pure,
        Option.some.injEq] at href
      rcases href with rfl | ⟨c, hc, _⟩
      · exact ⟨name, rfl, by simp, hknown⟩
      · simp at hc
    · exact grounds_leaf rfl rfl

/-- A choice is grounded if its alternatives are. -/
theorem grounds_unionSchema {steps : List Step} {alternatives : List Schema} (u : Union)
    (h : ∀ a ∈ alternatives, env.Grounds steps a) :
    env.Grounds steps (unionSchema u alternatives) :=
  grounds_of_children rfl (by simpa [unionSchema, Schema.children] using h)

mutual

theorem grounds_schemaOf (env : Env) (t : TypeExpr) :
    env.Grounds (env.schemaOf t).steps (env.schemaOf t).value := by
  cases t with
  | named name =>
    rw [schemaOf]
    split
    · exact grounds_leaf rfl rfl
    · exact grounds_nameSchema env name
  | optional inner =>
    have hinner := grounds_schemaOf env inner
    rw [schemaOf]
    exact (hinner.mono (by simp)).congr rfl rfl
  | sequence element =>
    have helement := grounds_schemaOf env element
    rw [schemaOf]
    refine grounds_of_children rfl ?_
    simpa [Schema.array, Schema.typed, Schema.children] using helement
  | map key value =>
    have hvalue := grounds_schemaOf env value
    rw [schemaOf]
    refine grounds_of_children rfl ?_
    simpa [Schema.typed, Schema.children] using hvalue
  | generic base args =>
    by_cases hplain : ∀ a, args = [a] → TypeExpr.wrappers.contains base = true → False
    · rw [schemaOf_generic env hplain]
      split
      · have hargs := grounds_schemasOf env args
        apply grounds_unionSchema
        intro a ha
        exact (hargs a ha).mono (by simp)
      · exact grounds_nameSchema env base
    · push Not at hplain
      obtain ⟨a, rfl, hwrapper, -⟩ := hplain
      rw [schemaOf_wrapper env a hwrapper]
      exact grounds_schemaOf env a

theorem grounds_schemasOf (env : Env) (ts : List TypeExpr) :
    ∀ s ∈ (env.schemasOf ts).value, env.Grounds (env.schemasOf ts).steps s := by
  cases ts with
  | nil => simp [schemasOf]
  | cons t rest =>
    have hfirst := grounds_schemaOf env t
    have hrest := grounds_schemasOf env rest
    intro s hs
    simp only [schemasOf, Traced.value_bind, Traced.value_pure, Traced.steps_bind,
      Traced.steps_pure, List.append_nil, List.mem_cons] at hs ⊢
    rcases hs with rfl | hs
    · exact hfirst.mono (by simp)
    · exact (hrest s hs).mono (by simp)

end

theorem grounds_resolvedUnion (env : Env) (label : String) (property : Option String) (u : Union) :
    let found := env.resolved label property u
    let alternatives := env.schemasOf found.value.alternatives
    env.Grounds (found.steps ++ alternatives.steps)
      (unionSchema found.value alternatives.value) := by
  intro found alternatives
  apply grounds_unionSchema
  intro a ha
  exact (grounds_schemasOf env found.value.alternatives a ha).mono (by simp [alternatives])

/-! ## Fields -/

theorem grounds_fieldBase (env : Env) (f : Field) :
    env.Grounds (env.fieldBase f).steps (env.fieldBase f).value := by
  unfold fieldBase
  split
  · exact grounds_schemaOf env f.type
  · split
    · next property _ _ u _ =>
      have hunion := grounds_resolvedUnion env f.type.payload.1.render (some property) u
      exact (hunion.mono (by simp)).congr rfl rfl
    · exact (grounds_schemaOf env f.type).mono (by simp)

/-- Documentation and directives of a field add no reference. -/
theorem refers_of_finishField {f : Field} {base : Schema} {ref : String}
    (h : (env.finishField f base).value.Refers ref) : base.Refers ref := by
  unfold finishField at h
  simp only at h
  split at h
  · exact Schema.refers_of_documented (h.congr rfl rfl)
  · split at h
    · have happlied := Directive.refers_of_directive _ _ _ h
      exact Schema.refers_of_documented (happlied.congr rfl rfl)
    · have happlied := Directive.refers_of_directive _ _ _ (Schema.refers_of_describe h)
      exact Schema.refers_of_documented (happlied.congr rfl rfl)

theorem grounds_fieldSchema (env : Env) (f : Field) :
    env.Grounds (env.fieldSchema f).steps (env.fieldSchema f).value := by
  rw [fieldSchema_eq_bind]
  exact ((grounds_fieldBase env f).of_refers fun _ ↦ refers_of_finishField).mono (by simp)

theorem grounds_properties (env : Env) (fields : List Field) :
    ∀ entry ∈ (env.properties fields).value,
      env.Grounds (env.properties fields).steps entry.2 := by
  induction fields with
  | nil => simp [properties]
  | cons f rest ih =>
    have hfirst := grounds_fieldSchema env f
    intro entry hentry
    simp only [properties, Traced.value_bind, Traced.value_pure, Traced.steps_bind,
      Traced.steps_pure, List.append_nil, List.mem_cons] at hentry ⊢
    rcases hentry with rfl | hentry
    · exact hfirst.mono (by simp)
    · exact (ih entry hentry).mono (by simp)

/-! ## Components and request bodies -/

theorem grounds_objectSchema (env : Env) (excluded : List String) (d : Definition) :
    env.Grounds (env.objectSchema excluded d).steps (env.objectSchema excluded d).value := by
  have hproperties := grounds_properties env (env.bodyFields excluded d)
  refine grounds_of_children rfl ?_
  intro c hc
  simp only [objectSchema, Schema.typed, Schema.children, Traced.value_bind, Traced.value_pure,
    Option.getD_some, Option.getD_none, Option.toList_none, List.append_nil, List.mem_map] at hc
  obtain ⟨entry, hentry, rfl⟩ := hc
  exact (hproperties entry (Keyed.mem_of_mem_ofList hentry)).mono (by simp [objectSchema])

theorem refers_of_finishAlias {d : Definition} {base : Schema} {ref : String}
    (h : (finishAlias d base).Refers ref) : base.Refers ref := by
  unfold finishAlias at h
  have hvalued := Schema.refers_of_documented h
  split at hvalued
  · exact hvalued
  · exact hvalued.congr rfl rfl

theorem grounds_component (env : Env) (d : Definition) :
    env.Grounds (env.component d).steps (env.component d).value := by
  unfold component
  split
  · split
    · have halternatives := grounds_schemasOf env (d.fields.map fun f ↦ f.type.payload.1)
      refine grounds_of_children rfl ?_
      simpa [choiceSchema, Schema.children] using halternatives
    · exact grounds_objectSchema env [] d
  · rw [aliasSchema_eq_bind]
    have hbase : env.Grounds (env.aliasBase d).steps (env.aliasBase d).value := by
      unfold aliasBase
      split
      · exact grounds_schemaOf env _
      · exact grounds_leaf rfl rfl
    refine (hbase.of_refers fun ref href ↦ ?_).mono (by simp)
    exact refers_of_finishAlias href
  · unfold unionAliasSchema
    split
    · exact grounds_leaf rfl rfl
    · next u _ =>
      have hunion := grounds_resolvedUnion env d.name d.discriminatorProperty u
      exact (hunion.mono (by simp)).congr rfl rfl

theorem grounds_requestBody (env : Env) (t : TypeExpr) (claimed : List String) :
    env.Grounds (env.requestBody t claimed).steps (env.requestBody t claimed).value := by
  unfold requestBody
  split
  · exact grounds_objectSchema env _ _
  · exact grounds_schemaOf env t

end Env

end ApiAtlas

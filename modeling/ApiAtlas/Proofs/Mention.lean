import ApiAtlas.Proofs.Embedding
import ApiAtlas.Proofs.Registry

/-!
# What types mention

The graph of mentions, said on type expressions and definitions alone. An expression mentions the
names under its slots, or its own name if the catalog has it; a field mentions what its type does,
or the alternatives of the union that its discriminator is about; a definition mentions what the
part of it that reaches its component does. The steps of a schema mention exactly these names.
-/

namespace ApiAtlas

theorem Schema.componentRef_inj {name other : String} :
    componentRef name = componentRef other ↔ name = other :=
  String.append_right_inj _

theorem TypeExpr.unwrapped_unwrapped (t : TypeExpr) : t.unwrapped.unwrapped = t.unwrapped := by
  fun_induction TypeExpr.unwrapped t with
  | case1 base a _ ih => exact ih
  | case2 base a hbase => rw [TypeExpr.unwrapped, if_neg hbase]
  | case3 t hother =>
    unfold TypeExpr.unwrapped
    split
    · exact absurd rfl (hother _ _)
    · rfl

/-- What stands in an optional, a sequence or a map. Keys of a map are left aside. -/
def TypeExpr.content? : TypeExpr → Option TypeExpr
  | .optional inner => some inner
  | .sequence element => some element
  | .map _ value => some value
  | _ => none

namespace Env

/-! ## Mentions of an expression -/

/-- The names that an expression mentions, seen through wrappers. The arguments of a generic type
count only if it is a union. -/
inductive Mentions (env : Env) : TypeExpr → String → Prop
  | alternative {t a : TypeExpr} {u : Union} {name : String}
      (hu : Union.detect? env.config.unionPrefix t = some u) (ha : a ∈ u.alternatives)
      (hname : Mentions env a name) : Mentions env t name
  | optional {t inner : TypeExpr} {name : String} (ht : t.unwrapped = .optional inner)
      (hname : Mentions env inner name) : Mentions env t name
  | element {t element : TypeExpr} {name : String} (ht : t.unwrapped = .sequence element)
      (hname : Mentions env element name) : Mentions env t name
  | value {t key value : TypeExpr} {name : String} (ht : t.unwrapped = .map key value)
      (hname : Mentions env value name) : Mentions env t name
  | own {t : TypeExpr} {name : String} (hu : Union.detect? env.config.unionPrefix t = none)
      (ht : t.unwrapped.base? = some name) (hunit : t.unwrapped.isUnit = false)
      (hprimitive : Primitive.ofName? name = none) (hknown : env.catalog.hasType name = true) :
      Mentions env t name

variable {env : Env}

/-- What is mentioned is in the catalog and is not the name of a primitive type. -/
theorem Mentions.isComponent {t : TypeExpr} {name : String} (h : env.Mentions t name) :
    Primitive.ofName? name = none ∧ env.catalog.hasType name = true := by
  induction h with
  | alternative _ _ _ ih => exact ih
  | optional _ _ ih => exact ih
  | element _ _ ih => exact ih
  | value _ _ ih => exact ih
  | own _ _ _ hprimitive hknown => exact ⟨hprimitive, hknown⟩

theorem Mentions.hasType {t : TypeExpr} {name : String} (h : env.Mentions t name) :
    env.catalog.hasType name = true :=
  h.isComponent.2

theorem detect?_congr {unionPrefix : String} {t t' : TypeExpr} (h : t.unwrapped = t'.unwrapped) :
    Union.detect? unionPrefix t = Union.detect? unionPrefix t' := by
  unfold Union.detect?
  rw [h]

/-- Only what stands under the wrappers counts. -/
theorem Mentions.congr {t t' : TypeExpr} {name : String} (h : t.unwrapped = t'.unwrapped)
    (hname : env.Mentions t name) : env.Mentions t' name := by
  cases hname with
  | alternative hu ha hname => exact .alternative (detect?_congr h ▸ hu) ha hname
  | optional ht hname => exact .optional (h ▸ ht) hname
  | element ht hname => exact .element (h ▸ ht) hname
  | value ht hname => exact .value (h ▸ ht) hname
  | own hu ht hunit hprimitive hknown =>
    exact .own (detect?_congr h ▸ hu) (h ▸ ht) (h ▸ hunit) hprimitive hknown

theorem mentions_congr {t t' : TypeExpr} (h : t.unwrapped = t'.unwrapped) (name : String) :
    env.Mentions t name ↔ env.Mentions t' name :=
  ⟨.congr h, .congr h.symm⟩

/-- An optional, a sequence or a map mentions what stands in it does. -/
theorem mentions_content {t inner : TypeExpr} (h : t.unwrapped.content? = some inner)
    (name : String) : env.Mentions t name ↔ env.Mentions inner name := by
  constructor
  · intro hname
    cases hname with
    | alternative hu =>
      unfold Union.detect? at hu
      split at hu
      · next ht => simp [ht, TypeExpr.content?] at h
      · simp at hu
    | optional ht hname | element ht hname | value ht hname =>
      rw [ht] at h
      obtain rfl := Option.some.inj h
      exact hname
    | own _ ht =>
      unfold TypeExpr.base? at ht
      split at ht
      · next hbase => simp [hbase, TypeExpr.content?] at h
      · next hbase => simp [hbase, TypeExpr.content?] at h
      · simp at ht
  · intro hname
    unfold TypeExpr.content? at h
    split at h
    · next ht => exact .optional ht (Option.some.inj h ▸ hname)
    · next ht => exact .element ht (Option.some.inj h ▸ hname)
    · next ht => exact .value ht (Option.some.inj h ▸ hname)
    · simp at h

/-- A union mentions what its alternatives mention. -/
theorem mentions_union {t : TypeExpr} {u : Union}
    (hu : Union.detect? env.config.unionPrefix t = some u) (name : String) :
    env.Mentions t name ↔ ∃ a ∈ u.alternatives, env.Mentions a name := by
  constructor
  · intro h
    cases h with
    | alternative hu' ha hname =>
      obtain rfl := Option.some.inj (hu.symm.trans hu')
      exact ⟨_, ha, hname⟩
    | optional ht => simp [Union.detect?, ht] at hu
    | element ht => simp [Union.detect?, ht] at hu
    | value ht => simp [Union.detect?, ht] at hu
    | own hu' => simp [hu] at hu'
  · rintro ⟨a, ha, hname⟩
    exact .alternative hu ha hname

/-- An expression with a name of its own that is no union mentions at most that name. -/
theorem mentions_base {t : TypeExpr} {base : String}
    (hu : Union.detect? env.config.unionPrefix t = none) (ht : t.unwrapped.base? = some base)
    (name : String) :
    env.Mentions t name ↔ name = base ∧ t.unwrapped.isUnit = false ∧
      Primitive.ofName? base = none ∧ env.catalog.hasType base = true := by
  constructor
  · intro h
    cases h with
    | alternative hu' => simp [hu] at hu'
    | optional ht' => simp [ht', TypeExpr.base?] at ht
    | element ht' => simp [ht', TypeExpr.base?] at ht
    | value ht' => simp [ht', TypeExpr.base?] at ht
    | own _ ht' hunit hprimitive hknown =>
      obtain rfl := Option.some.inj (ht.symm.trans ht')
      exact ⟨rfl, hunit, hprimitive, hknown⟩
  · rintro ⟨rfl, hunit, hprimitive, hknown⟩
    exact .own hu ht hunit hprimitive hknown

/-- An optional slot around an expression changes nothing. -/
theorem mentions_payload (t : TypeExpr) (name : String) :
    env.Mentions t.payload.1 name ↔ env.Mentions t name := by
  unfold TypeExpr.payload
  split
  · next inner ht =>
    calc
      _ ↔ env.Mentions inner name := mentions_congr inner.unwrapped_unwrapped name
      _ ↔ env.Mentions (.optional inner) name := (mentions_content rfl name).symm
      _ ↔ env.Mentions t.unwrapped name := by rw [ht]
      _ ↔ env.Mentions t name := mentions_congr t.unwrapped_unwrapped name
  · exact mentions_congr t.unwrapped_unwrapped name

/-! ## Steps of an expression -/

theorem mention_mem_nameSchema_iff (env : Env) (base name : String) :
    Step.mention name ∈ (env.nameSchema base).steps ↔
      name = base ∧ Primitive.ofName? base = none ∧ env.catalog.hasType base = true := by
  unfold nameSchema
  cases hprimitive : Primitive.ofName? base with
  | some p => simp
  | none =>
    by_cases hknown : env.catalog.hasType base = true <;> simp [hknown]

theorem mention_notMem_resolved (env : Env) (label : String) (property : Option String) (u : Union)
    (name : String) : Step.mention name ∉ (env.resolved label property u).steps := by
  simp [resolved]

theorem alternatives_of_detect? {unionPrefix base : String} {args : List TypeExpr} {u : Union}
    (h : (TypeExpr.generic base args).unwrapped = .generic base args)
    (hu : Union.detect? unionPrefix (.generic base args) = some u) : u.alternatives = args := by
  unfold Union.detect? at hu
  rw [h] at hu
  simp only at hu
  split at hu
  · split at hu
    · exact (Option.some.inj hu) ▸ rfl
    · simp at hu
  · simp at hu

theorem unwrapped_generic {base : String} {args : List TypeExpr}
    (h : ∀ a, args = [a] → TypeExpr.wrappers.contains base = true → False) :
    (TypeExpr.generic base args).unwrapped = .generic base args := by
  unfold TypeExpr.unwrapped
  split
  · next b a heq =>
    obtain ⟨rfl, rfl⟩ := TypeExpr.generic.inj heq
    rw [if_neg (h a rfl)]
  · rfl

theorem schemaOf_wrapper (env : Env) {base : String} (a : TypeExpr)
    (h : TypeExpr.wrappers.contains base = true) :
    env.schemaOf (.generic base [a]) = env.schemaOf a := by
  rw [schemaOf]
  exact h

/-- Wrappers leave no trace in the schema. -/
theorem schemaOf_unwrapped (env : Env) (t : TypeExpr) :
    env.schemaOf t.unwrapped = env.schemaOf t := by
  fun_induction TypeExpr.unwrapped t with
  | case1 base a hbase ih => rw [schemaOf_wrapper env a hbase, ih]
  | case2 => rfl
  | case3 => rfl

/-- A wrapped name has the schema of the name. -/
theorem schemaOf_of_name? {t : TypeExpr} {name : String} (h : t.name? = some name) :
    env.schemaOf t = env.schemaOf (.named name) := by
  unfold TypeExpr.name? at h
  split at h
  · next own ht => rw [← schemaOf_unwrapped, ht, Option.some.inj h]
  · simp at h

theorem schemaOf_generic (env : Env) {base : String} {args : List TypeExpr}
    (h : ∀ a, args = [a] → TypeExpr.wrappers.contains base = true → False) :
    env.schemaOf (.generic base args) =
      match Union.detect? env.config.unionPrefix (.generic base args) with
      | some u => do
        let found ← env.resolved (TypeExpr.generic base args).render none u
        return unionSchema found (← env.schemasOf args)
      | none => env.nameSchema base := by
  unfold schemaOf
  split
  · next a hwrapper => exact absurd hwrapper (by simpa using h a rfl)
  · rfl

mutual

/-- The steps of an expression mention what the expression does. -/
theorem mention_mem_schemaOf_iff (env : Env) (t : TypeExpr) (name : String) :
    Step.mention name ∈ (env.schemaOf t).steps ↔ env.Mentions t name := by
  cases t with
  | named own =>
    have hnone : Union.detect? env.config.unionPrefix (.named own) = none := rfl
    have hbase : (TypeExpr.named own).unwrapped.base? = some own := rfl
    rw [mentions_base hnone hbase, schemaOf]
    by_cases hunit : own = "()"
    · simp [hunit, TypeExpr.unwrapped, TypeExpr.isUnit]
    · simp [hunit, TypeExpr.unwrapped, TypeExpr.isUnit, mention_mem_nameSchema_iff]
  | optional inner =>
    rw [mentions_content rfl, schemaOf]
    simpa using mention_mem_schemaOf_iff env inner name
  | sequence element =>
    rw [mentions_content rfl, schemaOf]
    simpa using mention_mem_schemaOf_iff env element name
  | map key value =>
    rw [mentions_content rfl, schemaOf]
    simpa using mention_mem_schemaOf_iff env value name
  | generic base args =>
    by_cases hplain : ∀ a, args = [a] → TypeExpr.wrappers.contains base = true → False
    · have hself := unwrapped_generic hplain
      rw [schemaOf_generic env hplain]
      split
      · next u hu =>
        rw [mentions_union hu, alternatives_of_detect? hself hu]
        simpa [mention_notMem_resolved] using mention_mem_schemasOf_iff env args name
      · next hu =>
        have hbase : (TypeExpr.generic base args).unwrapped.base? = some base := by
          rw [hself, TypeExpr.base?]
        rw [mentions_base hu hbase, hself, mention_mem_nameSchema_iff]
        simp [TypeExpr.isUnit]
    · push Not at hplain
      obtain ⟨a, rfl, hwrapper, -⟩ := hplain
      have hsame : (TypeExpr.generic base [a]).unwrapped = a.unwrapped := by
        rw [TypeExpr.unwrapped, if_pos hwrapper]
      rw [mentions_congr hsame, schemaOf_wrapper env a hwrapper]
      exact mention_mem_schemaOf_iff env a name

theorem mention_mem_schemasOf_iff (env : Env) (ts : List TypeExpr) (name : String) :
    Step.mention name ∈ (env.schemasOf ts).steps ↔ ∃ t ∈ ts, env.Mentions t name := by
  cases ts with
  | nil => simp [schemasOf]
  | cons t rest =>
    simp [schemasOf, mention_mem_schemaOf_iff env t name, mention_mem_schemasOf_iff env rest name]

end

/-! ## Fields -/

/-- An expression names a definition that holds a union, possibly in an optional slot. -/
def NamesUnion (env : Env) (t : TypeExpr) (u : Union) : Prop :=
  ∃ own d, t.payload.1.name? = some own ∧ env.catalog.type? own = some d ∧ d.union = some u

/-- The names that a field mentions. A discriminator on an alias of a union makes the field mention
the alternatives in place of the alias. -/
inductive FieldMentions (env : Env) (f : Field) (name : String) : Prop
  | type (h : f.discriminator = none ∨ ∀ u, ¬ env.NamesUnion f.type u)
      (hname : env.Mentions f.type name)
  | alternative {a : TypeExpr} {u : Union} (h : f.discriminator ≠ none)
      (hu : env.NamesUnion f.type u) (ha : a ∈ u.alternatives) (hname : env.Mentions a name)

theorem namesUnion_iff (env : Env) (t : TypeExpr) (u : Union) :
    env.NamesUnion t u ↔
      (t.payload.1.name?.bind env.catalog.type?).bind Definition.union = some u := by
  simp only [NamesUnion, Option.bind_eq_some_iff]
  constructor
  · rintro ⟨own, d, hown, hd, hu⟩
    exact ⟨d, ⟨own, hown, hd⟩, hu⟩
  · rintro ⟨d, ⟨own, hown, hd⟩, hu⟩
    exact ⟨own, d, hown, hd, hu⟩

theorem fieldMentions_type {f : Field}
    (h : f.discriminator = none ∨ ∀ u, ¬ env.NamesUnion f.type u) (name : String) :
    env.FieldMentions f name ↔ env.Mentions f.type name := by
  refine ⟨?_, .type h⟩
  rintro (⟨_, hname⟩ | ⟨hasked, hu, _⟩)
  · exact hname
  · exact absurd hu (h.resolve_left hasked _)

theorem fieldMentions_alternative {f : Field} {u : Union} (h : f.discriminator ≠ none)
    (hu : env.NamesUnion f.type u) (name : String) :
    env.FieldMentions f name ↔ ∃ a ∈ u.alternatives, env.Mentions a name := by
  constructor
  · rintro (⟨hplain, _⟩ | ⟨_, hu', ha, hname⟩)
    · exact absurd hu (hplain.resolve_left h u)
    · rw [namesUnion_iff] at hu hu'
      obtain rfl := Option.some.inj (hu.symm.trans hu')
      exact ⟨_, ha, hname⟩
  · rintro ⟨a, ha, hname⟩
    exact .alternative h hu ha hname

/-- A plain name is no union by itself. -/
theorem detect?_of_name? {unionPrefix name : String} {t : TypeExpr} (h : t.name? = some name) :
    Union.detect? unionPrefix t = none := by
  unfold TypeExpr.name? at h
  unfold Union.detect?
  split at h
  · next own ht => rw [ht]
  · simp at h

/-- The union of a field is what its type names, or what its type is. -/
theorem unionOf?_cases (env : Env) (t : TypeExpr) :
    (∃ u, env.unionOf? t = some u ∧ env.NamesUnion t u) ∨
      (∃ u, env.unionOf? t = some u ∧ (∀ v, ¬ env.NamesUnion t v) ∧
        Union.detect? env.config.unionPrefix t.payload.1 = some u) ∨
      env.unionOf? t = none ∧ ∀ v, ¬ env.NamesUnion t v := by
  unfold unionOf?
  cases hinline : Union.detect? env.config.unionPrefix t.payload.1 with
  | some u =>
    refine .inr (.inl ⟨u, by simp only [hinline], ?_, rfl⟩)
    rintro v ⟨own, d, hown, _⟩
    simp [detect?_of_name? hown] at hinline
  | none =>
    simp only [namesUnion_iff, hinline]
    cases (t.payload.1.name?.bind env.catalog.type?).bind Definition.union with
    | some u => exact .inl ⟨u, rfl, rfl⟩
    | none => exact .inr (.inr ⟨rfl, by simp⟩)

@[simp]
theorem alternatives_resolve (c : Catalog) (config : Config) (property : Option String)
    (u : Union) : (u.resolve c config property).alternatives = u.alternatives := by
  unfold Union.resolve
  split
  · rfl
  · split <;> rfl

theorem value_resolved (env : Env) (label : String) (property : Option String) (u : Union) :
    (env.resolved label property u).value = u.resolve env.catalog env.config property := rfl

theorem mention_mem_fieldBase_iff (env : Env) (f : Field) (name : String) :
    Step.mention name ∈ (env.fieldBase f).steps ↔ env.FieldMentions f name := by
  unfold fieldBase
  cases hdiscriminator : f.discriminator with
  | none =>
    rw [fieldMentions_type (.inl hdiscriminator)]
    exact mention_mem_schemaOf_iff env f.type name
  | some property =>
    have hasked : f.discriminator ≠ none := by simp [hdiscriminator]
    rcases unionOf?_cases env f.type with ⟨u, hunion, hnames⟩ | ⟨u, hunion, hplain, hinline⟩ |
      ⟨hunion, hplain⟩
    · rw [fieldMentions_alternative hasked hnames, ← mention_mem_schemasOf_iff]
      simp [hunion, mention_notMem_resolved, value_resolved]
    · -- A union written out has the same alternatives with and without a discriminator.
      rw [fieldMentions_type (.inr hplain), ← mentions_payload, mentions_union hinline,
        ← mention_mem_schemasOf_iff]
      simp [hunion, mention_notMem_resolved, value_resolved]
    · rw [fieldMentions_type (.inr hplain), ← mention_mem_schemaOf_iff]
      simp [hunion]

/-- What a field adds to the schema of its type. -/
def finishField (env : Env) (f : Field) (base : Schema) : Traced Schema :=
  let documented := (f.doc.map base.describe).getD base
  let schema := { documented with deprecated := documented.deprecated || f.isDeprecated }
  if f.directive.isEmpty then pure schema
  else
    let applied :=
      Directive.apply env.config.customDirectives f.directive (env.wireType f.type) schema
    if applied.2.isEmpty then pure applied.1
    else do
      Traced.report [.brokenDirective f.name (Directive.issuesMessage applied.2)]
      return applied.1.describe ("WARNING: " ++ Directive.issuesMessage applied.2)

theorem fieldSchema_eq_bind (env : Env) (f : Field) :
    env.fieldSchema f = env.fieldBase f >>= env.finishField f := by
  unfold fieldSchema finishField
  cases f.doc <;> rfl

theorem mention_notMem_finishField (env : Env) (f : Field) (base : Schema) (name : String) :
    Step.mention name ∉ (env.finishField f base).steps := by
  unfold finishField
  simp only
  split
  · simp
  · split <;> simp

theorem mention_mem_fieldSchema_iff (env : Env) (f : Field) (name : String) :
    Step.mention name ∈ (env.fieldSchema f).steps ↔ env.FieldMentions f name := by
  rw [fieldSchema_eq_bind, Traced.steps_bind, List.mem_append,
    or_iff_left (mention_notMem_finishField env f _ name), mention_mem_fieldBase_iff]

@[simp]
theorem value_properties (env : Env) (fields : List Field) :
    (env.properties fields).value =
      fields.map fun f ↦ (f.wireName, (env.fieldSchema f).value) := by
  induction fields with
  | nil => rfl
  | cons f rest ih => simp [properties, ih]

theorem mention_mem_properties_iff (env : Env) (fields : List Field) (name : String) :
    Step.mention name ∈ (env.properties fields).steps ↔ ∃ f ∈ fields, env.FieldMentions f name := by
  induction fields with
  | nil => simp [properties]
  | cons f rest ih => simp [properties, mention_mem_fieldSchema_iff, ih]

/-! ## Definitions -/

/-- The names that a definition mentions, by the part of it that its component shows. -/
inductive DefinitionMentions (env : Env) (d : Definition) (name : String) : Prop
  | field {e : Definition} {f : Field} (hkind : d.kind = .record)
      (hholds : d.holdsAlternatives = false) (he : Relation.ReflTransGen env.catalog.Embeds d e)
      (hf : f ∈ e.fields) (hwire : f.isWire = true) (hbody : f.location = .body)
      (hname : env.FieldMentions f name)
  | choice {f : Field} (hkind : d.kind = .record) (hholds : d.holdsAlternatives = true)
      (hf : f ∈ d.fields) (hname : env.Mentions f.type name)
  | aliased {t : TypeExpr} (hkind : d.kind = .simple) (ht : d.aliased = some t)
      (hname : env.Mentions t name)
  | union {u : Union} {a : TypeExpr} (hkind : d.kind = .union) (hu : d.union = some u)
      (ha : a ∈ u.alternatives) (hname : env.Mentions a name)

theorem mem_bodyFields_iff (env : Env) {d : Definition} (hd : env.catalog.type? d.name = some d)
    (excluded : List String) (f : Field) :
    f ∈ env.bodyFields excluded d ↔
      (∃ e, Relation.ReflTransGen env.catalog.Embeds d e ∧ f ∈ e.fields) ∧
        f.isWire = true ∧ f.location = .body ∧ f.wireName ∉ excluded := by
  unfold bodyFields
  simp [List.mem_filter, List.mem_flatMap, Catalog.mem_withEmbedded_iff hd, and_assoc]

theorem mention_mem_objectSchema_iff (env : Env) {d : Definition}
    (hd : env.catalog.type? d.name = some d) (excluded : List String) (name : String) :
    Step.mention name ∈ (env.objectSchema excluded d).steps ↔
      ∃ e f, Relation.ReflTransGen env.catalog.Embeds d e ∧ f ∈ e.fields ∧ f.isWire = true ∧
        f.location = .body ∧ f.wireName ∉ excluded ∧ env.FieldMentions f name := by
  have hsteps : (env.objectSchema excluded d).steps =
      (env.properties (env.bodyFields excluded d)).steps := by simp [objectSchema]
  rw [hsteps, mention_mem_properties_iff]
  simp only [mem_bodyFields_iff env hd]
  constructor
  · rintro ⟨f, ⟨⟨e, he, hf⟩, hwire, hbody, hout⟩, hname⟩
    exact ⟨e, f, he, hf, hwire, hbody, hout, hname⟩
  · rintro ⟨e, f, he, hf, hwire, hbody, hout, hname⟩
    exact ⟨f, ⟨⟨e, he, hf⟩, hwire, hbody, hout⟩, hname⟩

theorem mention_mem_choiceSchema_iff (env : Env) (d : Definition) (name : String) :
    Step.mention name ∈ (env.choiceSchema d).steps ↔ ∃ f ∈ d.fields, env.Mentions f.type name := by
  simp [choiceSchema, mention_mem_schemasOf_iff, mentions_payload]

/-- The schema of the expression that an alias stands for. -/
def aliasBase (env : Env) (d : Definition) : Traced Schema :=
  match d.aliased with
  | some t => env.schemaOf t
  | none => pure (Schema.typed "object")

/-- What an alias adds to the schema of its expression. -/
def finishAlias (d : Definition) (base : Schema) : Schema :=
  let valued := if d.enumValues.isEmpty then base else { base with enum := some d.enumValues }
  (d.doc.map valued.describe).getD valued

theorem aliasSchema_eq_bind (env : Env) (d : Definition) :
    env.aliasSchema d = (env.aliasBase d >>= fun base ↦ pure (finishAlias d base)) := by
  unfold aliasSchema aliasBase finishAlias
  cases d.aliased <;> cases d.doc <;> rfl

theorem mention_mem_aliasSchema_iff (env : Env) (d : Definition) (name : String) :
    Step.mention name ∈ (env.aliasSchema d).steps ↔
      ∃ t, d.aliased = some t ∧ env.Mentions t name := by
  rw [aliasSchema_eq_bind, aliasBase]
  cases d.aliased with
  | none => simp
  | some t => simp [mention_mem_schemaOf_iff]

theorem mention_mem_unionAliasSchema_iff (env : Env) (d : Definition) (name : String) :
    Step.mention name ∈ (env.unionAliasSchema d).steps ↔
      ∃ u, d.union = some u ∧ ∃ a ∈ u.alternatives, env.Mentions a name := by
  unfold unionAliasSchema
  cases d.union with
  | none => simp
  | some u =>
    simp [mention_notMem_resolved, value_resolved, mention_mem_schemasOf_iff]

/-- The steps of a component mention what its definition does. -/
theorem mention_mem_component_iff (env : Env) {d : Definition}
    (hd : env.catalog.type? d.name = some d) (name : String) :
    Step.mention name ∈ (env.component d).steps ↔ env.DefinitionMentions d name := by
  unfold component
  cases hkind : d.kind with
  | record =>
    cases hholds : d.holdsAlternatives with
    | true =>
      simp only [if_true, mention_mem_choiceSchema_iff]
      constructor
      · rintro ⟨f, hf, hname⟩
        exact .choice hkind hholds hf hname
      · rintro (⟨_, hholds'⟩ | ⟨_, _, hf, hname⟩ | ⟨hkind'⟩ | ⟨hkind'⟩)
        · simp [hholds] at hholds'
        · exact ⟨_, hf, hname⟩
        all_goals simp [hkind] at hkind'
    | false =>
      simp only [Bool.false_eq_true, if_false, mention_mem_objectSchema_iff env hd]
      constructor
      · rintro ⟨e, f, he, hf, hwire, hbody, _, hname⟩
        exact .field hkind hholds he hf hwire hbody hname
      · rintro (⟨_, _, he, hf, hwire, hbody, hname⟩ | ⟨_, hholds'⟩ | ⟨hkind'⟩ | ⟨hkind'⟩)
        · exact ⟨_, _, he, hf, hwire, hbody, List.not_mem_nil, hname⟩
        · simp [hholds] at hholds'
        all_goals simp [hkind] at hkind'
  | simple =>
    simp only [mention_mem_aliasSchema_iff]
    constructor
    · rintro ⟨t, ht, hname⟩
      exact .aliased hkind ht hname
    · rintro (⟨hkind'⟩ | ⟨hkind'⟩ | ⟨_, ht, hname⟩ | ⟨hkind'⟩)
      case aliased => exact ⟨_, ht, hname⟩
      all_goals simp [hkind] at hkind'
  | union =>
    simp only [mention_mem_unionAliasSchema_iff]
    constructor
    · rintro ⟨u, hu, a, ha, hname⟩
      exact .union hkind hu ha hname
    · rintro (⟨hkind'⟩ | ⟨hkind'⟩ | ⟨hkind'⟩ | ⟨_, hu, ha, hname⟩)
      case union => exact ⟨_, hu, _, ha, hname⟩
      all_goals simp [hkind] at hkind'

end Env

end ApiAtlas

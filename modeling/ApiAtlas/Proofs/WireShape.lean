import ApiAtlas.Proofs.Discriminator

/-!
# Shapes of aliases

The shape by which the directive of a field is read comes from a search through type expressions:
under wrappers, one optional slot and plain names of aliases, until a name comes back. The schema of
the field gets to its shape on another way, by a reference to the component of the alias, which may
be a reference again. Both go the same way as long as every alias stands as a plain name in at most
one optional slot. Where they part, the search stops short of an alias that the references follow,
or it reads on where the schema is an object already. The search ends on every catalog, also if
aliases stand for each other in a circle.
-/

namespace ApiAtlas

namespace Schema

/-- Two schemas refer to the same component or to none, and have the same type. -/
structure SameOutline (s s' : Schema) : Prop where
  ref : s.ref = s'.ref
  type : s.type = s'.type

namespace SameOutline

variable {s s' s'' : Schema}

theorem symm (h : s.SameOutline s') : s'.SameOutline s :=
  ⟨h.ref.symm, h.type.symm⟩

theorem trans (h : s.SameOutline s') (h' : s'.SameOutline s'') : s.SameOutline s'' :=
  ⟨h.ref.trans h'.ref, h.type.trans h'.type⟩

theorem ofSchema_eq (h : s.SameOutline s') : WireType.ofSchema s = .ofSchema s' := by
  unfold WireType.ofSchema
  rw [h.type]

end SameOutline

theorem sameOutline_describe (s : Schema) (line : String) : (s.describe line).SameOutline s := by
  unfold describe
  split
  · split <;> exact ⟨rfl, rfl⟩
  · exact ⟨rfl, rfl⟩

/-- The references of a schema lead through a table of components to a schema without reference. -/
inductive LeadsTo (components : List (String × Schema)) : Schema → Schema → Prop
  | arrived {s : Schema} (href : s.ref = none) : LeadsTo components s s
  | follow {s component target : Schema} {name : String} (href : s.ref = some (componentRef name))
      (hname : Keyed.get? name components = some component)
      (h : LeadsTo components component target) : LeadsTo components s target

theorem LeadsTo.eq_of_ref {components : List (String × Schema)} {s target : Schema}
    (h : s.LeadsTo components target) (href : s.ref = none) : target = s := by
  cases h with
  | arrived => rfl
  | follow href' => simp [href] at href'

end Schema

/-! ## Shapes of expressions -/

namespace TypeExpr

theorem unwrapped_payload (t : TypeExpr) : t.payload.1.unwrapped = t.payload.1 := by
  unfold payload
  split
  · exact unwrapped_unwrapped _
  · exact unwrapped_unwrapped t

theorem sizeOf_unwrapped_le (t : TypeExpr) : sizeOf t.unwrapped ≤ sizeOf t := by
  fun_induction unwrapped t with
  | case1 base a _ ih =>
    simp only [generic.sizeOf_spec, List.cons.sizeOf_spec, List.nil.sizeOf_spec]
    omega
  | case2 => exact le_rfl
  | case3 => exact le_rfl

/-- An expression under all wrappers is not itself wrapped. -/
theorem not_wrapper_of_unwrapped {base : String} {args : List TypeExpr}
    (h : (generic base args).unwrapped = generic base args) (a : TypeExpr) (ha : args = [a])
    (hbase : wrappers.contains base = true) : False := by
  subst ha
  rw [unwrapped, if_pos hbase] at h
  have hle := sizeOf_unwrapped_le a
  rw [h] at hle
  simp only [generic.sizeOf_spec, List.cons.sizeOf_spec, List.nil.sizeOf_spec] at hle
  omega

theorem primitive?_of_base {t : TypeExpr} (ht : t.unwrapped = t) {name : String}
    (h : t.base? = some name) : t.primitive? = Primitive.ofName? name := by
  unfold primitive?
  rw [ht]
  unfold base? at h
  split at h
  · rw [Option.some.inj h]
  · rw [Option.some.inj h]
  · simp at h

end TypeExpr

namespace WireType

/-- The shape behind a name: that of a primitive type, or an object. -/
def ofBase (name : String) : WireType :=
  ((Primitive.ofName? name).map ofPrimitive).getD .object

theorem ofType_of_base {t : TypeExpr} {name : String} (h : t.payload.1.base? = some name) :
    ofType t = ofBase name := by
  have hprimitive := TypeExpr.primitive?_of_base t.unwrapped_payload h
  have hread : ofType t = (t.payload.1.primitive?.map ofPrimitive).getD .object := by
    unfold ofType
    generalize t.payload.1 = inner at h
    cases inner with
    | named | generic =>
      simp only
      split <;> simp_all
    | optional | sequence | map => simp [TypeExpr.base?] at h
  rw [hread, hprimitive, ofBase]

theorem ofType_of_optional {t inner : TypeExpr} (h : t.payload.1 = .optional inner) :
    ofType t = .object := by
  simp [ofType, h, TypeExpr.primitive?, TypeExpr.unwrapped]

theorem ofSchema_primitive (p : Primitive) : ofSchema (Env.primitiveSchema p) = ofPrimitive p := by
  cases p <;> rfl

end WireType

namespace Env

variable {env : Env}

theorem ofSchema_nameSchema (env : Env) (name : String) :
    WireType.ofSchema (env.nameSchema name).value = .ofBase name := by
  unfold nameSchema WireType.ofBase
  cases Primitive.ofName? name with
  | some p => exact WireType.ofSchema_primitive p
  | none => cases env.catalog.hasType name <;> rfl

theorem sameOutline_payload (env : Env) (t : TypeExpr) :
    (env.schemaOf t.payload.1).value.SameOutline (env.schemaOf t).value := by
  rw [← env.schemaOf_unwrapped t]
  unfold TypeExpr.payload
  split
  · next inner ht =>
    rw [ht, schemaOf_unwrapped, schemaOf]
    exact ⟨rfl, rfl⟩
  · exact ⟨rfl, rfl⟩

/-- A primitive type whose name and arguments are read as a union. -/
def IsPrimitiveUnion (env : Env) (t : TypeExpr) : Prop :=
  t.primitive? ≠ none ∧ Union.detect? env.config.unionPrefix t ≠ none

theorem outline_of_union {t : TypeExpr} (ht : t.unwrapped = t)
    (h : Union.detect? env.config.unionPrefix t ≠ none) :
    (env.schemaOf t).value.SameOutline {} := by
  cases t with
  | generic base args =>
    rw [schemaOf_generic env (TypeExpr.not_wrapper_of_unwrapped ht)]
    split
    · exact ⟨rfl, rfl⟩
    · next hnone => exact absurd hnone h
  | named | optional | sequence | map => simp [Union.detect?, TypeExpr.unwrapped] at h

/-- The schema of an expression has the shape that is read off the expression. -/
theorem ofSchema_schemaOf {t : TypeExpr} (hslot : ∀ inner, t.payload.1 ≠ .optional inner)
    (hunion : ¬ env.IsPrimitiveUnion t.payload.1) :
    WireType.ofSchema (env.schemaOf t).value = .ofType t := by
  rw [← (env.sameOutline_payload t).ofSchema_eq]
  have hself := t.unwrapped_payload
  cases hpayload : t.payload.1 with
  | named name =>
    have hbase : t.payload.1.base? = some name := by
      rw [hpayload]
      rfl
    rw [WireType.ofType_of_base hbase, schemaOf]
    split
    · next hunit =>
      rw [eq_of_beq hunit]
      decide
    · exact env.ofSchema_nameSchema name
  | optional inner => exact absurd hpayload (hslot inner)
  | sequence element =>
    rw [schemaOf]
    simp only [WireType.ofType, hpayload]
    rfl
  | map key value =>
    rw [schemaOf]
    simp only [WireType.ofType, hpayload]
    rfl
  | generic base args =>
    rw [hpayload] at hself hunion
    have hbase : t.payload.1.base? = some base := by
      rw [hpayload]
      rfl
    rw [WireType.ofType_of_base hbase]
    by_cases hdetect : Union.detect? env.config.unionPrefix (.generic base args) = none
    · rw [schemaOf_generic env (TypeExpr.not_wrapper_of_unwrapped hself), hdetect]
      exact env.ofSchema_nameSchema base
    · have hprimitive : Primitive.ofName? base = none := by
        rw [← TypeExpr.primitive?_of_base hself rfl]
        exact not_not.1 fun hne ↦ hunion ⟨hne, hdetect⟩
      rw [(outline_of_union hself hdetect).ofSchema_eq]
      simp [WireType.ofBase, hprimitive, WireType.ofSchema]

/-- What holds of the schemas that names, slots and unions have, holds of the schema of every
expression. -/
theorem schemaOf_induction {p : Schema → Prop} (hprimitive : ∀ q, p (primitiveSchema q))
    (href : ∀ name, p (Schema.reference name)) (hobject : p (Schema.typed "object"))
    (hnullable : ∀ s, p s → p { s with nullable := true }) (harray : ∀ s, p (Schema.array s))
    (hmap : ∀ s, p { Schema.typed "object" with additionalProperties := some s })
    (hunion : ∀ u alternatives, p (unionSchema u alternatives)) (env : Env) (t : TypeExpr) :
    p (env.schemaOf t).value := by
  have hname : ∀ name, p (env.nameSchema name).value := by
    intro name
    unfold nameSchema
    cases Primitive.ofName? name with
    | some q => exact hprimitive q
    | none =>
      cases env.catalog.hasType name with
      | true => exact href name
      | false => exact hobject
  cases t with
  | named name =>
    rw [schemaOf]
    split
    · exact hobject
    · exact hname name
  | optional inner =>
    rw [schemaOf]
    exact hnullable _
      (schemaOf_induction hprimitive href hobject hnullable harray hmap hunion env inner)
  | sequence element =>
    rw [schemaOf]
    exact harray _
  | map key value =>
    rw [schemaOf]
    exact hmap _
  | generic base args =>
    by_cases hplain : ∀ a, args = [a] → TypeExpr.wrappers.contains base = true → False
    · rw [schemaOf_generic env hplain]
      split
      · exact hunion _ _
      · exact hname base
    · push Not at hplain
      obtain ⟨a, rfl, hwrapper, -⟩ := hplain
      rw [schemaOf_wrapper env a hwrapper]
      exact schemaOf_induction hprimitive href hobject hnullable harray hmap hunion env a

/-- A reference has no type of its own. -/
theorem type_schemaOf_of_ref (env : Env) (t : TypeExpr) :
    (env.schemaOf t).value.ref ≠ none → (env.schemaOf t).value.type = none := by
  refine schemaOf_induction (p := fun s ↦ s.ref ≠ none → s.type = none) ?primitive ?reference
    ?object ?nullable ?array ?map ?union env t
  case reference => exact fun _ _ ↦ rfl
  case nullable => exact fun _ h ↦ h
  all_goals simp [primitiveSchema, Schema.typed, Schema.array, unionSchema]

theorem ofSchema_of_ref {t : TypeExpr} (h : (env.schemaOf t).value.ref ≠ none) :
    WireType.ofSchema (env.schemaOf t).value = .object := by
  simp [WireType.ofSchema, env.type_schemaOf_of_ref t h]

/-! ## The search -/

/-- The expression that a simple alias stands for. -/
def aliasTarget? (env : Env) (name : String) : Option TypeExpr :=
  match env.catalog.type? name with
  | some d =>
    match d.kind with
    | .simple => d.aliased
    | _ => none
  | none => none

theorem exists_of_aliasTarget? {name : String} {a : TypeExpr}
    (h : env.aliasTarget? name = some a) :
    ∃ d, env.catalog.type? name = some d ∧ d.kind = .simple ∧ d.aliased = some a := by
  unfold aliasTarget? at h
  split at h
  · next d hd =>
    split at h
    · next hkind => exact ⟨d, hd, hkind, h⟩
    · simp at h
  · simp at h

/-- One round of the search: a plain name of an alias that was not met yet is replaced by what it
stands for. -/
def searchStep? (env : Env) (seen : List String) (t : TypeExpr) :
    Option (List String × TypeExpr) :=
  match t.payload.1 with
  | .named name =>
    if (Primitive.ofName? name).isSome || seen.contains name then none
    else (env.aliasTarget? name).map fun a ↦ (name :: seen, a)
  | _ => none

/-- A search that takes a number of rounds and ends with an expression. -/
inductive Rounds (env : Env) : Nat → List String → TypeExpr → TypeExpr → Prop
  | stop {seen : List String} {t : TypeExpr} (h : env.searchStep? seen t = none) :
      Rounds env 0 seen t t.payload.1
  | next {n : Nat} {seen seen' : List String} {t a last : TypeExpr}
      (h : env.searchStep? seen t = some (seen', a)) (hrest : Rounds env n seen' a last) :
      Rounds env (n + 1) seen t last

theorem wireTarget_eq (env : Env) (seen : List String) (t : TypeExpr) :
    env.wireTarget seen t =
      match env.searchStep? seen t with
      | some (seen', a) => env.wireTarget seen' a
      | none => t.payload.1 := by
  rw [wireTarget]
  unfold searchStep? aliasTarget?
  split
  · next name hname =>
    simp only [hname]
    split
    · rfl
    · split
      · next d hd =>
        rw [hd]
        simp only
        cases d.kind <;> cases d.aliased <;> rfl
      · next hd =>
        rw [hd]
        rfl
  · split <;> simp_all

theorem unvisited_of_searchStep? {seen seen' : List String} {t a : TypeExpr}
    (h : env.searchStep? seen t = some (seen', a)) :
    env.catalog.unvisited seen' < env.catalog.unvisited seen := by
  unfold searchStep? at h
  split at h
  · next name _ =>
    split at h
    · simp at h
    · next hnew =>
      obtain ⟨b, hb, heq⟩ := Option.map_eq_some_iff.1 h
      obtain ⟨rfl, rfl⟩ := Prod.mk.inj heq
      obtain ⟨d, hd, _⟩ := exists_of_aliasTarget? hb
      apply Catalog.unvisited_cons_lt hd
      simp only [Bool.or_eq_true, not_or, Bool.not_eq_true] at hnew
      exact hnew.2
  · simp at h

/-- Each round meets a new name of the catalog, so the search ends after at most as many rounds as
there are names not met yet. -/
theorem rounds_wireTarget (env : Env) (seen : List String) (t : TypeExpr) :
    ∃ n ≤ env.catalog.unvisited seen, env.Rounds n seen t (env.wireTarget seen t) := by
  rw [wireTarget_eq]
  cases hstep : env.searchStep? seen t with
  | none => exact ⟨0, Nat.zero_le _, .stop hstep⟩
  | some state =>
    obtain ⟨seen', a⟩ := state
    have hless := unvisited_of_searchStep? hstep
    obtain ⟨n, hn, hrounds⟩ := rounds_wireTarget env seen' a
    exact ⟨n + 1, by omega, .next hstep hrounds⟩
termination_by env.catalog.unvisited seen

theorem unvisited_le_length (c : Catalog) (seen : List String) :
    c.unvisited seen ≤ c.types.length :=
  List.countP_le_length

/-! ## Names of aliases -/

/-- The first expression is the plain name of an alias of the second one, possibly in an optional
slot. -/
def Unfolds (env : Env) (t a : TypeExpr) : Prop :=
  ∃ name, t.payload.1 = .named name ∧ TypeExpr.isBuiltIn name = false ∧
    env.aliasTarget? name = some a

theorem unfolds_rightUnique (env : Env) : Relator.RightUnique env.Unfolds := by
  rintro t a b ⟨name, hname, _, ha⟩ ⟨other, hother, _, hb⟩
  obtain rfl := TypeExpr.named.inj (hname.symm.trans hother)
  exact Option.some.inj (ha.symm.trans hb)

/-- The search stops at an expression before the references do: it has a further optional slot
inside a second one, or refers to an alias otherwise than by a plain name in one slot. -/
def StopsShort (env : Env) (t : TypeExpr) : Prop :=
  (∃ inner, t.payload.1.payload.1 = .optional inner) ∨
    t.payload.1.name? = none ∧ ∃ name a,
      (env.schemaOf t).value.ref = some (Schema.componentRef name) ∧
        env.aliasTarget? name = some a

/-- The search reads on at an expression whose schema is an object: an alias has the name of the
unit type, or a union that of a primitive type. -/
def ReadsOn (env : Env) (t : TypeExpr) : Prop :=
  (∃ a, t.payload.1 = .named "()" ∧ env.aliasTarget? "()" = some a) ∨
    env.IsPrimitiveUnion t.payload.1.payload.1

theorem not_unfolds_of_stopsShort {t : TypeExpr} (h : env.StopsShort t) (a : TypeExpr) :
    ¬ env.Unfolds t a := by
  rintro ⟨name, hname, _⟩
  rcases h with ⟨inner, hinner⟩ | ⟨hnone, _⟩
  · rw [hname] at hinner
    simp [TypeExpr.payload, TypeExpr.unwrapped] at hinner
  · simp [hname, TypeExpr.name?, TypeExpr.unwrapped] at hnone

theorem not_unfolds_of_readsOn {t : TypeExpr} (h : env.ReadsOn t) (a : TypeExpr) :
    ¬ env.Unfolds t a := by
  rintro ⟨name, hname, hplain, _⟩
  rcases h with ⟨_, hunit, _⟩ | ⟨_, hunion⟩
  · obtain rfl := TypeExpr.named.inj (hname.symm.trans hunit)
    simp [TypeExpr.isBuiltIn] at hplain
  · rw [hname] at hunion
    simp [TypeExpr.payload, TypeExpr.unwrapped, Union.detect?] at hunion

/-- Of all expressions on the way at most one is the last. -/
theorem eq_of_unfolds_ends {t e e' : TypeExpr} (he : Relation.ReflTransGen env.Unfolds t e)
    (hend : ∀ a, ¬ env.Unfolds e a) (he' : Relation.ReflTransGen env.Unfolds t e')
    (hend' : ∀ a, ¬ env.Unfolds e' a) : e = e' := by
  rcases Relation.ReflTransGen.total_of_right_unique env.unfolds_rightUnique he he' with h | h
  · rcases Relation.ReflTransGen.cases_head h with heq | ⟨a, ha, _⟩
    · exact heq
    · exact absurd ha (hend a)
  · rcases Relation.ReflTransGen.cases_head h with heq | ⟨a, ha, _⟩
    · exact heq.symm
    · exact absurd ha (hend' a)

/-- On the way from an expression through names of aliases there is one with a property. -/
def Meets (env : Env) (p : TypeExpr → Prop) (t : TypeExpr) : Prop :=
  ∃ u, Relation.ReflTransGen env.Unfolds t u ∧ p u

/-- A property of which names of aliases have none is met at the end of the way or not at all. -/
theorem meets_iff {p : TypeExpr → Prop} {t e : TypeExpr}
    (he : Relation.ReflTransGen env.Unfolds t e) (hend : ∀ a, ¬ env.Unfolds e a)
    (hp : ∀ u, p u → ∀ a, ¬ env.Unfolds u a) : env.Meets p t ↔ p e := by
  constructor
  · rintro ⟨u, hu, hprop⟩
    obtain rfl := eq_of_unfolds_ends he hend hu (hp u hprop)
    exact hprop
  · intro hprop
    exact ⟨e, he, hprop⟩

/-! ## Components of aliases -/

theorem sameOutline_finishAlias (d : Definition) (base : Schema) :
    (finishAlias d base).SameOutline base := by
  have hvalued : (if d.enumValues.isEmpty then base
      else { base with enum := some d.enumValues }).SameOutline base := by
    split <;> exact ⟨rfl, rfl⟩
  unfold finishAlias
  cases d.doc with
  | none => exact hvalued
  | some doc => exact (Schema.sameOutline_describe _ doc).trans hvalued

theorem sameOutline_component {name : String} {d : Definition} {a : TypeExpr}
    (hd : env.catalog.type? name = some d) (ha : env.aliasTarget? name = some a) :
    (env.component d).value.SameOutline (env.schemaOf a).value := by
  obtain ⟨e, he, hkind, haliased⟩ := exists_of_aliasTarget? ha
  obtain rfl := Option.some.inj (hd.symm.trans he)
  unfold component
  simp only [hkind, aliasSchema_eq_bind, aliasBase, haliased]
  exact sameOutline_finishAlias d _

/-- A component that is no alias of an expression is an object or a choice. -/
theorem outline_component {name : String} {d : Definition}
    (hd : env.catalog.type? name = some d) (ha : env.aliasTarget? name = none) :
    (env.component d).value.ref = none ∧
      WireType.ofSchema (env.component d).value = .object := by
  unfold component
  cases hkind : d.kind with
  | record => cases d.holdsAlternatives <;> exact ⟨rfl, rfl⟩
  | simple =>
    have haliased : d.aliased = none := by
      simpa [aliasTarget?, hd, hkind] using ha
    simp only [aliasSchema_eq_bind, aliasBase, haliased]
    have houtline := sameOutline_finishAlias d (Schema.typed "object")
    exact ⟨houtline.ref, houtline.ofSchema_eq⟩
  | union =>
    unfold unionAliasSchema
    cases d.union <;> exact ⟨rfl, rfl⟩

theorem ref_of_unfolds {t a : TypeExpr} {name : String} (hname : t.payload.1 = .named name)
    (hplain : TypeExpr.isBuiltIn name = false) (ha : env.aliasTarget? name = some a) :
    (env.schemaOf t).value.ref = some (Schema.componentRef name) := by
  obtain ⟨d, hd, _⟩ := exists_of_aliasTarget? ha
  have hknown : env.catalog.hasType name = true := by simp [Catalog.hasType, hd]
  rw [← ref_schemaOf_payload, hname, ref_schemaOf_named hknown, hplain]
  rfl

theorem not_unfolds_of_ref {t : TypeExpr} (h : (env.schemaOf t).value.ref = none) (a : TypeExpr) :
    ¬ env.Unfolds t a := by
  rintro ⟨name, hname, hplain, ha⟩
  rw [ref_of_unfolds hname hplain ha] at h
  simp at h

end Env

/-! ## The search and the references -/

namespace Session

open Schema

variable {env : Env} {s : Session}

theorem Settled.component_of_get? (hs : Settled env s) {name : String} {component : Schema}
    (h : Keyed.get? name s.generator.schemas = some component) :
    ∃ d, env.catalog.type? name = some d ∧ component = (env.component d).value := by
  have hslot := (mem_schemas_iff hs.sorted name component).1 (Keyed.mem_of_get? h)
  obtain ⟨d, hd, hready⟩ := hs.ready name _ hslot
  exact ⟨d, hd, Slot.ready.inj hready⟩

/-- What an alias unfolds to, its component refers to. -/
theorem Settled.component_of_unfolds (hs : Settled env s) {schema component : Schema}
    {name : String} {t a : TypeExpr} (hschema : schema.SameOutline (env.schemaOf t).value)
    (href : schema.ref = some (componentRef name))
    (hname : Keyed.get? name s.generator.schemas = some component) (ha : env.Unfolds t a) :
    component.SameOutline (env.schemaOf a).value := by
  obtain ⟨other, hother, hplain, htarget⟩ := ha
  have hrefs : some (componentRef name) = some (componentRef other) :=
    href.symm.trans (hschema.ref.trans (Env.ref_of_unfolds hother hplain htarget))
  obtain rfl := componentRef_inj.1 (Option.some.inj hrefs)
  obtain ⟨d, hd, rfl⟩ := hs.component_of_get? hname
  exact Env.sameOutline_component hd htarget

/-- Where the references come to an end, the names of aliases do too. -/
theorem Settled.acc_unfolds (hs : Settled env s) {schema target : Schema}
    (h : schema.LeadsTo s.generator.schemas target) {t : TypeExpr}
    (hschema : schema.SameOutline (env.schemaOf t).value) :
    Acc (fun a t ↦ env.Unfolds t a) t := by
  induction h generalizing t with
  | arrived hnone =>
    rw [hschema.ref] at hnone
    exact Acc.intro t fun a ha ↦ absurd ha (Env.not_unfolds_of_ref hnone a)
  | follow href hname _ ih =>
    exact Acc.intro t fun a ha ↦ ih (hs.component_of_unfolds hschema href hname ha)

/-- The references of an expression and of what it unfolds to lead to the same schema. -/
theorem Settled.leadsTo_of_unfolds (hs : Settled env s) {target : Schema} {t e : TypeExpr}
    (h : (env.schemaOf t).value.LeadsTo s.generator.schemas target)
    (he : Relation.ReflTransGen env.Unfolds t e) :
    ∃ schema : Schema, schema.SameOutline (env.schemaOf e).value ∧
      schema.LeadsTo s.generator.schemas target := by
  induction he with
  | refl => exact ⟨_, ⟨rfl, rfl⟩, h⟩
  | tail _ ha ih =>
    obtain ⟨schema, hschema, hleads⟩ := ih
    cases hleads with
    | arrived hnone =>
      rw [hschema.ref] at hnone
      exact absurd ha (Env.not_unfolds_of_ref hnone _)
    | follow href hname hrest =>
      exact ⟨_, hs.component_of_unfolds hschema href hname ha, hrest⟩

end Session

namespace Env

variable {env : Env}

theorem not_transGen_unfolds {t : TypeExpr} (h : Acc (fun a t ↦ env.Unfolds t a) t) :
    ¬ Relation.TransGen env.Unfolds t t := by
  induction h with
  | intro t _ ih =>
    intro hcircle
    obtain ⟨a, ha, hback⟩ := Relation.TransGen.head'_iff.1 hcircle
    exact ih a ha (.tail' hback ha)

theorem searchStep?_of_unfolds {t a : TypeExpr} {name : String} {seen : List String}
    (hname : t.payload.1 = .named name) (hplain : TypeExpr.isBuiltIn name = false)
    (ha : env.aliasTarget? name = some a) (hnew : name ∉ seen) :
    env.searchStep? seen t = some (name :: seen, a) := by
  simp_all [searchStep?, TypeExpr.isBuiltIn]

theorem searchStep?_of_end {t : TypeExpr} (hend : ∀ a, ¬ env.Unfolds t a)
    (hreads : ¬ env.ReadsOn t) (seen : List String) : env.searchStep? seen t = none := by
  unfold searchStep?
  split
  · next name hname =>
    split
    · rfl
    · next hnew =>
      rw [Option.map_eq_none_iff, Option.eq_none_iff_forall_ne_some]
      intro a ha
      by_cases hunit : name = "()"
      · subst hunit
        exact hreads (.inl ⟨a, hname, ha⟩)
      · refine hend a ⟨name, hname, ?_, ha⟩
        simp_all [TypeExpr.isBuiltIn]
  · rfl

/-- As long as the names of aliases do not go round in a circle, the search goes on to the last
expression, unless an alias has the name of the unit type. -/
theorem exists_wireTarget_eq {t : TypeExpr} (h : Acc (fun a t ↦ env.Unfolds t a) t)
    (seen : List String)
    (hseen : ∀ name ∈ seen, ∀ u, Relation.ReflTransGen env.Unfolds t u →
      u.payload.1 ≠ .named name) :
    ∃ e, Relation.ReflTransGen env.Unfolds t e ∧ (∀ a, ¬ env.Unfolds e a) ∧
      (¬ env.ReadsOn e → env.wireTarget seen t = e.payload.1) := by
  induction h generalizing seen with
  | intro t hacc ih =>
    by_cases hnext : ∃ a, env.Unfolds t a
    · obtain ⟨a, ha⟩ := hnext
      obtain ⟨name, hname, hplain, htarget⟩ := id ha
      have hnew : name ∉ seen := fun hmem ↦ hseen name hmem t .refl hname
      have hseen' : ∀ other ∈ name :: seen, ∀ u, Relation.ReflTransGen env.Unfolds a u →
          u.payload.1 ≠ .named other := by
        intro other hother u hu hpayload
        rcases List.mem_cons.1 hother with rfl | hmem
        · -- Met again, the name would unfold to the same expression in a circle.
          have hback : env.Unfolds u a := ⟨other, hpayload, hplain, htarget⟩
          exact not_transGen_unfolds (hacc a ha) (.tail' hu hback)
        · exact hseen other hmem u (.head ha hu) hpayload
      obtain ⟨e, he, hend, hwire⟩ := ih a ha (name :: seen) hseen'
      refine ⟨e, .head ha he, hend, fun hreads ↦ ?_⟩
      rw [wireTarget_eq, searchStep?_of_unfolds hname hplain htarget hnew]
      exact hwire hreads
    · push Not at hnext
      refine ⟨t, .refl, hnext, fun hreads ↦ ?_⟩
      rw [wireTarget_eq, searchStep?_of_end hnext hreads]

/-! ## Where the search ends -/

theorem ofType_of_ref (env : Env) {t : TypeExpr} (h : (env.schemaOf t).value.ref ≠ none) :
    WireType.ofType t.payload.1 = .object := by
  have houtline := (env.sameOutline_payload t.payload.1).trans (env.sameOutline_payload t)
  by_cases hslot : ∃ inner, t.payload.1.payload.1 = .optional inner
  · obtain ⟨inner, hinner⟩ := hslot
    exact WireType.ofType_of_optional hinner
  · push Not at hslot
    have hunion : ¬ env.IsPrimitiveUnion t.payload.1.payload.1 := by
      intro hunion
      have hplain := outline_of_union (TypeExpr.unwrapped_payload _) hunion.2
      exact h (houtline.ref.symm.trans hplain.ref)
    rw [← ofSchema_schemaOf hslot hunion, (env.sameOutline_payload t).ofSchema_eq]
    exact ofSchema_of_ref h

theorem ofType_of_stopsShort {t : TypeExpr} (h : env.StopsShort t) :
    WireType.ofType t.payload.1 = .object := by
  rcases h with ⟨inner, hinner⟩ | ⟨_, name, a, href, _⟩
  · exact WireType.ofType_of_optional hinner
  · exact env.ofType_of_ref (by simp [href])

theorem outline_of_readsOn {t : TypeExpr} (h : env.ReadsOn t) :
    (env.schemaOf t).value.ref = none ∧
      WireType.ofSchema (env.schemaOf t).value = .object := by
  rcases h with ⟨_, hunit, _⟩ | hunion
  · have houtline := env.sameOutline_payload t
    rw [hunit, schemaOf] at houtline
    exact ⟨houtline.ref.symm, houtline.ofSchema_eq.symm⟩
  · have houtline := (env.sameOutline_payload t.payload.1).trans (env.sameOutline_payload t)
    have hplain := houtline.symm.trans
      (outline_of_union (TypeExpr.unwrapped_payload _) hunion.2)
    exact ⟨hplain.ref, hplain.ofSchema_eq⟩

theorem not_readsOn_of_stopsShort {t : TypeExpr} (h : env.StopsShort t) : ¬ env.ReadsOn t := by
  intro hreads
  rcases h with ⟨inner, hinner⟩ | ⟨_, name, a, href, _⟩
  · rcases hreads with ⟨_, hunit, _⟩ | ⟨hprimitive, _⟩
    · rw [hunit] at hinner
      simp [TypeExpr.payload, TypeExpr.unwrapped] at hinner
    · rw [hinner] at hprimitive
      simp [TypeExpr.primitive?, TypeExpr.unwrapped] at hprimitive
  · rw [(outline_of_readsOn hreads).1] at href
    simp at href

theorem eq_of_ref_named {name other : String}
    (h : (env.schemaOf (.named name)).value.ref = some (Schema.componentRef other)) :
    TypeExpr.isBuiltIn name = false ∧ name = other := by
  cases hknown : env.catalog.hasType name with
  | true =>
    rw [ref_schemaOf_named hknown] at h
    split at h
    · simp at h
    · next hplain =>
      exact ⟨by simpa using hplain, Schema.componentRef_inj.1 (Option.some.inj h)⟩
  | false =>
    rw [schemaOf, nameSchema, hknown] at h
    cases hprimitive : Primitive.ofName? name <;> by_cases hunit : name = "()" <;>
      simp_all [Schema.typed, primitiveSchema]

/-- At an expression that refers to an alias the search goes on or stops short. -/
theorem unfolds_or_stopsShort {t a : TypeExpr} {name : String}
    (href : (env.schemaOf t).value.ref = some (Schema.componentRef name))
    (ha : env.aliasTarget? name = some a) : env.Unfolds t a ∨ env.StopsShort t := by
  cases hname : t.payload.1.name? with
  | none => exact .inr (.inr ⟨hname, name, a, href, ha⟩)
  | some own =>
    have hpayload : t.payload.1 = .named own := by
      unfold TypeExpr.name? at hname
      rw [t.unwrapped_payload] at hname
      split at hname
      · next heq => rw [heq, Option.some.inj hname]
      · simp at hname
    rw [← ref_schemaOf_payload, hpayload] at href
    obtain ⟨hplain, rfl⟩ := eq_of_ref_named href
    exact .inl ⟨own, hpayload, hplain, ha⟩

end Env

namespace Session

open Schema

variable {env : Env} {s : Session}

/-- Where the search comes to its end, it reads the shape that the references lead to. -/
theorem Settled.ofSchema_target (hs : Settled env s) {schema target : Schema} {t : TypeExpr}
    (hschema : schema.SameOutline (env.schemaOf t).value)
    (h : schema.LeadsTo s.generator.schemas target) (hend : ∀ a, ¬ env.Unfolds t a)
    (hshort : ¬ env.StopsShort t) (hreads : ¬ env.ReadsOn t) :
    WireType.ofType t.payload.1 = .ofSchema target := by
  cases h with
  | arrived =>
    rw [hschema.ofSchema_eq, ← (env.sameOutline_payload t).ofSchema_eq]
    refine (Env.ofSchema_schemaOf (fun inner hinner ↦ ?_) fun hunion ↦ ?_).symm
    · exact hshort (.inl ⟨inner, hinner⟩)
    · exact hreads (.inr hunion)
  | @follow _ component _ name href hname hrest =>
    rw [hschema.ref] at href
    rw [env.ofType_of_ref (by simp [href])]
    obtain ⟨d, hd, rfl⟩ := hs.component_of_get? hname
    cases ha : env.aliasTarget? name with
    | none =>
      obtain ⟨hnone, hobject⟩ := Env.outline_component hd ha
      rw [hrest.eq_of_ref hnone, hobject]
    | some a =>
      rcases Env.unfolds_or_stopsShort href ha with hnext | hstops
      · exact absurd hnext (hend a)
      · exact absurd hstops hshort

end Session

namespace Env

variable {env : Env}

/-- The search for the shape of a type ends within as many rounds as the catalog has types, whatever
aliases stand for. Once the schema of the type is made, after any history, and its references lead
to a schema without reference, the shape found is the one of that schema exactly if two things hold.
Where the search stops short on the way, the schema has to be an object. Where it reads on, the
shape found has to be one. -/
theorem wire_type_of_references_iff (env : Env) :
    (∀ t, ∃ n ≤ env.catalog.types.length, env.Rounds n [] t (env.wireTarget [] t)) ∧
    ∀ (history : List Call) (t : TypeExpr) (target : Schema),
      (env.schemaOf t).value.LeadsTo
        (Session.run env (.after env {} history) (env.schemaOf t)).2.generator.schemas target →
      (env.wireType t = .ofSchema target ↔
        (env.Meets env.StopsShort t → WireType.ofSchema target = .object) ∧
          (env.Meets env.ReadsOn t → env.wireType t = .object)) := by
  constructor
  · intro t
    obtain ⟨n, hn, hrounds⟩ := env.rounds_wireTarget [] t
    exact ⟨n, hn.trans (unvisited_le_length env.catalog []), hrounds⟩
  · intro history t target hleads
    have hruns := Session.runs_run env (.after env {} history) (env.schemaOf t)
    have hsettled := hruns.settled (Session.settled_after env history)
    have hacc := hsettled.acc_unfolds hleads ⟨rfl, rfl⟩
    obtain ⟨e, he, hend, hwire⟩ := exists_wireTarget_eq hacc [] (by simp)
    obtain ⟨schema, hschema, hleads'⟩ := hsettled.leadsTo_of_unfolds hleads he
    rw [meets_iff he hend fun _ ↦ not_unfolds_of_stopsShort,
      meets_iff he hend fun _ ↦ not_unfolds_of_readsOn]
    have hshort : env.StopsShort e → env.wireType t = .object := by
      intro hstops
      rw [wireType, hwire (not_readsOn_of_stopsShort hstops), ofType_of_stopsShort hstops]
    have hreads : env.ReadsOn e → WireType.ofSchema target = .object := by
      intro hreads
      obtain ⟨hnone, hobject⟩ := outline_of_readsOn hreads
      rw [hleads'.eq_of_ref (hschema.ref.trans hnone), hschema.ofSchema_eq, hobject]
    constructor
    · intro hsame
      exact ⟨fun hstops ↦ hsame ▸ hshort hstops, fun hon ↦ hsame.trans (hreads hon)⟩
    · rintro ⟨hstops, hon⟩
      by_cases hstop : env.StopsShort e
      · rw [hshort hstop, hstops hstop]
      · by_cases hread : env.ReadsOn e
        · rw [hon hread, hreads hread]
        · rw [wireType, hwire hread]
          exact hsettled.ofSchema_target hschema hleads' hend hstop hread

/-! ## Aliases that are seen through, and one that is not -/

/-- A name for texts. -/
def email : Definition where
  name := "Email"
  kind := .simple
  aliased := some (.named "String")

/-- A name for texts that may be missing. -/
def contact : Definition where
  name := "Contact"
  kind := .simple
  aliased := some (.optional (.generic "Box" [.named "Email"]))

/-- A name for lists, whatever they hold. -/
def page : Definition where
  name := "Page"
  kind := .simple
  aliased := some (.sequence (.named "T"))

/-- An API with three aliases. -/
def directory : Env where
  catalog := { types := [email, contact, page] }
  config := {}

theorem unfolds_contact :
    Relation.ReflTransGen directory.Unfolds (.optional (.named "Contact")) (.named "String") :=
  .head (b := .optional (.generic "Box" [.named "Email"])) ⟨"Contact", rfl, rfl, rfl⟩
    (.single ⟨"Email", rfl, rfl, rfl⟩)

theorem not_unfolds_string (env : Env) (a : TypeExpr) : ¬ env.Unfolds (.named "String") a := by
  rintro ⟨name, hname, hplain, _⟩
  obtain rfl := TypeExpr.named.inj hname
  exact absurd hplain (by decide)

theorem not_stopsShort_string (env : Env) : ¬ env.StopsShort (.named "String") := by
  rintro (⟨inner, hinner⟩ | ⟨hnone, _⟩)
  · exact nomatch hinner
  · exact nomatch hnone

theorem not_readsOn_string (env : Env) : ¬ env.ReadsOn (.named "String") := by
  rintro (⟨_, hunit, _⟩ | ⟨_, hunion⟩)
  · exact absurd (TypeExpr.named.inj hunit) (by decide)
  · exact hunion rfl

theorem wire_type_of_contact :
    let t := TypeExpr.optional (.named "Contact")
    let made := Session.run directory (.after directory {} []) (directory.schemaOf t)
    (directory.schemaOf t).value.LeadsTo made.2.generator.schemas (Schema.typed "string") ∧
      directory.wireType t = .string := by
  intro t made
  have hleads : (directory.schemaOf t).value.LeadsTo made.2.generator.schemas
      (Schema.typed "string") := .follow rfl rfl (.follow rfl rfl (.arrived rfl))
  have hshort : ¬ directory.Meets directory.StopsShort t := by
    rw [meets_iff unfolds_contact directory.not_unfolds_string fun _ ↦ not_unfolds_of_stopsShort]
    exact directory.not_stopsShort_string
  have hreads : ¬ directory.Meets directory.ReadsOn t := by
    rw [meets_iff unfolds_contact directory.not_unfolds_string fun _ ↦ not_unfolds_of_readsOn]
    exact directory.not_readsOn_string
  refine ⟨hleads, ((wire_type_of_references_iff directory).2 [] t _ hleads).2 ⟨?_, ?_⟩⟩
  · exact fun hmeets ↦ absurd hmeets hshort
  · exact fun hmeets ↦ absurd hmeets hreads

/-- The alias with an argument is a list, but its directive is read as that of an object. -/
theorem generic_alias_read_as_object :
    let t := TypeExpr.generic "Page" [.named "Email"]
    let made := Session.run directory (.after directory {} []) (directory.schemaOf t)
    ∃ target, (directory.schemaOf t).value.LeadsTo made.2.generator.schemas target ∧
      WireType.ofSchema target = .array ∧ directory.wireType t = .object := by
  intro t made
  refine ⟨Schema.array (Schema.typed "object"), .follow rfl rfl (.arrived rfl), rfl, ?_⟩
  rw [wireType, wireTarget_eq]
  rfl

end Env

end ApiAtlas

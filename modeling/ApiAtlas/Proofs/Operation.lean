import ApiAtlas.Document.Builder
import ApiAtlas.Proofs.Making

/-!
# Operations of a builder

What the parts of a builder do, each said once: collecting runs over a list in order, an operation
is placed at its path and method and leaves the others alone, and adding a route places the
operation of the route and changes no path otherwise.
-/

namespace ApiAtlas

namespace Document

/-- The schemas of a body in all its formats. -/
def contentSchemas (content : List (String × MediaType)) : List Schema :=
  content.map fun entry ↦ entry.2.schema

end Document

namespace Builder

open Document (Parameter PathItem)

variable {env : Env}

/-! ## Collecting -/

@[simp]
theorem value_collect {α β : Type} (make : α → Traced β) (items : List α) :
    (collect make items).value = items.map fun a ↦ (make a).value := by
  induction items with
  | nil => rfl
  | cons a rest ih => simp [collect, ih]

@[simp]
theorem steps_collect {α β : Type} (make : α → Traced β) (items : List α) :
    (collect make items).steps = items.flatMap fun a ↦ (make a).steps := by
  induction items with
  | nil => rfl
  | cons a rest ih => simp [collect, ih]

/-- The parameters of an operation are those of the placeholders, and then those of the fields that
are found to be query or header parameters. -/
theorem value_parameters (env : Env) (style : ParameterStyle) (method : Method) (path : String)
    (fields : List Field) :
    (parameters env style method path fields).value =
      ((Template.params path).map fun name ↦ (pathParameter env fields name).value) ++
        (parameterFields (impliesQuery style method) (Template.params path) fields).map
          fun entry ↦ (fieldParameter env entry.1 entry.2).value := by
  simp [parameters]

/-! ## Operations of a document -/

@[simp]
theorem at?_empty (method : Method) : ({} : PathItem).at? method = none := by
  cases method <;> rfl

theorem at?_set (item : PathItem) (method other : Method) (o : Document.Operation) :
    (item.set method o).at? other = if other = method then some o else item.at? other := by
  cases method <;> cases other <;> rfl

theorem mem_operations_iff (item : PathItem) (o : Document.Operation) :
    o ∈ item.operations ↔ ∃ method, item.at? method = some o := by
  constructor
  · intro h
    simp only [PathItem.operations, List.mem_filterMap, id_eq, exists_eq_right, List.mem_cons,
      List.not_mem_nil, or_false] at h
    rcases h with h | h | h | h | h | h | h
    · exact ⟨.get, h.symm⟩
    · exact ⟨.post, h.symm⟩
    · exact ⟨.put, h.symm⟩
    · exact ⟨.delete, h.symm⟩
    · exact ⟨.patch, h.symm⟩
    · exact ⟨.options, h.symm⟩
    · exact ⟨.head, h.symm⟩
  · rintro ⟨method, h⟩
    cases method <;> simp_all [PathItem.operations, PathItem.at?]

/-- Placing an operation brings in that operation and no other. -/
theorem mem_operations_place {b : Builder} {method : Method} {path : String}
    {placed o : Document.Operation} (h : o ∈ (b.place method path placed).1.operations) :
    o = placed ∨ o ∈ b.operations := by
  unfold operations at h ⊢
  obtain ⟨⟨key, item⟩, hmem, ho⟩ := List.mem_flatMap.1 h
  rcases Keyed.mem_insert hmem with heq | hold
  · obtain ⟨rfl, rfl⟩ := Prod.mk.inj heq
    obtain ⟨other, hat⟩ := (mem_operations_iff _ o).1 ho
    rw [at?_set] at hat
    split at hat
    · exact .inl (Option.some.inj hat).symm
    · -- The operation stood at another method of the same path.
      right
      cases hpath : Keyed.get? key b.paths with
      | none =>
        simp [hpath] at hat
      | some kept =>
        rw [hpath] at hat
        exact List.mem_flatMap.2 ⟨(key, kept), Keyed.mem_of_get? hpath,
          (mem_operations_iff kept o).2 ⟨other, hat⟩⟩
  · exact .inr (List.mem_flatMap.2 ⟨(key, item), hold, ho⟩)

/-- A builder differs from another one in its schemes and diagnostics only. -/
structure SameBut (b other : Builder) : Prop where
  info : b.info = other.info
  parameterStyle : b.parameterStyle = other.parameterStyle
  paths : b.paths = other.paths

theorem sameBut_addScheme (b : Builder) (method : Method) (path : String)
    (requirement : Security) : SameBut (b.addScheme method path requirement).1 b := by
  unfold addScheme
  split
  · exact ⟨rfl, rfl, rfl⟩
  · split
    · simp only
      split <;> exact ⟨rfl, rfl, rfl⟩
    · exact ⟨rfl, rfl, rfl⟩

/-- Adding the schemes of a list is adding one after the other. -/
theorem addSchemes_eq_foldl (b : Builder) (method : Method) (path : String)
    (requirements : List Security) :
    (b.addSchemes method path requirements).1 =
      requirements.foldl (fun b requirement ↦ (b.addScheme method path requirement).1) b := by
  unfold addSchemes
  exact (List.foldl_hom Prod.fst fun _ _ ↦ rfl).symm

theorem sameBut_addSchemes (b : Builder) (method : Method) (path : String)
    (requirements : List Security) : SameBut (b.addSchemes method path requirements).1 b := by
  rw [addSchemes_eq_foldl]
  refine List.foldlRecOn (motive := fun found ↦ SameBut found b) requirements _ ⟨rfl, rfl, rfl⟩ ?_
  intro found ih requirement _
  have hstep := sameBut_addScheme found method path requirement
  exact ⟨hstep.info.trans ih.info, hstep.parameterStyle.trans ih.parameterStyle,
    hstep.paths.trans ih.paths⟩

theorem paths_addSchemes (b : Builder) (method : Method) (path : String)
    (requirements : List Security) :
    (b.addSchemes method path requirements).1.paths = b.paths :=
  (sameBut_addSchemes b method path requirements).paths

/-- The operation that a route with a known handler stands for. -/
def made (env : Env) (b : Builder) (route : Route) (h : Handler) : Traced Document.Operation :=
  operation env b.parameterStyle (effectiveMethod route h) route h

/-- The notice about a route whose handler is not known. -/
def unknownNotice (route : Route) : Notice :=
  .unknownHandler route.handler route.path route.origin.file route.origin.line

theorem addRoute_unknown (b : Builder) (s : Session) {route : Route}
    (hh : env.catalog.handler? route.handler = none) :
    addRoute env b s route =
      (false, { b with diagnostics := b.diagnostics ++ [unknownNotice route] },
        s.report [unknownNotice route]) := by
  unfold addRoute
  rw [hh]
  rfl

theorem addRoute_known (b : Builder) (s : Session) {route : Route} {h : Handler}
    (hh : env.catalog.handler? route.handler = some h) :
    ∃ notices, addRoute env b s route =
      (true, ((b.addSchemes (effectiveMethod route h) route.path route.security).1.place
          (effectiveMethod route h) route.path (made env b route h).value).1,
        (Session.run env s (made env b route h)).2.report notices) := by
  unfold addRoute
  rw [hh]
  exact ⟨_, rfl⟩

/-- The operation at a path and method. -/
def operationAt? (b : Builder) (path : String) (method : Method) : Option Document.Operation :=
  (Keyed.get? path b.paths).bind fun item ↦ item.at? method

/-- An operation is found where it was placed, and the others are found as before. -/
theorem operationAt?_place (b : Builder) (method other : Method) (path otherPath : String)
    (o : Document.Operation) :
    (b.place method path o).1.operationAt? otherPath other =
      if (otherPath, other) = (path, method) then some o else b.operationAt? otherPath other := by
  unfold operationAt? place
  rw [Keyed.get?_insert]
  by_cases hpath : otherPath = path
  · subst hpath
    cases Keyed.get? otherPath b.paths <;> by_cases hmethod : other = method <;>
      simp [at?_set, hmethod]
  · simp [hpath]

/-- Adding a route with a known handler places its operation. -/
theorem operationAt?_addRoute (b : Builder) (s : Session) {route : Route} {h : Handler}
    (hh : env.catalog.handler? route.handler = some h) :
    (addRoute env b s route).2.1.operationAt? route.path (effectiveMethod route h) =
      some (made env b route h).value := by
  obtain ⟨notices, hadded⟩ := addRoute_known b s hh
  rw [hadded, operationAt?_place, if_pos rfl]

end Builder

end ApiAtlas

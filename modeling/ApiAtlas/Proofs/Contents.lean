import ApiAtlas.Proofs.Registration

/-!
# Contents of a document

What a finished document shows of the routes that were registered. Operations are counted by their
endpoints, of which each has one operation; the schemes and tags of a document are exactly those
that its operations use, although schemes are collected from all accepted routes, replaced ones
included.
-/

namespace ApiAtlas

/-- The methods in the order of the operations of a path. -/
def Method.all : List Method :=
  [.get, .post, .put, .delete, .patch, .options, .head]

namespace Document

/-- The operations of a document, path by path. -/
def operations (doc : Document) : List Operation :=
  doc.paths.flatMap fun entry ↦ entry.2.operations

/-- The operation at a path and method. -/
def operationAt? (doc : Document) (path : String) (method : Method) : Option Operation :=
  (Keyed.get? path doc.paths).bind fun item ↦ item.at? method

/-- The definitions of the security schemes of a document. -/
def schemeTable (doc : Document) : List (String × SecurityScheme) :=
  (doc.components.bind Components.securitySchemes).getD []

/-- The names of the security schemes that an operation asks for. -/
def Operation.schemeNames (o : Operation) : List String :=
  o.security.flatMap Keyed.keys

/-! ## Endpoints -/

/-- The paths and methods that have an operation. -/
def endpoints (paths : List (String × PathItem)) : List (String × Method) :=
  paths.flatMap fun entry ↦
    (Method.all.filter fun method ↦ (entry.2.at? method).isSome).map fun method ↦ (entry.1, method)

theorem operations_eq_filterMap (item : PathItem) :
    item.operations = Method.all.filterMap item.at? := by
  change (Method.all.map item.at?).filterMap id = _
  rw [List.filterMap_map]
  rfl

theorem length_endpoints (paths : List (String × PathItem)) :
    (endpoints paths).length = (paths.flatMap fun entry ↦ entry.2.operations).length := by
  unfold endpoints
  simp only [List.length_flatMap, operations_eq_filterMap, List.length_map,
    List.length_filterMap_eq_countP, List.countP_eq_length_filter]

theorem mem_endpoints_iff {paths : List (String × PathItem)} (h : Keyed.Sorted paths)
    (path : String) (method : Method) :
    (path, method) ∈ endpoints paths ↔
      ((Keyed.get? path paths).bind fun item ↦ item.at? method) ≠ none := by
  have hall : method ∈ Method.all := by cases method <;> decide
  unfold endpoints
  simp only [List.mem_flatMap, List.mem_map, List.mem_filter, Prod.mk.injEq]
  constructor
  · rintro ⟨⟨key, item⟩, hmem, other, ⟨_, hat⟩, rfl, rfl⟩
    rw [(Keyed.mem_iff_get? h key item).1 hmem, Option.bind_some]
    exact Option.isSome_iff_ne_none.1 hat
  · intro hat
    obtain ⟨o, ho⟩ := Option.ne_none_iff_exists'.1 hat
    obtain ⟨item, hitem, hmethod⟩ := Option.bind_eq_some_iff.1 ho
    exact ⟨(path, item), Keyed.mem_of_get? hitem, method, ⟨hall, by simp [hmethod]⟩, rfl, rfl⟩

theorem nodup_endpoints {paths : List (String × PathItem)} (h : Keyed.Sorted paths) :
    (endpoints paths).Nodup := by
  unfold endpoints
  rw [List.nodup_flatMap]
  constructor
  · intro entry _
    have hall : Method.all.Nodup := by decide
    exact (hall.filter _).map fun _ _ heq ↦ (Prod.mk.inj heq).2
  · refine h.imp ?_
    intro first second hlt
    refine List.disjoint_left.2 ?_
    intro endpoint hfirst hsecond
    obtain ⟨_, _, rfl⟩ := List.mem_map.1 hfirst
    obtain ⟨_, _, heq⟩ := List.mem_map.1 hsecond
    exact absurd (Prod.mk.inj heq).1 (ne_of_gt hlt)

end Document

/-- A list without repetition is no longer than a list with the same elements, and as long exactly
if that one has no repetition either. -/
theorem length_of_mem_iff {α : Type} [DecidableEq α] {distinct all : List α}
    (hdistinct : distinct.Nodup) (hmem : ∀ a, a ∈ distinct ↔ a ∈ all) :
    distinct.length ≤ all.length ∧ (distinct.length = all.length ↔ all.Nodup) := by
  have hperm : distinct.Perm all.dedup := by
    rw [List.perm_ext_iff_of_nodup hdistinct (List.nodup_dedup all)]
    simpa using hmem
  have hsub := List.dedup_sublist all
  rw [hperm.length_eq]
  refine ⟨hsub.length_le, ?_, ?_⟩
  · intro hlength
    rw [← List.dedup_eq_self]
    exact hsub.eq_of_length hlength
  · intro hnodup
    rw [List.dedup_eq_self.2 hnodup]

namespace Builder

open Document (SecurityScheme)

variable {env : Env} {routes : List Route} {b : Builder}

/-! ## The finished document -/

theorem schemeTable_build (b : Builder) (g : Generator) :
    (b.build g).schemeTable = b.schemes.filter fun entry ↦ b.schemeNames.contains entry.1 := by
  unfold Document.schemeTable build Env.nonempty?
  simp only
  split
  · next hempty =>
    simp only [Bool.and_eq_true, List.isEmpty_iff] at hempty
    exact hempty.2.symm
  · cases b.schemes.filter fun entry ↦ b.schemeNames.contains entry.1 <;> simp

theorem get?_schemeTable_build (b : Builder) (g : Generator) (name : String) :
    Keyed.get? name (b.build g).schemeTable =
      if name ∈ b.schemeNames then Keyed.get? name b.schemes else none := by
  rw [schemeTable_build, Keyed.get?_filter fun key ↦ b.schemeNames.contains key]
  simp

theorem tags_build (b : Builder) (g : Generator) :
    (b.build g).tags.map Document.Tag.name =
      Keyed.sortNames (b.operations.flatMap Document.Operation.tags) := by
  simp [build, Function.comp_def]

namespace Describes

theorem find?_endpoint_ne_none_iff (routes : List Route) (endpoint : String × Method) :
    (routes.reverse.find? fun r ↦ endpoint? env r = some endpoint) ≠ none ↔
      endpoint ∈ routes.filterMap (endpoint? env) := by
  simp [List.mem_filterMap]

/-- An endpoint is occupied exactly if an accepted route asks for it. -/
theorem operationAt?_ne_none_iff (h : Describes env routes b) (path : String) (method : Method) :
    b.operationAt? path method ≠ none ↔ (path, method) ∈ routes.filterMap (endpoint? env) := by
  rw [h.operations, ← find?_endpoint_ne_none_iff]
  cases hfound : routes.reverse.find? fun r ↦ endpoint? env r = some (path, method) with
  | none => simp
  | some route =>
    have hroute : endpoint? env route = some (path, method) := by
      simpa using List.find?_some hfound
    obtain ⟨handler, hh, _⟩ := Option.map_eq_some_iff.1 hroute
    simp [operation?, hh]

/-- Every operation in the paths is that of an accepted route. -/
theorem route_of_mem_operations (h : Describes env routes b) {o : Document.Operation}
    (ho : o ∈ b.operations) : ∃ route ∈ routes, operation? env route = some o := by
  obtain ⟨⟨path, item⟩, hmem, hitem⟩ := List.mem_flatMap.1 ho
  obtain ⟨method, hat⟩ := (mem_operations_iff item o).1 hitem
  have hplace : b.operationAt? path method = some o := by
    unfold operationAt?
    rw [(Keyed.mem_iff_get? h.tidy.sorted path item).1 hmem]
    exact hat
  rw [h.operations] at hplace
  obtain ⟨route, hroute, hmade⟩ := Option.bind_eq_some_iff.1 hplace
  exact ⟨route, List.mem_reverse.1 (List.mem_of_find?_eq_some hroute), hmade⟩

/-- The operation of a route asks for the schemes of its requirements. -/
theorem mem_schemeNames_iff {route : Route} {o : Document.Operation}
    (ho : operation? env route = some o) (name : String) :
    name ∈ o.schemeNames ↔ ∃ r ∈ requirements env route, r.schemeName = name := by
  obtain ⟨handler, hh, rfl⟩ := Option.map_eq_some_iff.1 ho
  simp [Document.Operation.schemeNames, operation, requirements, hh, Keyed.keys, eq_comm]

/-- A scheme that an operation asks for is defined. -/
theorem get?_schemes_ne_none (h : Describes env routes b) {name : String}
    (hname : name ∈ b.schemeNames) : Keyed.get? name b.schemes ≠ none := by
  obtain ⟨o, ho, hasked⟩ := List.mem_flatMap.1 hname
  obtain ⟨route, hroute, hmade⟩ := h.route_of_mem_operations ho
  obtain ⟨r, hr, hscheme⟩ := (mem_schemeNames_iff hmade name).1 hasked
  rw [h.schemes]
  simp only [ne_eq, Option.map_eq_none_iff, List.find?_eq_none, not_forall]
  exact ⟨r, List.mem_flatMap.2 ⟨route, hroute, hr⟩, by simpa using hscheme⟩

theorem mem_keys_schemeTable_iff (h : Describes env routes b) (g : Generator) (name : String) :
    name ∈ Keyed.keys (b.build g).schemeTable ↔ ∃ o ∈ b.operations, name ∈ o.schemeNames := by
  have hnames : name ∈ b.schemeNames ↔ ∃ o ∈ b.operations, name ∈ o.schemeNames :=
    List.mem_flatMap
  rw [Keyed.mem_keys_iff, get?_schemeTable_build, ← hnames]
  by_cases hname : name ∈ b.schemeNames
  · simpa [hname] using h.get?_schemes_ne_none hname
  · simp [hname]

/-- The definition of the API key scheme names the header of the first requirement for one. -/
theorem apiKey_of_get? (h : Describes env routes b) {scheme : SecurityScheme}
    (hscheme : Keyed.get? "apiKeyAuth" b.schemes = some scheme) :
    ∃ header, documentedHeader? env routes = some header ∧ scheme = schemeOf (.apiKey header) := by
  have hheader := h.header?_eq
  unfold header? at hheader
  rw [hscheme] at hheader
  rw [h.schemes] at hscheme
  obtain ⟨r, hr, rfl⟩ := Option.map_eq_some_iff.1 hscheme
  have hname := List.find?_some hr
  cases r with
  | apiKey header => exact ⟨header, hheader.symm, rfl⟩
  | basic | bearer scopes => simp [Security.schemeName] at hname

end Describes

/-- The count of a run is the number of accepted routes. -/
theorem count_addRoutes (env : Env) (b : Builder) (s : Session) (routes : List Route) :
    (addRoutes env b s routes).1 = (routes.filterMap (endpoint? env)).length := by
  induction routes using List.reverseRecOn with
  | nil => rfl
  | append_singleton routes route ih =>
    rw [addRoutes_concat, List.filterMap_append, List.length_append, ← ih]
    cases hh : env.catalog.handler? route.handler with
    | none => simp [addRoute_unknown _ _ hh, endpoint?, hh]
    | some handler =>
      obtain ⟨notices, hadded⟩ := addRoute_known (addRoutes env b s routes).2.1
        (addRoutes env b s routes).2.2 hh
      simp [hadded, endpoint?, hh]

theorem addRoute_eq_false_iff (env : Env) (b : Builder) (s : Session) (route : Route) :
    (addRoute env b s route).1 = false ↔ env.catalog.handler? route.handler = none := by
  cases hh : env.catalog.handler? route.handler with
  | none => simp [addRoute_unknown b s hh]
  | some handler =>
    obtain ⟨notices, hadded⟩ := addRoute_known b s hh
    simp [hadded]

/-- Adding routes one after the other to a new builder, with a generator in any state, and building
the document:
a route is refused exactly if its handler is unknown, and then only one diagnostic is added;
an endpoint has the operation of the last accepted route for it, or none if there is no such route,
and there are as many operations as accepted routes exactly if no endpoint comes twice;
the schemes and the sorted tags are those of the operations in the document;
the documented API key header is that of the first accepted requirement for one, and there is one
diagnostic for each refused route and each accepted requirement with another header. -/
theorem document_of_routes (env : Env) (s : Session) (routes : List Route) :
    let done := addRoutes env (Builder.new env.config) s routes
    let doc := done.2.1.build done.2.2.generator
    (∀ (b : Builder) (s : Session) (route : Route),
      ((addRoute env b s route).1 = false ↔ env.catalog.handler? route.handler = none) ∧
      ((addRoute env b s route).1 = false →
        (addRoute env b s route).2.1 =
          { b with diagnostics := b.diagnostics ++ [unknownNotice route] } ∧
        (addRoute env b s route).2.2.generator = s.generator)) ∧
    ((∀ path method, doc.operationAt? path method =
        (routes.reverse.find? fun r ↦ endpoint? env r = some (path, method)).bind
          (operation? env)) ∧
      (∀ path method, doc.operationAt? path method ≠ none ↔
        (path, method) ∈ routes.filterMap (endpoint? env)) ∧
      doc.operations.length ≤ done.1 ∧
      (doc.operations.length = done.1 ↔ (routes.filterMap (endpoint? env)).Nodup)) ∧
    (∀ name, name ∈ Keyed.keys doc.schemeTable ↔ ∃ o ∈ doc.operations, name ∈ o.schemeNames) ∧
    ((doc.tags.map Document.Tag.name).Pairwise (· < ·) ∧
      ∀ tag, tag ∈ doc.tags.map Document.Tag.name ↔ ∃ o ∈ doc.operations, tag ∈ o.tags) ∧
    (∀ scheme, Keyed.get? "apiKeyAuth" doc.schemeTable = some scheme →
      ∃ header, documentedHeader? env routes = some header ∧
        scheme = schemeOf (.apiKey header)) ∧
    done.2.1.diagnostics = routes.flatMap (routeNotices env (documentedHeader? env routes)) := by
  intro done doc
  have hdone : Describes env routes done.2.1 := describes_addRoutes env s routes
  have hoccupied : ∀ path method, doc.operationAt? path method ≠ none ↔
      (path, method) ∈ routes.filterMap (endpoint? env) := hdone.operationAt?_ne_none_iff
  have hlength := length_of_mem_iff (Document.nodup_endpoints hdone.tidy.sorted) fun endpoint ↦
    (Document.mem_endpoints_iff hdone.tidy.sorted endpoint.1 endpoint.2).trans
      (hoccupied endpoint.1 endpoint.2)
  rw [Document.length_endpoints, ← count_addRoutes env (Builder.new env.config) s] at hlength
  refine ⟨?_, ⟨hdone.operations, hoccupied, hlength⟩, ?_, ⟨?_, ?_⟩, ?_, hdone.diagnostics⟩
  · intro b s route
    refine ⟨addRoute_eq_false_iff env b s route, fun hrefused ↦ ?_⟩
    rw [addRoute_unknown b s ((addRoute_eq_false_iff env b s route).1 hrefused)]
    exact ⟨rfl, rfl⟩
  · exact hdone.mem_keys_schemeTable_iff _
  · rw [tags_build]
    exact Keyed.pairwise_sortNames _
  · intro tag
    rw [tags_build, Keyed.mem_sortNames]
    exact List.mem_flatMap
  · intro scheme hscheme
    rw [get?_schemeTable_build] at hscheme
    split at hscheme
    · exact hdone.apiKey_of_get? hscheme
    · simp at hscheme

end Builder

end ApiAtlas

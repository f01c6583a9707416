import ApiAtlas.Proofs.Operation
import Mathlib.Data.List.Dedup

/-!
# Registering routes

What a builder holds after any sequence of routes, said of the routes alone. An endpoint has the
operation of the last route that was accepted for it. A scheme has the definition of the first
requirement that asks for it, also where the route of that requirement was replaced later, and the
first API key header is the documented one. The diagnostics tell of every route that was not
accepted and of every API key header that is not the documented one. The finished document shows
the schemes and tags of those operations only that are still there.
-/

namespace ApiAtlas

/-- The header of a requirement for an API key. -/
def Security.header? : Security → Option String
  | .apiKey header => some header
  | _ => none

namespace Builder

open Document (PathItem SecurityScheme)

variable {env : Env}

/-! ## What a route brings in -/

/-- The path and method under which a route is documented, if its handler is known. -/
def endpoint? (env : Env) (route : Route) : Option (String × Method) :=
  (env.catalog.handler? route.handler).map fun h ↦ (route.path, effectiveMethod route h)

/-- The operation that a route stands for, if its handler is known. -/
def operation? (env : Env) (route : Route) : Option Document.Operation :=
  (env.catalog.handler? route.handler).map fun h ↦
    (operation env env.config.parameterStyle (effectiveMethod route h) route h).value

/-- The requirements of a route, if its handler is known. -/
def requirements (env : Env) (route : Route) : List Security :=
  if (env.catalog.handler? route.handler).isSome then route.security else []

/-- The header of the first requirement for an API key among the accepted routes. -/
def documentedHeader? (env : Env) (routes : List Route) : Option String :=
  (routes.flatMap (requirements env)).findSome? Security.header?

/-- The notice about a requirement for an API key in another header than the documented one. -/
def conflict? (documented : Option String) (method : Method) (path : String)
    (requirement : Security) : Option Notice :=
  documented.bind fun documented ↦ requirement.header?.bind fun header ↦
    if documented = header then none
    else some (.conflictingHeader header method.name path documented)

/-- The diagnostics about a route, for a documented header. -/
def routeNotices (env : Env) (documented : Option String) (route : Route) : List Notice :=
  match env.catalog.handler? route.handler with
  | none => [unknownNotice route]
  | some h => route.security.filterMap (conflict? documented (effectiveMethod route h) route.path)

/-! ## Schemes -/

/-- The first requirement that asks for a scheme defines it. -/
theorem get?_addScheme (b : Builder) (method : Method) (path : String) (requirement : Security)
    (name : String) :
    Keyed.get? name (b.addScheme method path requirement).1.schemes =
      (Keyed.get? name b.schemes).or
        (if requirement.schemeName = name then some (schemeOf requirement) else none) := by
  unfold addScheme
  by_cases hname : requirement.schemeName = name
  · subst hname
    split
    · next hnone => simp [hnone]
    · next existing hsome =>
      rw [hsome, Option.some_or, ← hsome]
      split
      · simp only
        split <;> rfl
      · rfl
  · rw [if_neg hname, Option.or_none]
    split
    · exact Keyed.get?_insert_of_ne _ _ (Ne.symm hname)
    · split
      · simp only
        split <;> rfl
      · rfl

theorem get?_addSchemes (b : Builder) (method : Method) (path : String)
    (requirements : List Security) (name : String) :
    Keyed.get? name (b.addSchemes method path requirements).1.schemes =
      (Keyed.get? name b.schemes).or
        ((requirements.find? fun r ↦ r.schemeName = name).map schemeOf) := by
  rw [addSchemes_eq_foldl]
  induction requirements generalizing b with
  | nil => simp
  | cons first rest ih =>
    rw [List.foldl_cons, ih, get?_addScheme, Option.or_assoc, List.find?_cons]
    by_cases hname : first.schemeName = name <;> simp [hname]

theorem sorted_addScheme {b : Builder} (h : Keyed.Sorted b.schemes) (method : Method)
    (path : String) (requirement : Security) :
    Keyed.Sorted (b.addScheme method path requirement).1.schemes := by
  unfold addScheme
  split
  · exact Keyed.sorted_insert _ _ h
  · split
    · simp only
      split <;> exact h
    · exact h

theorem sorted_addSchemes {b : Builder} (h : Keyed.Sorted b.schemes) (method : Method)
    (path : String) (requirements : List Security) :
    Keyed.Sorted (b.addSchemes method path requirements).1.schemes := by
  rw [addSchemes_eq_foldl]
  exact List.foldlRecOn (motive := fun b : Builder ↦ Keyed.Sorted b.schemes) requirements _ h
    fun _ hfound requirement _ ↦ sorted_addScheme hfound method path requirement

/-! ## Headers of API keys -/

/-- The API key header that a builder documents. -/
def header? (b : Builder) : Option String :=
  (Keyed.get? "apiKeyAuth" b.schemes).map fun scheme ↦ scheme.name.getD ""

theorem header?_of_schemeName (requirement : Security) :
    (if requirement.schemeName = "apiKeyAuth" then some (schemeOf requirement) else none).map
      (fun scheme ↦ scheme.name.getD "") = requirement.header? := by
  cases requirement <;> rfl

theorem header?_addScheme (b : Builder) (method : Method) (path : String)
    (requirement : Security) :
    (b.addScheme method path requirement).1.header? = b.header?.or requirement.header? := by
  unfold header?
  rw [get?_addScheme, Option.map_or, header?_of_schemeName]

theorem diagnostics_addScheme (b : Builder) (method : Method) (path : String)
    (requirement : Security) :
    (b.addScheme method path requirement).1.diagnostics =
      b.diagnostics ++ (conflict? b.header? method path requirement).toList := by
  unfold addScheme conflict? header?
  cases requirement with
  | basic | bearer scopes =>
    simp only [Security.header?, Option.bind_none, Option.bind_fun_none, Option.toList_none,
      List.append_nil]
    split <;> rfl
  | apiKey header =>
    simp only [Security.header?, Security.schemeName, Option.bind_some]
    split
    · next hnone => simp [hnone]
    · next existing hsome =>
      rw [hsome]
      by_cases hheader : existing.name.getD "" = header <;> simp [hheader]

/-- The first requirement for an API key is in no conflict, and each other one is compared with
it. -/
theorem diagnostics_addSchemes (b : Builder) (method : Method) (path : String)
    (requirements : List Security) :
    (b.addSchemes method path requirements).1.diagnostics =
      b.diagnostics ++ requirements.filterMap
        (conflict? (b.header?.or (requirements.findSome? Security.header?)) method path) := by
  rw [addSchemes_eq_foldl]
  induction requirements generalizing b with
  | nil => simp
  | cons first rest ih =>
    have hfirst : conflict? b.header? method path first =
        conflict? (b.header?.or ((first :: rest).findSome? Security.header?)) method path
          first := by
      cases hb : b.header? with
      | some documented => rfl
      | none => cases first <;> simp [conflict?, Security.header?, List.findSome?_cons]
    have hdocumented : (b.addScheme method path first).1.header?.or
        (rest.findSome? Security.header?) =
          b.header?.or ((first :: rest).findSome? Security.header?) := by
      rw [header?_addScheme, Option.or_assoc, List.findSome?_cons]
      cases first.header? <;> rfl
    rw [List.foldl_cons, ih, diagnostics_addScheme, hdocumented, hfirst, List.append_assoc,
      List.filterMap_cons]
    cases conflict? _ method path first <;> rfl

/-! ## Paths -/

/-- A table of paths in order, in which every path has an operation. -/
structure Tidy (paths : List (String × PathItem)) : Prop where
  sorted : Keyed.Sorted paths
  occupied : ∀ path item, Keyed.get? path paths = some item → ∃ method, item.at? method ≠ none

@[simp]
theorem schemes_place (b : Builder) (method : Method) (path : String) (o : Document.Operation) :
    (b.place method path o).1.schemes = b.schemes := rfl

@[simp]
theorem diagnostics_place (b : Builder) (method : Method) (path : String)
    (o : Document.Operation) : (b.place method path o).1.diagnostics = b.diagnostics := rfl

theorem Tidy.place {b : Builder} (h : Tidy b.paths) (method : Method) (path : String)
    (o : Document.Operation) : Tidy (b.place method path o).1.paths where
  sorted := Keyed.sorted_insert _ _ h.sorted
  occupied := by
    intro other item hitem
    unfold Builder.place at hitem
    rw [Keyed.get?_insert] at hitem
    split at hitem
    · refine ⟨method, ?_⟩
      rw [← Option.some.inj hitem, at?_set, if_pos rfl]
      simp
    · exact h.occupied other item hitem

/-! ## One route after the other -/

/-- What a builder holds after a list of routes. -/
structure Describes (env : Env) (routes : List Route) (b : Builder) : Prop where
  info : b.info = env.config.info
  parameterStyle : b.parameterStyle = env.config.parameterStyle
  tidy : Tidy b.paths
  operations : ∀ path method, b.operationAt? path method =
    (routes.reverse.find? fun r ↦ endpoint? env r = some (path, method)).bind (operation? env)
  sorted : Keyed.Sorted b.schemes
  schemes : ∀ name, Keyed.get? name b.schemes =
    ((routes.flatMap (requirements env)).find? fun r ↦ r.schemeName = name).map schemeOf
  diagnostics : b.diagnostics =
    routes.flatMap (routeNotices env (documentedHeader? env routes))

theorem findSome?_header? (requirements : List Security) :
    requirements.findSome? Security.header? =
      ((requirements.find? fun r ↦ r.schemeName = "apiKeyAuth").map schemeOf).map
        fun scheme ↦ scheme.name.getD "" := by
  induction requirements with
  | nil => rfl
  | cons first rest ih =>
    rw [List.findSome?_cons, List.find?_cons, ih]
    cases first <;> rfl

theorem Describes.header?_eq {routes : List Route} {b : Builder} (h : Describes env routes b) :
    b.header? = documentedHeader? env routes := by
  unfold header? documentedHeader?
  rw [h.schemes, findSome?_header?]

theorem documentedHeader?_concat (env : Env) (routes : List Route) (route : Route) :
    documentedHeader? env (routes ++ [route]) =
      (documentedHeader? env routes).or ((requirements env route).findSome? Security.header?) := by
  simp [documentedHeader?, List.findSome?_append]

/-- Where no route asks for an API key, it does not matter which header is documented. -/
theorem routeNotices_of_none {routes : List Route} (h : documentedHeader? env routes = none)
    {route : Route} (hroute : route ∈ routes) (documented : Option String) :
    routeNotices env none route = routeNotices env documented route := by
  unfold routeNotices
  cases hh : env.catalog.handler? route.handler with
  | none => rfl
  | some handler =>
    apply List.filterMap_congr
    intro requirement hmem
    have hrequired : requirement ∈ routes.flatMap (requirements env) :=
      List.mem_flatMap.2 ⟨route, hroute, by simpa [requirements, hh] using hmem⟩
    have hheader := List.findSome?_eq_none_iff.1 h requirement hrequired
    simp [conflict?, hheader]

/-- A later route changes nothing in the diagnostics about earlier ones. -/
theorem flatMap_routeNotices_concat (env : Env) (routes : List Route) (route : Route) :
    routes.flatMap (routeNotices env (documentedHeader? env (routes ++ [route]))) =
      routes.flatMap (routeNotices env (documentedHeader? env routes)) := by
  rw [documentedHeader?_concat]
  cases hheader : documentedHeader? env routes with
  | some header => rfl
  | none =>
    apply List.flatMap_congr
    intro earlier hearlier
    exact (routeNotices_of_none hheader hearlier _).symm

theorem find?_reverse_concat (p : Route → Bool) (routes : List Route) (route : Route) :
    (routes ++ [route]).reverse.find? p =
      if p route then some route else routes.reverse.find? p := by
  rw [List.reverse_append, List.reverse_singleton, List.singleton_append, List.find?_cons]
  cases p route <;> rfl

namespace Describes

variable {routes : List Route} {b : Builder}

theorem new (env : Env) : Describes env [] (Builder.new env.config) where
  info := rfl
  parameterStyle := rfl
  tidy := ⟨Keyed.sorted_nil, by simp [Builder.new]⟩
  operations := fun _ _ ↦ rfl
  sorted := Keyed.sorted_nil
  schemes := fun _ ↦ rfl
  diagnostics := rfl

/-- A route with an unknown handler is told of and leaves no other trace. -/
theorem skip (h : Describes env routes b) {route : Route}
    (hh : env.catalog.handler? route.handler = none) :
    Describes env (routes ++ [route])
      { b with diagnostics := b.diagnostics ++ [unknownNotice route] } where
  info := h.info
  parameterStyle := h.parameterStyle
  tidy := h.tidy
  operations := by
    intro path method
    rw [find?_reverse_concat, if_neg (by simp [endpoint?, hh])]
    exact h.operations path method
  sorted := h.sorted
  schemes := by
    intro name
    simpa [requirements, hh] using h.schemes name
  diagnostics := by
    rw [List.flatMap_append, flatMap_routeNotices_concat, h.diagnostics]
    simp [routeNotices, hh]

/-- A route with a known handler adds its schemes and takes the place of its endpoint. -/
theorem accept (h : Describes env routes b) {route : Route} {handler : Handler}
    (hh : env.catalog.handler? route.handler = some handler) :
    Describes env (routes ++ [route])
      (((b.addSchemes (effectiveMethod route handler) route.path route.security).1.place
        (effectiveMethod route handler) route.path (made env b route handler).value).1) := by
  have hsame := sameBut_addSchemes b (effectiveMethod route handler) route.path route.security
  have hrequired : requirements env route = route.security := by simp [requirements, hh]
  constructor
  · exact hsame.info.trans h.info
  · exact hsame.parameterStyle.trans h.parameterStyle
  · exact Tidy.place (hsame.paths ▸ h.tidy) _ _ _
  · intro path method
    have hendpoint : endpoint? env route = some (path, method) ↔
        (path, method) = (route.path, effectiveMethod route handler) := by
      simp [endpoint?, hh, eq_comm]
    have hplaced : operation? env route = some (made env b route handler).value := by
      simp [operation?, hh, made, h.parameterStyle]
    have hkept : (b.addSchemes (effectiveMethod route handler) route.path
        route.security).1.operationAt? path method = b.operationAt? path method := by
      unfold operationAt?
      rw [hsame.paths]
    rw [operationAt?_place, find?_reverse_concat, hkept, h.operations]
    simp only [decide_eq_true_eq, hendpoint]
    split
    · exact hplaced.symm
    · rfl
  · exact sorted_addSchemes h.sorted _ _ _
  · intro name
    have hadded := get?_addSchemes b (effectiveMethod route handler) route.path route.security name
    rw [List.flatMap_append, List.find?_append, Option.map_or, ← h.schemes]
    simpa [hrequired] using hadded
  · have hadded := diagnostics_addSchemes b (effectiveMethod route handler) route.path
      route.security
    rw [h.header?_eq, ← hrequired, ← documentedHeader?_concat, hrequired, h.diagnostics,
      ← flatMap_routeNotices_concat env routes route] at hadded
    rw [List.flatMap_append]
    simpa [routeNotices, hh] using hadded

theorem addRoute (h : Describes env routes b) (s : Session) (route : Route) :
    Describes env (routes ++ [route]) (addRoute env b s route).2.1 := by
  cases hh : env.catalog.handler? route.handler with
  | none =>
    rw [addRoute_unknown b s hh]
    exact h.skip hh
  | some handler =>
    obtain ⟨notices, hadded⟩ := addRoute_known b s hh
    rw [hadded]
    exact h.accept hh

end Describes

theorem addRoutes_concat (env : Env) (b : Builder) (s : Session) (routes : List Route)
    (route : Route) :
    addRoutes env b s (routes ++ [route]) =
      let before := addRoutes env b s routes
      let added := addRoute env before.2.1 before.2.2 route
      (if added.1 then before.1 + 1 else before.1, added.2) :=
  List.foldl_append

/-- A new builder holds what the routes describe, after any list of them. -/
theorem describes_addRoutes (env : Env) (s : Session) (routes : List Route) :
    Describes env routes (addRoutes env (Builder.new env.config) s routes).2.1 := by
  induction routes using List.reverseRecOn with
  | nil => exact Describes.new env
  | append_singleton routes route ih =>
    rw [addRoutes_concat]
    exact ih.addRoute _ route

end Builder

end ApiAtlas

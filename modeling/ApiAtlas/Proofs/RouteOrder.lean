import ApiAtlas.Proofs.Contents
import ApiAtlas.Proofs.History

/-!
# The order of routes

A document does not depend on the order in which routes are added, as long as no two accepted routes
share an endpoint and all API keys are carried by the same header. Each part of the document is
determined by what the routes bring in, whatever their order: the registry by the components that
their operations mention, though a component may be made on the way to different ones; the schemes
by the requirements, since those of one scheme define it alike; and the paths by the endpoints.
-/

namespace ApiAtlas

/-! ## The registry -/

namespace Env

variable {env : Env}

theorem type?_ne_none_of_follows {name other : String} (h : env.Follows name other) :
    env.catalog.type? other ≠ none := by
  obtain ⟨d, _, hmention⟩ := (env.follows_iff_leads name other).1 h
  exact type?_ne_none_of_hasType hmention.hasType

end Env

namespace Session

variable {env : Env}

/-- Reporting notices is a run of its own. -/
theorem runs_report (env : Env) (s : Session) (notices : List Notice) :
    Runs env s (notices.map Step.report) (s.report notices) := by
  induction notices generalizing s with
  | nil =>
    have hnil : Runs env s [] s := .nil s
    simpa [report] using hnil
  | cons notice rest ih =>
    have hrest := ih (s.report [notice])
    refine .report ?_
    simpa [report] using hrest

/-- A component made by one run is made by every run with the same mentions. -/
theorem Runs.slot?_ne_none_of_mentions {steps steps' : List Step} {t t' : Session}
    (h : Runs env {} steps t) (h' : Runs env {} steps' t')
    (hmentions : ∀ name, Step.mention name ∈ steps → Step.mention name ∈ steps') {name : String}
    (hmade : t.slot? name ≠ none) : t'.slot? name ≠ none := by
  obtain ⟨root, hroot, hpath⟩ := h.reaches (slot?_empty name) hmade
  have hknown : env.catalog.type? root ≠ none := by
    rcases Relation.ReflTransGen.cases_head hpath with rfl | ⟨_, ⟨d, hd, _⟩, _⟩
    · obtain ⟨slot, hslot⟩ := Option.ne_none_iff_exists'.1 hmade
      obtain ⟨d, hd, _⟩ := (h.settled (settled_empty env)).ready root slot hslot
      simp [hd]
    · simp [hd]
  exact (h'.settled (settled_empty env)).slot?_of_path (fun _ _ ↦ Env.type?_ne_none_of_follows)
    (h'.covers (hmentions root hroot) hknown) hpath

/-- Runs with the same mentions, in whatever order and number, end with the same registry. -/
theorem Runs.registry_eq {steps steps' : List Step} {t t' : Session}
    (h : Runs env {} steps t) (h' : Runs env {} steps' t')
    (hmentions : ∀ name, Step.mention name ∈ steps ↔ Step.mention name ∈ steps') :
    t.generator.registry = t'.generator.registry := by
  have hsettled := h.settled (settled_empty env)
  have hsettled' := h'.settled (settled_empty env)
  apply Keyed.eq_of_get? hsettled.sorted hsettled'.sorted
  intro name
  change t.slot? name = t'.slot? name
  have hmade : t.slot? name ≠ none ↔ t'.slot? name ≠ none :=
    ⟨h.slot?_ne_none_of_mentions h' fun other ↦ (hmentions other).1,
      h'.slot?_ne_none_of_mentions h fun other ↦ (hmentions other).2⟩
  cases hslot : t.slot? name with
  | none =>
    have hnone : ¬ t'.slot? name ≠ none := hmade.not.1 (by simp [hslot])
    exact (not_not.1 hnone).symm
  | some slot =>
    obtain ⟨slot', hslot'⟩ := Option.ne_none_iff_exists'.1 (hmade.1 (by simp [hslot]))
    obtain ⟨d, hd, rfl⟩ := hsettled.ready name slot hslot
    obtain ⟨d', hd', rfl⟩ := hsettled'.ready name slot' hslot'
    obtain rfl := Option.some.inj (hd.symm.trans hd')
    exact hslot'.symm

end Session

namespace Builder

variable {env : Env}

/-- The steps that adding a route takes. -/
def routeSteps (env : Env) (route : Route) : List Step :=
  match env.catalog.handler? route.handler with
  | none => []
  | some h => (operation env env.config.parameterStyle (effectiveMethod route h) route h).steps

theorem runs_addRoute {b : Builder} (hstyle : b.parameterStyle = env.config.parameterStyle)
    (s : Session) (route : Route) :
    ∃ notices : List Notice, Session.Runs env s (routeSteps env route ++ notices.map .report)
      (addRoute env b s route).2.2 := by
  unfold routeSteps
  cases hh : env.catalog.handler? route.handler with
  | none =>
    rw [addRoute_unknown b s hh]
    exact ⟨[unknownNotice route], Session.runs_report env s _⟩
  | some handler =>
    obtain ⟨notices, hadded⟩ := addRoute_known b s hh
    have hmade := Session.runs_run env s (made env b route handler)
    rw [hadded]
    unfold made at hmade ⊢
    rw [hstyle] at hmade ⊢
    exact ⟨notices, hmade.append (Session.runs_report env _ notices)⟩

/-- Adding routes is a run that mentions what their operations mention. -/
theorem runs_addRoutes (env : Env) (s : Session) (routes : List Route) :
    ∃ steps, Session.Runs env s steps (addRoutes env (Builder.new env.config) s routes).2.2 ∧
      ∀ name, Step.mention name ∈ steps ↔
        ∃ route ∈ routes, Step.mention name ∈ routeSteps env route := by
  induction routes using List.reverseRecOn with
  | nil => exact ⟨[], .nil s, by simp⟩
  | append_singleton routes route ih =>
    obtain ⟨steps, hruns, hmentions⟩ := ih
    have hstyle := (describes_addRoutes env s routes).parameterStyle
    obtain ⟨notices, hadded⟩ := runs_addRoute hstyle
      (addRoutes env (Builder.new env.config) s routes).2.2 route
    rw [addRoutes_concat]
    refine ⟨_, hruns.append hadded, ?_⟩
    intro name
    simp [hmentions, or_and_right, exists_or]

/-! ## Paths -/

theorem eq_of_at? {item other : Document.PathItem}
    (h : ∀ method, item.at? method = other.at? method) : item = other := by
  have hget := h .get
  have hpost := h .post
  have hput := h .put
  have hdelete := h .delete
  have hpatch := h .patch
  have hoptions := h .options
  have hhead := h .head
  cases item
  cases other
  simp_all [Document.PathItem.at?]

/-- Tables of paths with the same operations are the same. -/
theorem Tidy.paths_eq {b b' : Builder} (h : Tidy b.paths) (h' : Tidy b'.paths)
    (hat : ∀ path method, b.operationAt? path method = b'.operationAt? path method) :
    b.paths = b'.paths := by
  unfold operationAt? at hat
  apply Keyed.eq_of_get? h.sorted h'.sorted
  intro path
  have hpath := hat path
  cases hitem : Keyed.get? path b.paths with
  | none =>
    cases hitem' : Keyed.get? path b'.paths with
    | none => rfl
    | some item' =>
      obtain ⟨method, hmethod⟩ := h'.occupied path item' hitem'
      have hempty := hpath method
      simp only [hitem, hitem', Option.bind_none, Option.bind_some] at hempty
      exact absurd hempty.symm hmethod
  | some item =>
    cases hitem' : Keyed.get? path b'.paths with
    | none =>
      obtain ⟨method, hmethod⟩ := h.occupied path item hitem
      have hempty := hpath method
      simp only [hitem, hitem', Option.bind_none, Option.bind_some] at hempty
      exact absurd hempty hmethod
    | some item' =>
      simp only [hitem, hitem', Option.bind_some] at hpath
      rw [eq_of_at? hpath]

theorem eq_of_perm_of_length_le_one {α : Type} {l l' : List α} (h : l.Perm l')
    (hlength : l.length ≤ 1) : l = l' := by
  match l, hlength with
  | [], _ => exact (List.nil_perm.1 h).symm
  | [a], _ => exact List.singleton_perm.1 h

/-- With distinct endpoints the last route for an endpoint is the only one. -/
theorem find?_reverse_eq_of_perm {routes routes' : List Route} (hperm : routes.Perm routes')
    (hdistinct : (routes.filterMap (endpoint? env)).Nodup) (endpoint : String × Method) :
    (routes.reverse.find? fun r ↦ endpoint? env r = some endpoint) =
      routes'.reverse.find? fun r ↦ endpoint? env r = some endpoint := by
  have hlength : (routes.filter fun r ↦ endpoint? env r = some endpoint).length ≤ 1 := by
    have hcount := List.nodup_iff_count_le_one.1 hdistinct endpoint
    rw [List.count_filterMap, List.countP_eq_length_filter] at hcount
    simpa only [beq_eq_decide] using hcount
  have hfilter := eq_of_perm_of_length_le_one (hperm.filter _) hlength
  rw [← List.head?_filter, ← List.head?_filter, List.filter_reverse, List.filter_reverse, hfilter]

/-! ## Schemes -/

/-- All requirements for an API key ask for the same header. -/
def OneHeader (requirements : List Security) : Prop :=
  ∀ header header', .apiKey header ∈ requirements → .apiKey header' ∈ requirements →
    header = header'

theorem schemeOf_eq_of_schemeName {requirements : List Security} (hone : OneHeader requirements)
    {r r' : Security} (hr : r ∈ requirements) (hr' : r' ∈ requirements)
    (hname : r.schemeName = r'.schemeName) : schemeOf r = schemeOf r' := by
  cases r <;> cases r' <;> simp [Security.schemeName] at hname
  · rfl
  · rfl
  · rw [hone _ _ hr hr']

theorem map_find?_eq_of_perm {requirements requirements' : List Security}
    (hperm : requirements.Perm requirements') (hone : OneHeader requirements) (name : String) :
    (requirements.find? fun r ↦ r.schemeName = name).map schemeOf =
      (requirements'.find? fun r ↦ r.schemeName = name).map schemeOf := by
  cases hfound : requirements.find? fun r ↦ r.schemeName = name with
  | none =>
    have hnone : (requirements'.find? fun r ↦ r.schemeName = name) = none := by
      rw [List.find?_eq_none] at hfound ⊢
      exact fun r hr ↦ hfound r (hperm.mem_iff.2 hr)
    rw [hnone]
  | some r =>
    have hr := List.mem_of_find?_eq_some hfound
    have hname : r.schemeName = name := by simpa using List.find?_some hfound
    cases hfound' : requirements'.find? fun r ↦ r.schemeName = name with
    | none =>
      have hmissing := List.find?_eq_none.1 hfound' r (hperm.mem_iff.1 hr)
      simp [hname] at hmissing
    | some r' =>
      have hr' := hperm.mem_iff.2 (List.mem_of_find?_eq_some hfound')
      have hname' : r'.schemeName = name := by simpa using List.find?_some hfound'
      exact congrArg some (schemeOf_eq_of_schemeName hone hr hr' (hname.trans hname'.symm))

/-! ## The document -/

/-- The document of a list of routes. -/
def documentOf (env : Env) (routes : List Route) : Document :=
  let done := addRoutes env (Builder.new env.config) {} routes
  done.2.1.build done.2.2.generator

theorem build_congr {b b' : Builder} {g g' : Generator} (hinfo : b.info = b'.info)
    (hpaths : b.paths = b'.paths) (hschemes : b.schemes = b'.schemes)
    (hregistry : g.registry = g'.registry) : b.build g = b'.build g' := by
  unfold build schemeNames operations Generator.schemas
  rw [hinfo, hpaths, hschemes, hregistry]

/-- Routes in any two orders give the same document, if no two accepted routes share an endpoint and
all their requirements for an API key ask for the same header. -/
theorem documentOf_perm (env : Env) (routes routes' : List Route) (hperm : routes.Perm routes')
    (hdistinct : (routes.filterMap (endpoint? env)).Nodup)
    (hone : OneHeader (routes.flatMap (requirements env))) :
    documentOf env routes = documentOf env routes' := by
  have hdone := describes_addRoutes env {} routes
  have hdone' := describes_addRoutes env {} routes'
  obtain ⟨steps, hruns, hmentions⟩ := runs_addRoutes env {} routes
  obtain ⟨steps', hruns', hmentions'⟩ := runs_addRoutes env {} routes'
  apply build_congr
  · rw [hdone.info, hdone'.info]
  · apply hdone.tidy.paths_eq hdone'.tidy
    intro path method
    rw [hdone.operations, hdone'.operations, find?_reverse_eq_of_perm hperm hdistinct]
  · apply Keyed.eq_of_get? hdone.sorted hdone'.sorted
    intro name
    rw [hdone.schemes, hdone'.schemes]
    exact map_find?_eq_of_perm (hperm.flatMap_right _) hone name
  · apply hruns.registry_eq hruns'
    intro name
    rw [hmentions, hmentions']
    simp only [hperm.mem_iff]

/-! ## Types in a circle, entered at both ends -/

/-- An API with two types that refer to each other and a handler for each. -/
def graph : Env where
  catalog :=
    { types :=
        [{ name := "Node", fields := [.plain "edges" (.sequence (.named "Edge"))] },
         { name := "Edge", fields := [.plain "target" (.generic "Box" [.named "Node"])] }]
      handlers :=
        [{ name := "list_nodes", request := .named "()", response := some (.named "Node") },
         { name := "list_edges", request := .named "()", response := some (.named "Edge") }] }
  config := {}

/-- Routes to both handlers, and one that leads nowhere. -/
def graphRoutes : List Route :=
  [{ method := some .get, path := "/nodes", handler := "list_nodes", tags := ["graph"],
     security := [.apiKey "X-Key"] },
   { path := "/nodes", handler := "missing", security := [.apiKey "X-Other"] },
   { method := some .get, path := "/edges", handler := "list_edges",
     security := [.basic, .apiKey "X-Key"] }]

theorem documentOf_reverse_graphRoutes :
    (graphRoutes.filterMap (endpoint? graph)).Nodup ∧
      OneHeader (graphRoutes.flatMap (requirements graph)) ∧
      documentOf graph graphRoutes = documentOf graph graphRoutes.reverse := by
  have hdistinct : (graphRoutes.filterMap (endpoint? graph)).Nodup := by decide
  have hrequired : graphRoutes.flatMap (requirements graph) =
      [.apiKey "X-Key", .basic, .apiKey "X-Key"] := rfl
  have hone : OneHeader (graphRoutes.flatMap (requirements graph)) := by
    rw [hrequired]
    simp [OneHeader]
  exact ⟨hdistinct, hone, documentOf_perm graph graphRoutes graphRoutes.reverse
    (List.reverse_perm graphRoutes).symm hdistinct hone⟩

end Builder

end ApiAtlas

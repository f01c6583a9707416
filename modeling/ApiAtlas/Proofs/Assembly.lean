import ApiAtlas.Proofs.History
import ApiAtlas.Proofs.Operation

/-!
# References of a document

A document is assembled by adding routes and asking the generator for schemas, in any order, and is
built at the end. Every reference in it then leads to one of its components: an operation refers
only to components that its making mentions, those are in the registry once the route is added, and
the registry never loses a component.
-/

namespace ApiAtlas

/-! ## The schemas of a document -/

namespace Document

/-- The schemas of an operation: of its parameters, its request body and its responses. -/
def Operation.schemas (o : Operation) : List Schema :=
  o.parameters.map Parameter.schema ++
    (o.requestBody.toList.flatMap fun body ↦ contentSchemas body.content) ++
    o.responses.flatMap fun entry ↦ contentSchemas (entry.2.content.getD [])

/-- The component schemas of a document. -/
def componentTable (doc : Document) : List (String × Schema) :=
  (doc.components.bind Components.schemas).getD []

/-- All schemas of a document that stand in no other schema. -/
def schemas (doc : Document) : List Schema :=
  doc.componentTable.map Prod.snd ++
    doc.paths.flatMap fun entry ↦ entry.2.operations.flatMap Operation.schemas

/-- A document holds a reference, in any of its schemas and at any depth. -/
def Refers (doc : Document) (ref : String) : Prop :=
  ∃ s ∈ doc.schemas, s.Refers ref

end Document

/-! ## Operations -/

namespace Builder

theorem grounds_pathParameter (env : Env) (fields : List Field) (name : String) :
    env.Grounds (pathParameter env fields name).steps
      (pathParameter env fields name).value.schema := by
  unfold pathParameter
  split
  · exact (env.grounds_fieldSchema _).mono (by simp)
  · exact Env.grounds_leaf rfl rfl

theorem grounds_fieldParameter (env : Env) (f : Field) (location : Location) :
    env.Grounds (fieldParameter env f location).steps
      (fieldParameter env f location).value.schema :=
  (env.grounds_fieldSchema f).mono (by simp [fieldParameter])

theorem grounds_parameters (env : Env) (style : ParameterStyle) (method : Method) (path : String)
    (fields : List Field) :
    ∀ p ∈ (parameters env style method path fields).value,
      env.Grounds (parameters env style method path fields).steps p.schema := by
  have hpath := grounds_pathParameter env fields
  have hfield := grounds_fieldParameter env
  intro p hp
  rw [value_parameters] at hp
  simp only [parameters, Traced.steps_bind, Traced.steps_pure, List.append_nil, steps_collect]
  rcases List.mem_append.1 hp with hplaceholder | hother
  · obtain ⟨name, hname, rfl⟩ := List.mem_map.1 hplaceholder
    refine (hpath name).mono fun _ hstep ↦ List.mem_append_left _ ?_
    exact List.mem_flatMap.2 ⟨name, hname, hstep⟩
  · obtain ⟨entry, hentry, rfl⟩ := List.mem_map.1 hother
    refine (hfield entry.1 entry.2).mono fun _ hstep ↦ List.mem_append_right _ ?_
    exact List.mem_flatMap.2 ⟨entry, hentry, hstep⟩

theorem grounds_body (env : Env) (method : Method) (h : Handler) (claimed : List String) :
    ∀ body ∈ (requestBody env method h claimed).value,
      ∀ s ∈ Document.contentSchemas body.content,
        env.Grounds (requestBody env method h claimed).steps s := by
  unfold requestBody
  split
  · have hbody := env.grounds_requestBody h.request claimed
    simpa [Document.contentSchemas, jsonContent] using hbody
  · simp

theorem grounds_successSchema (env : Env) (h : Handler) :
    env.Grounds (successSchema env h).steps (successSchema env h).value := by
  unfold successSchema
  split
  · exact env.grounds_schemaOf _
  · exact Env.grounds_leaf rfl rfl

theorem grounds_errorObject (env : Env) (steps : List Step) :
    env.Grounds steps Schema.errorObject := by
  refine Env.grounds_of_children rfl ?_
  intro c hc
  have hstring : c = Schema.typed "string" := by
    simpa [Schema.errorObject, Schema.typed, Schema.children] using hc
  exact hstring ▸ Env.grounds_leaf rfl rfl

/-- Making an operation mentions every component that the operation refers to. -/
theorem grounds_operation (env : Env) (style : ParameterStyle) (method : Method) (route : Route)
    (h : Handler) :
    ∀ s ∈ (operation env style method route h).value.schemas,
      env.Grounds (operation env style method route h).steps s := by
  intro s hs
  have hparameters := grounds_parameters env style method route.path
    (requestFields env.catalog h.request)
  have hbody := grounds_body env method h
    (claimedNames route.path (requestFields env.catalog h.request))
  have hsuccess := grounds_successSchema env h
  simp only [operation, Document.Operation.schemas, response, jsonContent,
    Document.contentSchemas, Traced.value_bind, Traced.value_pure, Traced.steps_bind,
    Traced.steps_pure, List.append_nil, List.mem_append, List.mem_map, List.mem_flatMap,
    Option.mem_toList] at hs ⊢
  rcases hs with (⟨p, hp, rfl⟩ | ⟨body, hmem, entry, hentry, rfl⟩) | hresponse
  · exact (hparameters p hp).mono (by simp)
  · exact (hbody body hmem _ (List.mem_map.2 ⟨entry, hentry, rfl⟩)).mono (by simp)
  · have hcases : s = (successSchema env h).value ∨ s = Schema.errorObject := by
      simpa [eq_comm] using hresponse
    rcases hcases with rfl | rfl
    · exact hsuccess.mono (by simp)
    · exact grounds_errorObject env _

end Builder

/-! ## Assembling -/

/-- What is done while a document is assembled. -/
inductive Action
  | addRoute (route : Route)
  | call (call : Call)

/-- A builder with the session of its generator. -/
structure Assembly where
  builder : Builder
  session : Session := {}

namespace Assembly

variable {env : Env}

/-- Takes an action. -/
def perform (env : Env) (a : Assembly) : Action → Assembly
  | .addRoute route =>
    let added := Builder.addRoute env a.builder a.session route
    ⟨added.2.1, added.2.2⟩
  | .call call => ⟨a.builder, (call.perform env a.session).2⟩

/-- What has been assembled by a list of actions. -/
def after (env : Env) (actions : List Action) : Assembly :=
  actions.foldl (perform env) ⟨Builder.new env.config, {}⟩

/-- The document built in the end. -/
def document (a : Assembly) : Document :=
  a.builder.build a.session.generator

/-- The steps of an action. -/
def steps (env : Env) (a : Assembly) : Action → List Step
  | .addRoute route =>
    match env.catalog.handler? route.handler with
    | none => []
    | some h => (Builder.made env a.builder route h).steps
  | .call call => call.steps env

/-- An action takes its steps to the end, and then at most reports something. -/
theorem runs_perform (env : Env) (a : Assembly) (action : Action) :
    ∃ t notices, Session.Runs env a.session (a.steps env action) t ∧
      (a.perform env action).session = t.report notices := by
  cases action with
  | call call => exact ⟨_, [], call.runs_perform env a.session, by simp [perform, Session.report]⟩
  | addRoute route =>
    simp only [steps, perform]
    cases hh : env.catalog.handler? route.handler with
    | none =>
      exact ⟨a.session, [Builder.unknownNotice route], .nil _,
        by rw [Builder.addRoute_unknown a.builder a.session hh]⟩
    | some h =>
      obtain ⟨notices, hadded⟩ := Builder.addRoute_known a.builder a.session hh
      exact ⟨_, notices, Session.runs_run env a.session _, by rw [hadded]⟩

/-- A reference leads to a component of a session. -/
def Resolves (s : Session) (schema : Schema) : Prop :=
  ∀ ref, schema.Refers ref → ∃ name, ref = Schema.componentRef name ∧ s.slot? name ≠ none

/-- What holds of an assembly after every action. -/
structure Sound (env : Env) (a : Assembly) : Prop where
  settled : Session.Settled env a.session
  resolves : ∀ o ∈ a.builder.operations, ∀ schema ∈ o.schemas, Resolves a.session schema

theorem resolves_of_grounds {s t : Session} {steps : List Step} {schema : Schema}
    (hruns : Session.Runs env s steps t) (h : env.Grounds steps schema) : Resolves t schema := by
  intro ref href
  obtain ⟨name, hname, hmention, hknown⟩ := h ref href
  exact ⟨name, hname, hruns.covers hmention (Env.type?_ne_none_of_hasType hknown)⟩

theorem Resolves.mono {s t : Session} {steps : List Step} {schema : Schema}
    (h : Resolves s schema) (hruns : Session.Runs env s steps t) : Resolves t schema := by
  intro ref href
  obtain ⟨name, hname, hslot⟩ := h ref href
  exact ⟨name, hname, hruns.slot?_ne_none hslot⟩

theorem sound_start (env : Env) : Sound env ⟨Builder.new env.config, {}⟩ where
  settled := Session.settled_empty env
  resolves := by simp [Builder.new, Builder.operations]

/-- The operations after an action are those before it and one whose steps the action takes. -/
theorem operations_perform {a : Assembly} {action : Action} {o : Document.Operation}
    (h : o ∈ (a.perform env action).builder.operations) :
    o ∈ a.builder.operations ∨
      ∀ schema ∈ o.schemas, env.Grounds (a.steps env action) schema := by
  cases action with
  | call call => exact .inl h
  | addRoute route =>
    simp only [perform] at h
    simp only [steps]
    cases hh : env.catalog.handler? route.handler with
    | none =>
      rw [Builder.addRoute_unknown a.builder a.session hh] at h
      exact .inl h
    | some handler =>
      obtain ⟨notices, hadded⟩ := Builder.addRoute_known a.builder a.session hh
      rw [hadded] at h
      rcases Builder.mem_operations_place h with rfl | hold
      · exact .inr (Builder.grounds_operation env _ _ route handler)
      · unfold Builder.operations at hold ⊢
        rw [Builder.paths_addSchemes] at hold
        exact .inl hold

theorem Sound.perform {a : Assembly} (h : Sound env a) (action : Action) :
    Sound env (a.perform env action) := by
  obtain ⟨t, notices, hruns, hsession⟩ := runs_perform env a action
  have hsettled := hruns.settled h.settled
  constructor
  · rw [hsession]
    exact ⟨hsettled.sorted, hsettled.ready, hsettled.closed⟩
  · intro o ho schema hschema
    have hresolves : Resolves t schema := by
      rcases operations_perform ho with hold | hnew
      · exact (h.resolves o hold schema hschema).mono hruns
      · exact resolves_of_grounds hruns (hnew schema hschema)
    rw [hsession]
    exact hresolves

theorem sound_after (env : Env) (actions : List Action) : Sound env (after env actions) := by
  have hfold : ∀ a, Sound env a → Sound env (actions.foldl (Assembly.perform env) a) := by
    induction actions with
    | nil => exact fun a h ↦ h
    | cons action rest ih => exact fun a h ↦ ih (a.perform env action) (h.perform action)
  exact hfold _ (sound_start env)

/-! ## The finished document -/

theorem componentTable_build (b : Builder) (g : Generator) :
    (b.build g).componentTable = g.schemas := by
  unfold Document.componentTable Builder.build Env.nonempty?
  simp only
  split
  · next hempty =>
    simp only [Bool.and_eq_true, List.isEmpty_iff] at hempty
    simp [hempty.1]
  · cases hschemas : g.schemas <;> simp

/-- A component refers only to components. -/
theorem resolves_component {s : Session} (hs : Session.Settled env s) {name : String}
    {schema : Schema} (h : (name, schema) ∈ s.generator.schemas) : Resolves s schema := by
  have hready := (Session.mem_schemas_iff hs.sorted name schema).1 h
  obtain ⟨d, hd, hmade⟩ := hs.ready name _ hready
  obtain rfl := Slot.ready.inj hmade
  intro ref href
  obtain ⟨other, hother, hmention, hknown⟩ := env.grounds_component d ref href
  exact ⟨other, hother, hs.closed name _ other hready ⟨d, hd, hmention⟩
    (Env.type?_ne_none_of_hasType hknown)⟩

/-- After any actions: the next action has exactly one run, at whose end the assembly stands; the
registry holds finished components of the catalog only; and every reference in the document, at any
depth, is the one to a component of the document. -/
theorem references_resolve (env : Env) (actions : List Action) :
    (∀ action, ∃ t notices,
      (∀ t', Session.Runs env (after env actions).session
        ((after env actions).steps env action) t' ↔ t' = t) ∧
      (after env (actions ++ [action])).session = t.report notices) ∧
    (∀ name slot, (name, slot) ∈ (after env actions).session.generator.registry →
      env.catalog.hasType name = true ∧ ∃ schema, slot = .ready schema) ∧
    (∀ ref, (after env actions).document.Refers ref → ∃ name, ref = Schema.componentRef name ∧
      name ∈ Keyed.keys (after env actions).document.componentTable) := by
  have hsound := sound_after env actions
  refine ⟨?_, ?_, ?_⟩
  · intro action
    obtain ⟨t, notices, hruns, hsession⟩ := runs_perform env (after env actions) action
    refine ⟨t, notices, fun t' ↦ ⟨fun h ↦ h.unique hruns, fun h ↦ h ▸ hruns⟩, ?_⟩
    unfold after at hsession ⊢
    rw [List.foldl_append]
    exact hsession
  · intro name slot hmem
    have hslot := (Keyed.mem_iff_get? hsound.settled.sorted name slot).1 hmem
    obtain ⟨d, hd, rfl⟩ := hsound.settled.ready name slot hslot
    exact ⟨by simp [Catalog.hasType, hd], _, rfl⟩
  · rintro ref ⟨schema, hschema, href⟩
    have hresolves : Resolves (after env actions).session schema := by
      unfold Document.schemas at hschema
      rcases List.mem_append.1 hschema with hcomponent | hoperation
      · unfold document at hcomponent
        rw [componentTable_build] at hcomponent
        obtain ⟨⟨name, made⟩, hmem, rfl⟩ := List.mem_map.1 hcomponent
        exact resolves_component hsound.settled hmem
      · obtain ⟨entry, hentry, hmem⟩ := List.mem_flatMap.1 hoperation
        obtain ⟨o, ho, hmem⟩ := List.mem_flatMap.1 hmem
        exact hsound.resolves o (List.mem_flatMap.2 ⟨entry, hentry, ho⟩) schema hmem
    obtain ⟨name, hname, hslot⟩ := hresolves ref href
    refine ⟨name, hname, ?_⟩
    unfold document
    rw [componentTable_build, hsound.settled.mem_keys_schemas_iff]
    exact hslot

end Assembly

end ApiAtlas

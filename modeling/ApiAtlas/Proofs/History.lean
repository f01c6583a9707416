import ApiAtlas.Proofs.Reference

/-!
# Histories of a generator

A generator is used by four kinds of calls in any order. After every history its session is settled,
so what a call returns depends on the catalog and the settings alone, a component never changes once
it is made, and after asking for the schemas of some types the components are exactly the names that
those types lead to in the graph of mentions.
-/

namespace ApiAtlas

/-- A call on a generator. -/
inductive Call
  | generate (name : String)
  | schemaOf (t : TypeExpr)
  | fieldSchema (f : Field)
  | requestBody (t : TypeExpr) (claimed : List String)

namespace Call

/-- What a call returns, with the session that it leaves. -/
def perform (env : Env) (s : Session) : Call → Option Schema × Session
  | .generate name => s.generate env name
  | .schemaOf t => (s.run env (env.schemaOf t)).map some id
  | .fieldSchema f => (s.run env (env.fieldSchema f)).map some id
  | .requestBody t claimed => (s.run env (env.requestBody t claimed)).map some id

/-- The steps of a call. -/
def steps (env : Env) : Call → List Step
  | .generate name => [.mention name]
  | .schemaOf t => (env.schemaOf t).steps
  | .fieldSchema f => (env.fieldSchema f).steps
  | .requestBody t claimed => (env.requestBody t claimed).steps

/-- What a call is to return, whatever was done before. -/
def answer (env : Env) : Call → Option Schema
  | .generate name => (env.catalog.type? name).map fun d ↦ (env.component d).value
  | .schemaOf t => some (env.schemaOf t).value
  | .fieldSchema f => some (env.fieldSchema f).value
  | .requestBody t claimed => some (env.requestBody t claimed).value

/-- A call takes its steps to the end. -/
theorem runs_perform (env : Env) (s : Session) (call : Call) :
    Session.Runs env s (call.steps env) (call.perform env s).2 := by
  cases call with
  | generate name => exact Session.runs_make env s name
  | schemaOf t => exact Session.runs_run env s (env.schemaOf t)
  | fieldSchema f => exact Session.runs_run env s (env.fieldSchema f)
  | requestBody t claimed => exact Session.runs_run env s (env.requestBody t claimed)

end Call

namespace Session

variable {env : Env}

/-- The session after a history of calls. -/
def after (env : Env) (s : Session) (history : List Call) : Session :=
  history.foldl (fun s call ↦ (call.perform env s).2) s

/-- A history takes the steps of its calls one after the other. -/
theorem runs_after (env : Env) (s : Session) (history : List Call) :
    Runs env s (history.flatMap (Call.steps env)) (s.after env history) := by
  induction history generalizing s with
  | nil => exact .nil s
  | cons call rest ih => exact (call.runs_perform env s).append (ih (call.perform env s).2)

theorem settled_after (env : Env) (history : List Call) :
    Settled env (Session.after env {} history) :=
  (runs_after env {} history).settled (settled_empty env)

/-! ## What calls return -/

theorem slot?_make {s : Session} (hs : Settled env s) (name : String) :
    (make env s name).slot? name =
      (env.catalog.type? name).map fun d ↦ Slot.ready (env.component d).value := by
  have hruns := runs_make env s name
  have hsettled := hruns.settled hs
  cases hd : env.catalog.type? name with
  | none =>
    cases hslot : (make env s name).slot? name with
    | none => rfl
    | some slot =>
      obtain ⟨d, hd', _⟩ := hsettled.ready name slot hslot
      simp [hd] at hd'
  | some d =>
    have hmade := hruns.covers List.mem_cons_self (by simp [hd] : env.catalog.type? name ≠ none)
    obtain ⟨slot, hslot⟩ := Option.ne_none_iff_exists'.1 hmade
    obtain ⟨e, he, rfl⟩ := hsettled.ready name slot hslot
    obtain rfl := Option.some.inj (hd.symm.trans he)
    exact hslot

theorem perform_eq_answer {s : Session} (hs : Settled env s) (call : Call) :
    (call.perform env s).1 = call.answer env := by
  cases call with
  | generate name =>
    have hslot := slot?_make hs name
    unfold slot? at hslot
    simp only [Call.perform, Call.answer, generate, hslot]
    cases env.catalog.type? name <;> rfl
  | schemaOf t => rfl
  | fieldSchema f => rfl
  | requestBody t claimed => rfl

end Session

/-! ## What is made -/

namespace Env

variable {env : Env}

/-- The definition of a name mentions another one. -/
def Leads (env : Env) (name other : String) : Prop :=
  ∃ d, env.catalog.type? name = some d ∧ env.DefinitionMentions d other

/-- A name is reached from a list of types: one of them mentions a name that leads to it. -/
def Reaches (env : Env) (ts : List TypeExpr) (name : String) : Prop :=
  ∃ t ∈ ts, ∃ root, env.Mentions t root ∧ Relation.ReflTransGen env.Leads root name

theorem follows_iff_leads (env : Env) (name other : String) :
    env.Follows name other ↔ env.Leads name other := by
  unfold Follows Leads
  refine exists_congr fun d ↦ and_congr_right fun hd ↦ ?_
  exact mention_mem_component_iff env (Catalog.name_of_type? hd ▸ hd) other

theorem follows_eq_leads (env : Env) : env.Follows = env.Leads := by
  funext name other
  exact propext (follows_iff_leads env name other)

theorem FieldMentions.exists_mentions {f : Field} {name : String} (h : env.FieldMentions f name) :
    ∃ t, env.Mentions t name := by
  rcases h with ⟨_, hname⟩ | ⟨_, _, _, hname⟩ <;> exact ⟨_, hname⟩

theorem DefinitionMentions.exists_mentions {d : Definition} {name : String}
    (h : env.DefinitionMentions d name) : ∃ t, env.Mentions t name := by
  cases h with
  | field _ _ _ _ _ _ hname => exact hname.exists_mentions
  | choice _ _ _ hname => exact ⟨_, hname⟩
  | aliased _ _ hname => exact ⟨_, hname⟩
  | union _ _ _ hname => exact ⟨_, hname⟩

theorem DefinitionMentions.hasType {d : Definition} {name : String}
    (h : env.DefinitionMentions d name) : env.catalog.hasType name = true := by
  obtain ⟨t, ht⟩ := h.exists_mentions
  exact ht.hasType

theorem type?_ne_none_of_hasType {name : String} (h : env.catalog.hasType name = true) :
    env.catalog.type? name ≠ none := by
  unfold Catalog.hasType at h
  exact Option.ne_none_iff_isSome.2 h

end Env

namespace Session

variable {env : Env}

theorem mention_mem_steps_iff (env : Env) (ts : List TypeExpr) (name : String) :
    Step.mention name ∈ (ts.map Call.schemaOf).flatMap (Call.steps env) ↔
      ∃ t ∈ ts, env.Mentions t name := by
  simp [List.mem_flatMap, Call.steps, Env.mention_mem_schemaOf_iff]

/-- Asking for the schemas of some types makes exactly the components that the types lead to. -/
theorem mem_schemas_iff_reaches (env : Env) (ts : List TypeExpr) (name : String) :
    name ∈ Keyed.keys (Session.after env {} (ts.map Call.schemaOf)).generator.schemas ↔
      env.Reaches ts name := by
  have hruns := runs_after env {} (ts.map Call.schemaOf)
  have hsettled := settled_after env (ts.map Call.schemaOf)
  rw [hsettled.mem_keys_schemas_iff]
  constructor
  · intro hmade
    obtain ⟨root, hroot, hpath⟩ := hruns.reaches (slot?_empty name) hmade
    obtain ⟨t, ht, hmentions⟩ := (mention_mem_steps_iff env ts root).1 hroot
    exact ⟨t, ht, root, hmentions, env.follows_eq_leads ▸ hpath⟩
  · rintro ⟨t, ht, root, hmentions, hpath⟩
    have hroot := (mention_mem_steps_iff env ts root).2 ⟨t, ht, hmentions⟩
    have hmade := hruns.covers hroot (Env.type?_ne_none_of_hasType hmentions.hasType)
    refine hsettled.slot?_of_path ?_ hmade (env.follows_eq_leads ▸ hpath)
    intro middle last hlast
    obtain ⟨d, _, hmention⟩ := (env.follows_iff_leads middle last).1 hlast
    exact Env.type?_ne_none_of_hasType hmention.hasType

end Session

end ApiAtlas

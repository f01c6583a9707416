import ApiAtlas.Proofs.Making

/-!
# The registry between calls

Between two calls a session is settled: every slot holds the finished component of its name, and
whatever a finished component mentions has a slot too. While a component is in the making the
second part holds of the finished ones only. Both are kept by every run, so they hold after any
sequence of calls. A run makes a component only if the steps lead to it.
-/

namespace ApiAtlas

/-- Making the first component mentions the second. -/
def Env.Follows (env : Env) (name other : String) : Prop :=
  ∃ d, env.catalog.type? name = some d ∧ Step.mention other ∈ (env.component d).steps

namespace Session

variable {env : Env}

/-- What a finished component mentions is made or being made. -/
def Closed (env : Env) (s : Session) : Prop :=
  ∀ name schema other, s.slot? name = some (.ready schema) → env.Follows name other →
    env.catalog.type? other ≠ none → s.slot? other ≠ none

namespace Runs

theorem slot?_ne_none {s t : Session} {steps : List Step} (h : Runs env s steps t) {name : String}
    (hname : s.slot? name ≠ none) : t.slot? name ≠ none := by
  obtain ⟨slot, hslot⟩ := Option.ne_none_iff_exists'.1 hname
  simp [h.slot?_of_some hslot]

/-- A run leaves a slot for everything that its steps mention. -/
theorem covers {s t : Session} {steps : List Step} (h : Runs env s steps t) {name : String}
    (hmem : Step.mention name ∈ steps) (hknown : env.catalog.type? name ≠ none) :
    t.slot? name ≠ none := by
  induction h with
  | nil s => simp at hmem
  | report _ ih => exact ih (by simpa using hmem)
  | meet _ ih => exact ih (by simpa using hmem)
  | pass hpass hrest ih =>
    rcases List.mem_cons.1 hmem with heq | hlater
    · obtain rfl := Step.mention.inj heq
      exact hrest.slot?_ne_none (hpass.resolve_right hknown)
    · exact ih hlater
  | build hfree hd hinside hrest _ ihRest =>
    rcases List.mem_cons.1 hmem with heq | hlater
    · obtain rfl := Step.mention.inj heq
      apply hrest.slot?_ne_none
      simp [slot?_finish]
    · exact ihRest hlater

theorem closed {s t : Session} {steps : List Step} (h : Runs env s steps t) (hs : Closed env s) :
    Closed env t := by
  induction h with
  | nil s => exact hs
  | report _ ih => exact ih hs
  | meet _ ih =>
    apply ih
    intro name schema other hready hfollows hknown
    rw [slot?_meet] at hready ⊢
    exact hs name schema other hready hfollows hknown
  | pass _ _ ih => exact ih hs
  | @build s inside t made d rest hfree hd hinside _ ihInside ihRest =>
    have hstart : Closed env { s with generator := s.generator.start made } := by
      intro name schema other hready hfollows hknown
      rw [slot?_start] at hready ⊢
      by_cases heq : name = made
      · simp [heq] at hready
      · rw [if_neg heq] at hready
        have hother := hs name schema other hready hfollows hknown
        by_cases hmade : other = made <;> simp [hmade, hother]
    have hclosed := ihInside hstart
    apply ihRest
    intro name schema other hready hfollows hknown
    -- The new component is finished now; its own steps have just been run.
    have hother : inside.slot? other ≠ none := by
      rw [slot?_finish] at hready
      by_cases heq : name = made
      · obtain ⟨e, he, hmention⟩ := hfollows
        obtain rfl := Option.some.inj ((heq ▸ he).symm.trans hd)
        exact hinside.covers hmention hknown
      · rw [if_neg heq] at hready
        exact hclosed name schema other hready hfollows hknown
    rw [slot?_finish]
    by_cases hmade : other = made <;> simp [hmade, hother]

theorem exists_mention_cons {step : Step} {rest : List Step} {p : String → Prop}
    (h : ∃ root, Step.mention root ∈ rest ∧ p root) :
    ∃ root, Step.mention root ∈ step :: rest ∧ p root := by
  obtain ⟨root, hroot, hp⟩ := h
  exact ⟨root, List.mem_cons_of_mem _ hroot, hp⟩

/-- A component is made only if the steps mention it or lead to it from one to the next. -/
theorem reaches {s t : Session} {steps : List Step} (h : Runs env s steps t) {name : String}
    (hfree : s.slot? name = none) (hmade : t.slot? name ≠ none) :
    ∃ root, Step.mention root ∈ steps ∧ Relation.ReflTransGen env.Follows root name := by
  induction h with
  | nil s => exact absurd hfree hmade
  | report _ ih => exact exists_mention_cons (ih hfree hmade)
  | meet _ ih => exact exists_mention_cons (ih (by rw [slot?_meet]; exact hfree) hmade)
  | pass _ _ ih => exact exists_mention_cons (ih hfree hmade)
  | @build s inside t made d rest _ hd _ _ ihInside ihRest =>
    by_cases heq : name = made
    · exact ⟨made, List.mem_cons_self, heq ▸ .refl⟩
    · rw [slot?_start, if_neg heq] at ihInside
      rw [slot?_finish, if_neg heq] at ihRest
      by_cases hinside : inside.slot? name = none
      · exact exists_mention_cons (ihRest hinside hmade)
      · obtain ⟨root, hroot, hpath⟩ := ihInside hfree hinside
        exact ⟨made, List.mem_cons_self, hpath.head ⟨d, hd, hroot⟩⟩

end Runs

/-! ## Settled sessions -/

/-- A session between two calls. -/
structure Settled (env : Env) (s : Session) : Prop where
  sorted : Keyed.Sorted s.generator.registry
  ready : ∀ name slot, s.slot? name = some slot →
    ∃ d, env.catalog.type? name = some d ∧ slot = .ready (env.component d).value
  closed : Closed env s

theorem settled_empty (env : Env) : Settled env {} where
  sorted := Keyed.sorted_nil
  ready := by simp
  closed := by simp [Closed]

theorem Runs.settled {s t : Session} {steps : List Step} (h : Runs env s steps t)
    (hs : Settled env s) : Settled env t where
  sorted := h.sorted hs.sorted
  ready := by
    intro name slot hslot
    rcases h.slot?_eq_or name with hsame | ⟨_, d, hd, hready⟩
    · exact hs.ready name slot (hsame ▸ hslot)
    · exact ⟨d, hd, Option.some.inj (hslot.symm.trans hready)⟩
  closed := h.closed hs.closed

theorem mem_schemas_iff {s : Session} (hs : Keyed.Sorted s.generator.registry) (name : String)
    (schema : Schema) :
    (name, schema) ∈ s.generator.schemas ↔ s.slot? name = some (.ready schema) := by
  unfold Generator.schemas slot?
  rw [← Keyed.mem_iff_get? hs, List.mem_filterMap]
  constructor
  · rintro ⟨⟨key, slot⟩, hmem, hslot⟩
    cases slot with
    | inProgress => simp [Slot.schema?] at hslot
    | ready made =>
      simp only [Slot.schema?, Option.map_some, Option.some.injEq, Prod.mk.injEq] at hslot
      obtain ⟨rfl, rfl⟩ := hslot
      exact hmem
  · intro hmem
    exact ⟨(name, .ready schema), hmem, rfl⟩

namespace Settled

/-- The slots of a settled session are its components. -/
theorem mem_keys_schemas_iff {s : Session} (hs : Settled env s) (name : String) :
    name ∈ Keyed.keys s.generator.schemas ↔ s.slot? name ≠ none := by
  unfold Keyed.keys
  rw [List.mem_map]
  constructor
  · rintro ⟨⟨key, schema⟩, hmem, rfl⟩
    simp [(mem_schemas_iff hs.sorted key schema).1 hmem]
  · intro hslot
    obtain ⟨slot, hslot⟩ := Option.ne_none_iff_exists'.1 hslot
    obtain ⟨d, _, rfl⟩ := hs.ready name slot hslot
    exact ⟨(name, _), (mem_schemas_iff hs.sorted name _).2 hslot, rfl⟩

/-- What follows a component by any number of mentions is a component too. -/
theorem slot?_of_path {s : Session} (hs : Settled env s)
    (hknown : ∀ name other, env.Follows name other → env.catalog.type? other ≠ none)
    {root name : String} (hroot : s.slot? root ≠ none)
    (hpath : Relation.ReflTransGen env.Follows root name) : s.slot? name ≠ none := by
  induction hpath with
  | refl => exact hroot
  | @tail middle last _ hlast ih =>
    obtain ⟨slot, hslot⟩ := Option.ne_none_iff_exists'.1 ih
    obtain ⟨d, _, rfl⟩ := hs.ready middle slot hslot
    exact hs.closed middle _ last hslot hlast (hknown middle last hlast)

end Settled

end Session

end ApiAtlas

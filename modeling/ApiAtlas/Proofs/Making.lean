import ApiAtlas.Generator
import ApiAtlas.Proofs.Embedding
import ApiAtlas.Proofs.Keyed

/-!
# Runs of a session

A run takes a list of steps one after the other, and a step that mentions a component not yet made
runs the steps of that component before it goes on. `Runs` says this without a bound on the depth.
Every list of steps has exactly one run from every session, and it ends where the session's own
functions end: a component is started only when its name is free, so the free names of the catalog
decrease along every chain of components in the making.

What a run leaves behind is said once, by `Runs.slot?_eq_or`: it only adds finished components of
the catalog. Everything about the registry follows from that.
-/

namespace ApiAtlas

namespace Traced

variable {α β : Type}

@[simp]
theorem value_pure (a : α) : (pure a : Traced α).value = a := rfl

@[simp]
theorem steps_pure (a : α) : (pure a : Traced α).steps = [] := rfl

@[simp]
theorem value_bind (x : Traced α) (f : α → Traced β) : (x >>= f).value = (f x.value).value := rfl

@[simp]
theorem steps_bind (x : Traced α) (f : α → Traced β) :
    (x >>= f).steps = x.steps ++ (f x.value).steps := rfl

@[simp]
theorem steps_step (s : Step) : (step s).steps = [s] := rfl

@[simp]
theorem mention_notMem_report (name : String) (notices : List Notice) :
    Step.mention name ∉ (report notices).steps := by
  simp [report]

end Traced

namespace Session

/-- The state of a component in a session. -/
def slot? (s : Session) (name : String) : Option Slot :=
  Keyed.get? name s.generator.registry

variable {env : Env}

/-! ## Slots after a step -/

@[simp]
theorem slot?_empty (name : String) : slot? {} name = none := rfl

@[simp]
theorem registry_meet (s : Session) (label : String) (u : Union) :
    (meet env s label u).generator.registry = s.generator.registry := by
  unfold meet
  split <;> rfl

@[simp]
theorem slot?_meet (s : Session) (label : String) (u : Union) (name : String) :
    (meet env s label u).slot? name = s.slot? name := by
  unfold slot?
  rw [registry_meet]

theorem slot?_start (s : Session) (name other : String) :
    slot? { s with generator := s.generator.start name } other =
      if other = name then some .inProgress else s.slot? other := by
  unfold slot? Generator.start
  exact Keyed.get?_insert name other Slot.inProgress s.generator.registry

theorem slot?_finish (s : Session) (name other : String) (schema : Schema) :
    slot? { s with generator := s.generator.finish name schema } other =
      if other = name then some (.ready schema) else s.slot? other := by
  unfold slot? Generator.finish
  exact Keyed.get?_insert name other (Slot.ready schema) s.generator.registry

/-! ## Runs -/

/-- The runs of a list of steps from one session to another. -/
inductive Runs (env : Env) : Session → List Step → Session → Prop
  | nil (s : Session) : Runs env s [] s
  | report {s t : Session} {notice : Notice} {rest : List Step}
      (hrest : Runs env (s.report [notice]) rest t) : Runs env s (.report notice :: rest) t
  | meet {s t : Session} {label : String} {u : Union} {rest : List Step}
      (hrest : Runs env (Session.meet env s label u) rest t) : Runs env s (.meet label u :: rest) t
  /-- A component that is made, being made or unknown is passed over. -/
  | pass {s t : Session} {name : String} {rest : List Step}
      (hpass : s.slot? name ≠ none ∨ env.catalog.type? name = none) (hrest : Runs env s rest t) :
      Runs env s (.mention name :: rest) t
  /-- A component is made by running its own steps while it is marked. -/
  | build {s inside t : Session} {name : String} {d : Definition} {rest : List Step}
      (hfree : s.slot? name = none) (hd : env.catalog.type? name = some d)
      (hinside : Runs env { s with generator := s.generator.start name }
        (env.component d).steps inside)
      (hrest : Runs env { inside with
        generator := inside.generator.finish name (env.component d).value } rest t) :
      Runs env s (.mention name :: rest) t

namespace Runs

/-- A run changes no slot that is taken. -/
theorem slot?_of_some {s t : Session} {steps : List Step} (h : Runs env s steps t) {name : String}
    {slot : Slot} (hslot : s.slot? name = some slot) : t.slot? name = some slot := by
  induction h with
  | nil s => exact hslot
  | report _ ih => exact ih hslot
  | meet _ ih => exact ih (by rw [slot?_meet]; exact hslot)
  | pass _ _ ih => exact ih hslot
  | @build s inside t made d rest hfree hd _ _ ihInside ihRest =>
    have hne : name ≠ made := by
      rintro rfl
      simp [hfree] at hslot
    apply ihRest
    rw [slot?_finish, if_neg hne]
    apply ihInside
    rw [slot?_start, if_neg hne]
    exact hslot

/-- All that a run does to the registry: a slot is what it was, or it was free and now holds the
finished component of its name. -/
theorem slot?_eq_or {s t : Session} {steps : List Step} (h : Runs env s steps t) (name : String) :
    t.slot? name = s.slot? name ∨
      s.slot? name = none ∧ ∃ d, env.catalog.type? name = some d ∧
        t.slot? name = some (.ready (env.component d).value) := by
  induction h with
  | nil s => exact Or.inl rfl
  | report _ ih => exact ih
  | meet _ ih => simpa only [slot?_meet] using ih
  | pass _ _ ih => exact ih
  | @build s inside t made d rest hfree hd hinside hrest ihInside ihRest =>
    by_cases heq : name = made
    · subst heq
      refine Or.inr ⟨hfree, d, hd, hrest.slot?_of_some ?_⟩
      rw [slot?_finish, if_pos rfl]
    · rw [slot?_start, if_neg heq] at ihInside
      rw [slot?_finish, if_neg heq] at ihRest
      -- The name may have been made inside, and is then left alone by the rest.
      rcases ihRest with hsame | ⟨hnone, hmade⟩
      · rw [hsame]
        exact ihInside
      · rcases ihInside with hsame | ⟨hfree', e, he, hready⟩
        · exact Or.inr ⟨hsame ▸ hnone, hmade⟩
        · simp [hready] at hnone

theorem append {s m t : Session} {first second : List Step} (h : Runs env s first m)
    (h' : Runs env m second t) : Runs env s (first ++ second) t := by
  induction h with
  | nil s => exact h'
  | report _ ih => exact .report (ih h')
  | meet _ ih => exact .meet (ih h')
  | pass hpass _ ih => exact .pass hpass (ih h')
  | build hfree hd hinside _ _ ih => exact .build hfree hd hinside (ih h')

/-- A list of steps has at most one run from a session. -/
theorem unique {s t t' : Session} {steps : List Step} (h : Runs env s steps t)
    (h' : Runs env s steps t') : t = t' := by
  induction h generalizing t' with
  | nil s =>
    cases h'
    rfl
  | report _ ih =>
    cases h' with
    | report hrest => exact ih hrest
  | meet _ ih =>
    cases h' with
    | meet hrest => exact ih hrest
  | pass hpass _ ih =>
    cases h' with
    | pass _ hrest => exact ih hrest
    | build hfree hd => simp [hfree, hd] at hpass
  | build hfree hd _ _ ihInside ihRest =>
    cases h' with
    | pass hpass => simp [hfree, hd] at hpass
    | build _ hd' hinside hrest =>
      obtain rfl := Option.some.inj (hd.symm.trans hd')
      obtain rfl := ihInside hinside
      exact ihRest hrest

theorem sorted {s t : Session} {steps : List Step} (h : Runs env s steps t)
    (hs : Keyed.Sorted s.generator.registry) : Keyed.Sorted t.generator.registry := by
  induction h with
  | nil s => exact hs
  | report _ ih => exact ih hs
  | meet _ ih => exact ih (by rw [registry_meet]; exact hs)
  | pass _ _ ih => exact ih hs
  | build _ _ _ _ ihInside ihRest =>
    exact ihRest (Keyed.sorted_insert _ _ (ihInside (Keyed.sorted_insert _ _ hs)))

end Runs

/-! ## Every list of steps has a run -/

/-- The number of definitions whose component is not yet started. -/
def unmade (env : Env) (s : Session) : Nat :=
  env.catalog.types.countP fun d ↦ (s.slot? d.name).isNone

theorem unmade_le_length (env : Env) (s : Session) : s.unmade env ≤ env.catalog.types.length :=
  List.countP_le_length

theorem unmade_le_of_free {s t : Session}
    (h : ∀ name, t.slot? name = none → s.slot? name = none) : t.unmade env ≤ s.unmade env := by
  apply List.countP_mono_left
  intro d _ hfree
  rw [Option.isNone_iff_eq_none] at hfree ⊢
  exact h d.name hfree

theorem Runs.unmade_le {s t : Session} {steps : List Step} (h : Runs env s steps t) :
    t.unmade env ≤ s.unmade env := by
  apply unmade_le_of_free
  intro name hfree
  rcases h.slot?_eq_or name with hsame | ⟨hnone, _⟩
  · rw [← hsame]
    exact hfree
  · exact hnone

theorem unmade_finish_le (s : Session) (name : String) (schema : Schema) :
    unmade env { s with generator := s.generator.finish name schema } ≤ s.unmade env := by
  apply unmade_le_of_free
  intro other hfree
  rw [slot?_finish] at hfree
  by_cases heq : other = name
  · simp [heq] at hfree
  · simpa [heq] using hfree

theorem unmade_start_lt {s : Session} {name : String} {d : Definition}
    (hfree : s.slot? name = none) (hd : env.catalog.type? name = some d) :
    unmade env { s with generator := s.generator.start name } < s.unmade env := by
  have hname : d.name = name := Catalog.name_of_type? hd
  apply Catalog.countP_lt_countP (a := d)
  · intro e _ he
    rw [slot?_start] at he
    by_cases heq : e.name = name
    · simp [heq] at he
    · simpa [heq] using he
  · exact List.mem_of_find?_eq_some hd
  · simp [hname, hfree]
  · simp [hname, slot?_start]

theorem makeWithin_of_pass {s : Session} {name : String} (depth : Nat)
    (h : s.slot? name ≠ none ∨ env.catalog.type? name = none) :
    makeWithin env depth s name = s := by
  unfold slot? at h
  cases depth with
  | zero => rfl
  | succ depth =>
    unfold makeWithin
    split
    · next hslot hd => simp [hslot, hd] at h
    · rfl

theorem makeWithin_of_free {s : Session} {name : String} {d : Definition} (depth : Nat)
    (hfree : s.slot? name = none) (hd : env.catalog.type? name = some d) :
    makeWithin env (depth + 1) s name =
      let inside := (env.component d).steps.foldl (take env (makeWithin env depth))
        { s with generator := s.generator.start name }
      { inside with generator := inside.generator.finish name (env.component d).value } := by
  unfold slot? at hfree
  simp only [makeWithin, hfree, hd]

/-- The depth that the free names give is enough for any steps. -/
theorem runs_makeWithin (env : Env) (depth : Nat) (s : Session) (steps : List Step)
    (h : s.unmade env ≤ depth) :
    Runs env s steps (steps.foldl (take env (makeWithin env depth)) s) := by
  induction depth using Nat.strong_induction_on generalizing s steps with
  | _ depth ihDepth =>
    induction steps generalizing s with
    | nil => exact .nil s
    | cons step rest ihRest =>
      cases step with
      | report notice => exact .report (ihRest (s.report [notice]) h)
      | meet label u =>
        refine .meet (ihRest (meet env s label u) ?_)
        simpa only [unmade, slot?_meet] using h
      | mention name =>
        by_cases hpass : s.slot? name ≠ none ∨ env.catalog.type? name = none
        · have hstay : take env (makeWithin env depth) s (.mention name) = s :=
            makeWithin_of_pass depth hpass
          rw [List.foldl_cons, hstay]
          exact .pass hpass (ihRest s h)
        · rw [not_or, not_not] at hpass
          obtain ⟨hfree, hknown⟩ := hpass
          obtain ⟨d, hd⟩ := Option.ne_none_iff_exists'.1 hknown
          have hlt := unmade_start_lt hfree hd
          obtain ⟨below, rfl⟩ : ∃ below, depth = below + 1 := ⟨depth - 1, by omega⟩
          have hinside := ihDepth below (Nat.lt_succ_self below)
            { s with generator := s.generator.start name } (env.component d).steps (by omega)
          have hmake : take env (makeWithin env (below + 1)) s (.mention name) = _ :=
            makeWithin_of_free below hfree hd
          rw [List.foldl_cons, hmake]
          refine .build hfree hd hinside (ihRest _ ?_)
          calc
            _ ≤ unmade env (List.foldl _ _ _) := unmade_finish_le _ name _
            _ ≤ unmade env { s with generator := s.generator.start name } := hinside.unmade_le
            _ ≤ s.unmade env := hlt.le
            _ ≤ below + 1 := h

/-- Every traced value has a run from every session, which ends where the session ends that runs
it. -/
theorem runs_run {α : Type} (env : Env) (s : Session) (x : Traced α) :
    Runs env s x.steps (run env s x).2 :=
  runs_makeWithin env env.catalog.types.length s x.steps (unmade_le_length env s)

theorem runs_make (env : Env) (s : Session) (name : String) :
    Runs env s [.mention name] (make env s name) :=
  runs_makeWithin env env.catalog.types.length s [.mention name] (unmade_le_length env s)

end Session

end ApiAtlas

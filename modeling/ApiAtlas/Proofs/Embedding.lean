import ApiAtlas.Catalog
import Mathlib.Logic.Relation

/-!
# Embedded records

What the traversal of embedded types meets, said without the traversal: the definitions that are
reached by following embedded names from record to record. Names that lead nowhere, that lead to no
record, or that lead back to a record already met add nothing, so circles do no harm and each
definition is met once.
-/

namespace ApiAtlas.Catalog

variable {c : Catalog} {test : Definition → Bool} {order : List String → List String}

theorem name_of_type? {name : String} {d : Definition} (h : c.type? name = some d) :
    d.name = name := by
  simpa using List.find?_some h

theorem record?_eq_some {name : String} {d : Definition} :
    c.record? name = some d ↔ c.type? name = some d ∧ d.isRecord = true := by
  unfold record?
  rw [Option.filter_eq_some_iff]

/-- A definition embeds a record of the catalog by name. -/
def Embeds (c : Catalog) (d e : Definition) : Prop :=
  ∃ name ∈ d.embeddedNames, c.record? name = some e

/-! ## What the traversal meets -/

theorem closure_nil (visited : List String) : c.closure test order visited [] = [] := by
  rw [closure]

/-- A fresh name with a definition that passes is met, and its embedded names come next. -/
theorem closure_of_pass {visited rest : List String} {name : String} {d : Definition}
    (hvisited : name ∉ visited) (hd : c.type? name = some d) (htest : test d = true) :
    c.closure test order visited (name :: rest) =
      d :: c.closure test order (name :: visited) (order d.embeddedNames ++ rest) := by
  rw [closure, dif_neg (by simpa using hvisited)]
  split
  · next hnone => simp [hd] at hnone
  · next e he =>
    obtain rfl := Option.some.inj (hd.symm.trans he)
    rw [if_pos htest]

theorem ne_of_refused {name other : String} {d : Definition} (hd : c.type? name = some d)
    (htest : test d = true) (hrefused : ∀ e, c.type? other = some e → ¬ test e = true) :
    name ≠ other := by
  rintro rfl
  exact hrefused d hd htest

/-- A pending name that is not visited is met. -/
theorem mem_closure_of_pending (visited pending : List String) {name : String} {d : Definition}
    (hname : name ∈ pending) (hvisited : name ∉ visited) (hd : c.type? name = some d)
    (htest : test d = true) : d ∈ c.closure test order visited pending := by
  fun_induction Catalog.closure c test order visited pending with
  | case1 => simp at hname
  | case2 visited first rest hv ih =>
    have hne : name ≠ first := fun heq ↦ hvisited (heq ▸ List.contains_iff_mem.1 hv)
    exact ih (List.mem_of_ne_of_mem hne hname) hvisited
  | case3 visited first rest _ hnone ih =>
    have hne : name ≠ first := ne_of_refused hd htest (by simp [hnone])
    exact ih (List.mem_of_ne_of_mem hne hname) (by simp [hne, hvisited])
  | case4 visited first rest _ e he _ ih =>
    by_cases heq : name = first
    · obtain rfl := Option.some.inj ((heq ▸ hd).symm.trans he)
      exact List.mem_cons_self
    · have hrest := List.mem_of_ne_of_mem heq hname
      exact List.mem_cons_of_mem _
        (ih (List.mem_append_right _ hrest) (by simp [heq, hvisited]))
  | case5 visited first rest _ e he hfails ih =>
    have hne : name ≠ first := ne_of_refused hd htest (by simp [he, hfails])
    exact ih (List.mem_of_ne_of_mem hne hname) (by simp [hne, hvisited])

/-- What a met definition embeds is met, unless its name was visited before. -/
theorem mem_closure_of_embedded (horder : ∀ names name, name ∈ order names ↔ name ∈ names)
    (visited pending : List String) {name : String} {d e : Definition}
    (hd : d ∈ c.closure test order visited pending) (hname : name ∈ d.embeddedNames)
    (hvisited : name ∉ visited) (he : c.type? name = some e) (htest : test e = true) :
    e ∈ c.closure test order visited pending := by
  fun_induction Catalog.closure c test order visited pending with
  | case1 => simp at hd
  | case2 visited first rest _ ih => exact ih hd hvisited
  | case3 visited first rest _ hnone ih =>
    have hne : name ≠ first := ne_of_refused he htest (by simp [hnone])
    exact ih hd (by simp [hne, hvisited])
  | case4 visited first rest _ met hmet _ ih =>
    by_cases heq : name = first
    · obtain rfl := Option.some.inj ((heq ▸ he).symm.trans hmet)
      exact List.mem_cons_self
    · have hfresh : name ∉ first :: visited := by simp [heq, hvisited]
      apply List.mem_cons_of_mem
      rcases List.mem_cons.1 hd with rfl | hlater
      · have hpending : name ∈ order d.embeddedNames ++ rest :=
          List.mem_append_left _ ((horder _ _).2 hname)
        exact mem_closure_of_pending _ _ hpending hfresh he htest
      · exact ih hlater hfresh
  | case5 visited first rest _ met hmet hfails ih =>
    have hne : name ≠ first := ne_of_refused he htest (by simp [hmet, hfails])
    exact ih hd (by simp [hne, hvisited])

/-- Every property of the pending definitions that passes on to embedded ones holds of all that are
met. -/
theorem closure_induction {motive : Definition → Prop} (visited pending : List String)
    (horder : ∀ names name, name ∈ order names ↔ name ∈ names)
    (hpending : ∀ name ∈ pending, ∀ d, c.type? name = some d → test d = true → motive d)
    (hembedded : ∀ d, motive d → ∀ name ∈ d.embeddedNames, ∀ e, c.type? name = some e →
      test e = true → motive e) :
    ∀ d ∈ c.closure test order visited pending, motive d := by
  fun_induction Catalog.closure c test order visited pending with
  | case1 => simp
  | case2 visited first rest _ ih =>
    exact ih fun name hname ↦ hpending name (List.mem_cons_of_mem _ hname)
  | case3 visited first rest _ _ ih =>
    exact ih fun name hname ↦ hpending name (List.mem_cons_of_mem _ hname)
  | case4 visited first rest _ met hmet htest ih =>
    have hfirst : motive met := hpending first List.mem_cons_self met hmet htest
    intro d hd
    rcases List.mem_cons.1 hd with rfl | hlater
    · exact hfirst
    · refine ih (fun name hname e he hpass ↦ ?_) d hlater
      rcases List.mem_append.1 hname with hinner | hrest
      · exact hembedded met hfirst name ((horder _ _).1 hinner) e he hpass
      · exact hpending name (List.mem_cons_of_mem _ hrest) e he hpass
  | case5 visited first rest _ _ _ _ ih =>
    exact ih fun name hname ↦ hpending name (List.mem_cons_of_mem _ hname)

/-! ## Records with what they embed -/

/-- A record of the catalog comes with exactly the records that embedding leads to. -/
theorem mem_withEmbedded_iff {d : Definition} (hd : c.type? d.name = some d) (e : Definition) :
    e ∈ c.withEmbedded d ↔ Relation.ReflTransGen c.Embeds d e := by
  have hid : ∀ (names : List String) (name : String), name ∈ id names ↔ name ∈ names :=
    fun _ _ ↦ Iff.rfl
  unfold withEmbedded
  constructor
  · intro he
    rcases List.mem_cons.1 he with rfl | hinner
    · exact .refl
    · refine closure_induction (motive := fun e ↦ Relation.ReflTransGen c.Embeds d e) [d.name]
        d.embeddedNames hid ?_ ?_ e hinner
      · intro name hname e he hrecord
        exact .single ⟨name, hname, record?_eq_some.2 ⟨he, hrecord⟩⟩
      · intro middle hmiddle name hname e he hrecord
        exact hmiddle.tail ⟨name, hname, record?_eq_some.2 ⟨he, hrecord⟩⟩
  · intro hpath
    induction hpath with
    | refl => exact List.mem_cons_self
    | @tail middle last _ hlast ih =>
      obtain ⟨name, hname, hrecord⟩ := hlast
      obtain ⟨htype, htest⟩ := record?_eq_some.1 hrecord
      by_cases heq : name = d.name
      · obtain rfl := Option.some.inj ((heq ▸ htype).symm.trans hd)
        exact List.mem_cons_self
      · apply List.mem_cons_of_mem
        rcases List.mem_cons.1 ih with rfl | hinner
        · exact mem_closure_of_pending _ _ hname (by simpa using heq) htype htest
        · exact mem_closure_of_embedded hid _ _ hinner hname (by simpa using heq) htype htest

/-- From the name of a record every record is met that embedding leads to, also by a traversal that
meets more than records. -/
theorem mem_closure_of_path (horder : ∀ names name, name ∈ order names ↔ name ∈ names)
    (htest : ∀ e, e.isRecord = true → test e = true) {name : String} {d e : Definition}
    (hd : c.record? name = some d) (hpath : Relation.ReflTransGen c.Embeds d e) :
    e ∈ c.closure test order [] [name] := by
  obtain ⟨htype, hrecord⟩ := record?_eq_some.1 hd
  induction hpath with
  | refl =>
    exact mem_closure_of_pending [] [name] List.mem_cons_self List.not_mem_nil htype
      (htest d hrecord)
  | @tail _ last _ hlast ih =>
    obtain ⟨inner, hinner, hlast⟩ := hlast
    obtain ⟨htype, hrecord⟩ := record?_eq_some.1 hlast
    exact mem_closure_of_embedded horder [] [name] ih hinner List.not_mem_nil htype
      (htest last hrecord)

/-- From a single name, in whatever order embedded types are arranged, exactly the records are met
that embedding leads to from the record of that name. -/
theorem mem_closure_singleton_iff (horder : ∀ names name, name ∈ order names ↔ name ∈ names)
    (name : String) (e : Definition) :
    e ∈ c.closure Definition.isRecord order [] [name] ↔
      ∃ d, c.record? name = some d ∧ Relation.ReflTransGen c.Embeds d e := by
  constructor
  · refine closure_induction
      (motive := fun e ↦ ∃ d, c.record? name = some d ∧ Relation.ReflTransGen c.Embeds d e)
      [] [name] horder ?_ ?_ e
    · intro first hfirst d hd hrecord
      obtain rfl := List.mem_singleton.1 hfirst
      exact ⟨d, record?_eq_some.2 ⟨hd, hrecord⟩, .refl⟩
    · rintro middle ⟨d, hd, hpath⟩ inner hinner last hlast hrecord
      exact ⟨d, hd, hpath.tail ⟨inner, hinner, record?_eq_some.2 ⟨hlast, hrecord⟩⟩⟩
  · rintro ⟨d, hd, hpath⟩
    exact mem_closure_of_path horder (fun _ hrecord ↦ hrecord) hd hpath

/-! ## Each definition is met once -/

/-- Nothing is met whose name was visited before. -/
theorem name_notMem_of_mem_closure (visited pending : List String) {d : Definition}
    (h : d ∈ c.closure test order visited pending) : d.name ∉ visited := by
  fun_induction Catalog.closure c test order visited pending with
  | case1 => simp at h
  | case2 visited first rest _ ih => exact ih h
  | case3 visited first rest _ _ ih | case5 visited first rest _ _ _ _ ih =>
    exact fun hvisited ↦ ih h (List.mem_cons_of_mem _ hvisited)
  | case4 visited first rest hfresh met hmet _ ih =>
    rcases List.mem_cons.1 h with rfl | hlater
    · rw [name_of_type? hmet]
      simpa using hfresh
    · exact fun hvisited ↦ ih hlater (List.mem_cons_of_mem _ hvisited)

theorem nodup_names_closure (visited pending : List String) :
    ((c.closure test order visited pending).map Definition.name).Nodup := by
  fun_induction Catalog.closure c test order visited pending with
  | case1 => exact List.nodup_nil
  | case2 visited first rest _ ih => exact ih
  | case3 visited first rest _ _ ih => exact ih
  | case4 visited first rest _ met hmet _ ih =>
    rw [List.map_cons, List.nodup_cons]
    refine ⟨?_, ih⟩
    intro hagain
    obtain ⟨d, hd, hname⟩ := List.mem_map.1 hagain
    apply name_notMem_of_mem_closure _ _ hd
    rw [hname, name_of_type? hmet]
    exact List.mem_cons_self
  | case5 visited first rest _ _ _ _ ih => exact ih

end ApiAtlas.Catalog

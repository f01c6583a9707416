import ApiAtlas.Catalog.Definition
import ApiAtlas.Notice

/-!
# The catalog

All definitions and handlers of an API, in the order in which they were registered. The first
registration of a name wins. `closure` follows embedded types from record to record and meets each
one once.
-/

namespace ApiAtlas

/-- The types and handlers of an API. -/
structure Catalog where
  types : List Definition := []
  handlers : List Handler := []
  deriving Repr, Inhabited

namespace Catalog

/-! ## Looking up -/

/-- The definition of a name. -/
def type? (c : Catalog) (name : String) : Option Definition :=
  c.types.find? fun d ↦ d.name == name

/-- Whether a name is defined. -/
def hasType (c : Catalog) (name : String) : Bool :=
  (c.type? name).isSome

/-- The record with a given name. -/
def record? (c : Catalog) (name : String) : Option Definition :=
  (c.type? name).filter Definition.isRecord

/-- The handler with a given name. -/
def handler? (c : Catalog) (name : String) : Option Handler :=
  c.handlers.find? fun h ↦ h.name == name

/-- Puts a definition into a list sorted by name. -/
def insertByName (d : Definition) : List Definition → List Definition
  | [] => [d]
  | e :: rest => if d.name < e.name then d :: e :: rest else e :: insertByName d rest

/-- The definitions of unions, sorted by name. -/
def unions (c : Catalog) : List Definition :=
  (c.types.filter fun d ↦ d.kind == .union).foldl (fun sorted d ↦ insertByName d sorted) []

/-! ## Registration -/

/-- Adds a definition, unless its name is taken. -/
def addType (c : Catalog) (d : Definition) : Catalog × Option Notice :=
  match c.type? d.name with
  | some kept => (c, some (.duplicateType d.name d.origin.file kept.origin.file))
  | none => ({ c with types := c.types ++ [d] }, none)

/-- Adds a handler, unless its name is taken. -/
def addHandler (c : Catalog) (h : Handler) : Catalog × Option Notice :=
  match c.handler? h.name with
  | some _ => (c, some (.duplicateHandler h.name))
  | none => ({ c with handlers := c.handlers ++ [h] }, none)

/-- Adds definitions and then handlers, with the notices in order. -/
def addAll (c : Catalog) (types : List Definition) (handlers : List Handler) :
    Catalog × List Notice :=
  let withTypes := types.foldl (fun (c, notices) d ↦
    let (c, notice) := c.addType d
    (c, notices ++ notice.toList)) (c, ([] : List Notice))
  handlers.foldl (fun (c, notices) h ↦
    let (c, notice) := c.addHandler h
    (c, notices ++ notice.toList)) withTypes

/-! ## Embedded types -/

/-- The number of definitions whose names are not in a list. -/
def unvisited (c : Catalog) (visited : List String) : Nat :=
  c.types.countP fun d ↦ !visited.contains d.name

theorem unvisited_cons_le (c : Catalog) (name : String) (visited : List String) :
    c.unvisited (name :: visited) ≤ c.unvisited visited := by
  unfold unvisited
  apply List.countP_mono_left
  intro d _ h
  simp only [List.contains_cons, Bool.not_eq_true', Bool.or_eq_false_iff] at h ⊢
  exact h.2

theorem countP_lt_countP {α : Type} {p q : α → Bool} {l : List α} {a : α}
    (h : ∀ x ∈ l, p x = true → q x = true) (ha : a ∈ l) (hq : q a = true) (hp : p a = false) :
    l.countP p < l.countP q := by
  induction l with
  | nil => simp at ha
  | cons b rest ih =>
    have hrest : ∀ x ∈ rest, p x = true → q x = true :=
      fun x hx ↦ h x (List.mem_cons_of_mem b hx)
    rcases List.mem_cons.1 ha with rfl | hmem
    · have hle := List.countP_mono_left hrest
      rw [List.countP_cons_of_neg (by simp [hp]), List.countP_cons_of_pos hq]
      omega
    · have hlt := ih hrest hmem
      cases hpb : p b
      · rw [List.countP_cons_of_neg (by simp [hpb])]
        cases hqb : q b
        · rw [List.countP_cons_of_neg (by simp [hqb])]
          exact hlt
        · rw [List.countP_cons_of_pos hqb]
          omega
      · rw [List.countP_cons_of_pos hpb, List.countP_cons_of_pos (h b (by simp) hpb)]
        omega

theorem unvisited_cons_lt {c : Catalog} {name : String} {visited : List String} {d : Definition}
    (hd : c.type? name = some d) (hv : visited.contains name = false) :
    c.unvisited (name :: visited) < c.unvisited visited := by
  have hname : d.name = name := by
    have := List.find?_some hd
    simpa using this
  apply countP_lt_countP (a := d)
  · intro x _ h
    simp only [List.contains_cons, Bool.not_eq_true', Bool.or_eq_false_iff] at h ⊢
    exact h.2
  · exact List.mem_of_find?_eq_some hd
  · simpa [hname] using hv
  · simp [hname]

/-- The definitions met from a list of names through embedded types, each name once. The first name
of the list comes first, then what it embeds, and then the rest of the list. Only definitions that
pass the test are met; `order` arranges what one definition embeds. -/
def closure (c : Catalog) (test : Definition → Bool) (order : List String → List String)
    (visited : List String) (pending : List String) : List Definition :=
  match pending with
  | [] => []
  | name :: rest =>
    if _hv : visited.contains name then closure c test order visited rest
    else
      match _hd : c.type? name with
      | none => closure c test order (name :: visited) rest
      | some d =>
        if test d then
          d :: closure c test order (name :: visited) (order d.embeddedNames ++ rest)
        else closure c test order (name :: visited) rest
termination_by (c.unvisited visited, pending.length)
decreasing_by
  · exact Prod.Lex.right _ (by simp)
  · exact Prod.Lex.right' _ (unvisited_cons_le c name visited) (by simp)
  · exact Prod.Lex.left _ _ (unvisited_cons_lt _hd (by simpa using _hv))
  · exact Prod.Lex.right' _ (unvisited_cons_le c name visited) (by simp)

/-- A record and the records it embeds, each before what it embeds itself. -/
def withEmbedded (c : Catalog) (d : Definition) : List Definition :=
  d :: c.closure Definition.isRecord id [d.name] d.embeddedNames

end Catalog

end ApiAtlas

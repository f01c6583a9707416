import ApiAtlas.Proofs.FilePaths
import ApiAtlas.Proofs.FileTree
import ApiAtlas.Proofs.Keyed
import Mathlib.Data.List.Nodup
import Mathlib.Logic.Relation

/-!
# Walks through directory trees

In a directory tree as a file system holds it, the entries of a folder have different names. A walk
then meets exactly what can be looked up along admitted names, each once, although it only decides
entry by entry whether to go on. Folders may list their entries in any order: what is at the end of
a path stays a file or a folder.
-/

namespace ApiAtlas.Files.Tree

/-! ## Trees of a file system -/

/-- A tree as a file system holds it: the entries of a folder have different names, each of which
can name a file. -/
inductive IsProper : Tree → Prop
  | file (contents : Contents) : IsProper (.file contents)
  | folder {entries : List (String × Tree)} (distinct : (Keyed.keys entries).Nodup)
      (named : ∀ entry ∈ entries, Path.IsFileName entry.1)
      (inside : ∀ entry ∈ entries, IsProper entry.2) : IsProper (.folder entries)

theorem IsProper.of_at? {t found : Tree} (ht : t.IsProper) {way : List String}
    (h : t.at? way = some found) : found.IsProper ∧ ∀ name ∈ way, Path.IsFileName name := by
  induction way generalizing t with
  | nil =>
    cases h
    exact ⟨ht, List.forall_mem_nil _⟩
  | cons name way ih =>
    obtain ⟨entries, child, rfl, hchild, hfound⟩ := at?_cons h
    cases ht with
    | folder distinct named inside =>
      have hmem : (name, child) ∈ entries := Keyed.mem_of_get? hchild
      obtain ⟨hproper, hnames⟩ := ih (inside _ hmem) hfound
      exact ⟨hproper, List.forall_mem_cons.2 ⟨named _ hmem, hnames⟩⟩

/-! ## Walks -/

section

variable {admits : String → Bool}

theorem mem_walkEntries_iff {entries : List (String × Tree)} {way : List String} {found : Tree} :
    (way, found) ∈ walkEntries admits entries ↔
      ∃ name child rest, way = name :: rest ∧ (name, child) ∈ entries ∧ admits name = true ∧
        (rest, found) ∈ child.walk admits := by
  induction entries with
  | nil => simp [walkEntries]
  | cons entry entries ih =>
    obtain ⟨name, t⟩ := entry
    rw [walkEntries, List.mem_append, ih]
    constructor
    · rintro (hfirst | ⟨other, child, rest, hway, hmem, hrest⟩)
      · split at hfirst
        case isTrue hadmits =>
          obtain ⟨⟨rest, met⟩, hmet, hsame⟩ := List.mem_map.1 hfirst
          cases hsame
          exact ⟨name, t, rest, rfl, List.mem_cons_self, hadmits, hmet⟩
        case isFalse => exact absurd hfirst List.not_mem_nil
      · exact ⟨other, child, rest, hway, List.mem_cons_of_mem _ hmem, hrest⟩
    · rintro ⟨other, child, rest, hway, hmem, hadmits, hmet⟩
      rcases List.mem_cons.1 hmem with hsame | hmem
      · cases hsame
        rw [if_pos hadmits, hway]
        exact Or.inl (List.mem_map.2 ⟨(rest, found), hmet, rfl⟩)
      · exact Or.inr ⟨other, child, rest, hway, hmem, hadmits, hmet⟩

/-- A walk meets what is at the end of a way of admitted names. -/
theorem IsProper.mem_walk_iff {t found : Tree} (ht : t.IsProper) {way : List String} :
    (way, found) ∈ t.walk admits ↔
      t.at? way = some found ∧ ∀ name ∈ way, admits name = true := by
  induction ht generalizing way with
  | file contents =>
    cases way with
    | nil => simpa [walk, at?] using eq_comm
    | cons name way => simp [walk, at?, child?]
  | @folder entries distinct named inside ih =>
    rw [walk, List.mem_cons, mem_walkEntries_iff]
    cases way with
    | nil => simpa [at?] using eq_comm
    | cons name way =>
      -- names differ, so what is listed under a name is what is looked up under it
      have hlookup (child : Tree) :
          (name, child) ∈ entries ↔ (Tree.folder entries).child? name = some child :=
        ⟨Keyed.get?_of_mem distinct, Keyed.mem_of_get?⟩
      rw [at?, Option.bind_eq_some_iff, List.forall_mem_cons]
      constructor
      · rintro (hroot | ⟨_, child, _, hway, hmem, hadmits, hmet⟩)
        · simp at hroot
        · cases hway
          obtain ⟨hfound, hnames⟩ := (ih _ hmem).1 hmet
          exact ⟨⟨child, (hlookup child).1 hmem, hfound⟩, hadmits, hnames⟩
      · rintro ⟨⟨child, hchild, hfound⟩, hadmits, hnames⟩
        have hmem := (hlookup child).2 hchild
        exact Or.inr ⟨name, child, way, rfl, hmem, hadmits, (ih _ hmem).2 ⟨hfound, hnames⟩⟩

theorem nodup_walkEntries {entries : List (String × Tree)} (hkeys : (Keyed.keys entries).Nodup)
    (hinside : ∀ entry ∈ entries, ((entry.2.walk admits).map Prod.fst).Nodup) :
    ((walkEntries admits entries).map Prod.fst).Nodup := by
  induction entries with
  | nil => exact List.nodup_nil
  | cons entry entries ih =>
    obtain ⟨name, t⟩ := entry
    rw [List.forall_mem_cons] at hinside
    obtain ⟨hfresh, hkeys⟩ := List.nodup_cons.1 hkeys
    rw [walkEntries, List.map_append]
    refine List.Nodup.append ?_ (ih hkeys hinside.2) ?_
    · split
      · rw [List.map_map]
        have hways := hinside.1.map (List.cons_injective (a := name))
        rwa [List.map_map] at hways
      · exact List.nodup_nil
    · -- a way through the first entry begins with its name, and no other way does
      intro way hfirst hrest
      obtain ⟨⟨_, found⟩, hfound, rfl⟩ := List.mem_map.1 hrest
      obtain ⟨other, child, rest, hway, hmem, -⟩ := mem_walkEntries_iff.1 hfound
      have hname : other = name := by
        split at hfirst
        · simp only [List.map_map, List.mem_map] at hfirst
          obtain ⟨_, -, hsame⟩ := hfirst
          simp_all
        · simp at hfirst
      exact hfresh (List.mem_map.2 ⟨(other, child), hmem, hname⟩)

/-- A walk meets everything once. -/
theorem IsProper.nodup_walk {t : Tree} (ht : t.IsProper) :
    ((t.walk admits).map Prod.fst).Nodup := by
  induction ht with
  | file contents => exact List.nodup_singleton _
  | @folder entries distinct named inside ih =>
    rw [walk, List.map_cons, List.nodup_cons]
    refine ⟨?_, nodup_walkEntries distinct ih⟩
    intro hroot
    obtain ⟨⟨_, found⟩, hfound, rfl⟩ := List.mem_map.1 hroot
    obtain ⟨_, _, _, hway, -⟩ := mem_walkEntries_iff.1 hfound
    exact absurd hway (by simp)

end

/-! ## Listings -/

/-- One folder of a tree lists its entries in another order. -/
inductive Relists : Tree → Tree → Prop
  | here {entries others : List (String × Tree)} (h : entries.Perm others) :
      Relists (.folder entries) (.folder others)
  | inside {t u : Tree} (h : Relists t u) (front : List (String × Tree)) (name : String)
      (back : List (String × Tree)) :
      Relists (.folder (front ++ (name, t) :: back)) (.folder (front ++ (name, u) :: back))

/-- What is at the end of a way, by kind. -/
def kindAt (t : Tree) (way : List String) : Option Bool :=
  (t.at? way).map isFolder

theorem Relists.isProper {t u : Tree} (h : Relists t u) (ht : t.IsProper) : u.IsProper := by
  induction h with
  | here hperm =>
    cases ht with
    | folder distinct named inside =>
      exact .folder ((Keyed.nodup_keys_iff_of_perm hperm).1 distinct)
        (fun entry hentry ↦ named entry (hperm.mem_iff.2 hentry))
        fun entry hentry ↦ inside entry (hperm.mem_iff.2 hentry)
  | inside _ front name back ih =>
    cases ht with
    | folder distinct named inside =>
      simp only [List.forall_mem_append, List.forall_mem_cons] at named inside
      refine .folder (by simpa [Keyed.keys] using distinct) ?_ ?_
      · simpa only [List.forall_mem_append, List.forall_mem_cons] using named
      · simp only [List.forall_mem_append, List.forall_mem_cons]
        exact ⟨inside.1, ih inside.2.1, inside.2.2⟩

theorem Relists.kindAt_eq {t u : Tree} (h : Relists t u) (ht : t.IsProper) (way : List String) :
    u.kindAt way = t.kindAt way := by
  induction h generalizing way with
  | @here entries others hperm =>
    cases ht with
    | folder distinct named inside =>
      cases way with
      | nil => rfl
      | cons name way =>
        have hlookup : entries.lookup name = others.lookup name :=
          Keyed.get?_of_perm hperm distinct name
        rw [kindAt, kindAt, at?, at?, child?, child?, hlookup]
  | @inside t u _ front name back ih =>
    cases ht with
    | folder distinct named inside =>
      have hinside := ih (inside (name, t) (by simp))
      cases way with
      | nil => rfl
      | cons other way =>
        simp only [kindAt, at?, child?, List.lookup_append, List.lookup_cons]
        cases front.lookup other with
        | some child => rfl
        | none =>
          cases other == name with
          | true => exact hinside way
          | false => rfl

/-! ## Looking up by kind -/

section

variable {t u : Tree}

theorem cases_of_kindAt_eq {place : List String} (h : u.kindAt place = t.kindAt place) :
    (u.at? place = none ∧ t.at? place = none) ∨
      (∃ contents others, u.at? place = some (.file others) ∧
        t.at? place = some (.file contents)) ∨
      ∃ entries others, u.at? place = some (.folder others) ∧
        t.at? place = some (.folder entries) := by
  rw [kindAt, kindAt] at h
  match hu : u.at? place, ht : t.at? place with
  | none, none => simp
  | some (.file _), some (.file _) => simp
  | some (.folder _), some (.folder _) => simp
  | none, some _ => simp [hu, ht] at h
  | some _, none => simp [hu, ht] at h
  | some (.file _), some (.folder _) => simp [hu, ht, isFolder] at h
  | some (.folder _), some (.file _) => simp [hu, ht, isFolder] at h

theorem hasFolder_iff_kindAt {path : String} :
    t.hasFolder path = true ↔ path ≠ "" ∧
      ∃ place, t.follow [] (Path.components path) = .ok place ∧ t.kindAt place = some true := by
  simp only [hasFolder_eq_true_iff, find_eq_ok_iff_follow, kindAt, Option.map_eq_some_iff]
  grind

theorem hasFile_iff_kindAt {path : String} :
    t.hasFile path = true ↔ path ≠ "" ∧ namesFolder path = false ∧
      ∃ place, t.follow [] (Path.components path) = .ok place ∧ t.kindAt place = some false := by
  simp only [hasFile_eq_true_iff, find_eq_ok_iff_follow, kindAt, Option.map_eq_some_iff]
  grind

theorem isSome_lookup {entries : List (String × Tree)} {place : List String}
    (h : t.at? place = some (.folder entries)) (name : String) :
    (entries.lookup name).isSome = (t.kindAt (place ++ [name])).isSome := by
  rw [kindAt, at?_append, h, Option.isSome_map]
  cases hchild : entries.lookup name <;> simp [at?, child?, hchild]

variable (hkind : ∀ way, u.kindAt way = t.kindAt way)

include hkind

theorem follow_congr (place : List String) (components : List Path.Component) :
    u.follow place components = t.follow place components := by
  induction components generalizing place with
  | nil => simp [follow]
  | cons component components ih =>
    rw [follow, follow]
    rcases cases_of_kindAt_eq (hkind place) with
      ⟨hu, ht⟩ | ⟨_, _, hu, ht⟩ | ⟨entries, others, hu, ht⟩
    · rw [hu, ht]
    · rw [hu, ht]
    · have hnames (name : String) :
          (others.lookup name).isSome = (entries.lookup name).isSome := by
        rw [isSome_lookup hu, isSome_lookup ht, hkind]
      rw [hu, ht]
      cases component <;> simp only [hnames, ih]

theorem hasFolder_congr (path : String) : u.hasFolder path = t.hasFolder path := by
  rw [Bool.eq_iff_iff, hasFolder_iff_kindAt, hasFolder_iff_kindAt]
  simp only [follow_congr hkind, hkind]

theorem hasFile_congr (path : String) : u.hasFile path = t.hasFile path := by
  rw [Bool.eq_iff_iff, hasFile_iff_kindAt, hasFile_iff_kindAt]
  simp only [follow_congr hkind, hkind]

end

/-- However folders list their entries, a tree is one of a file system and has files and folders in
the same places. -/
theorem IsProper.of_relists {t u : Tree} (ht : t.IsProper)
    (h : Relation.ReflTransGen Relists t u) :
    u.IsProper ∧ ∀ way, u.kindAt way = t.kindAt way := by
  induction h with
  | refl => exact ⟨ht, fun _ ↦ rfl⟩
  | tail _ hstep ih =>
    exact ⟨hstep.isProper ih.1, fun way ↦ (hstep.kindAt_eq ih.1 way).trans (ih.2 way)⟩

/-! ## Looking up below a folder -/

theorem follow_append {t : Tree} {place middle : List String} {front : List Path.Component}
    (h : t.follow place front = .ok middle) (back : List Path.Component) :
    t.follow place (front ++ back) = t.follow middle back := by
  induction front generalizing place with
  | nil =>
    cases h
    rfl
  | cons component front ih =>
    rw [follow] at h
    rw [List.cons_append, follow]
    split at h
    · simp at h
    · simp at h
    · cases component with
      | root => simp at h
      | current => exact ih h
      | up =>
        simp only [] at h ⊢
        split at h
        · simp at h
        case isFalse hplace => rw [if_neg hplace, ih h]
      | name name =>
        simp only [] at h ⊢
        split at h
        case isTrue hname => rw [if_pos hname, ih h]
        · simp at h

end ApiAtlas.Files.Tree

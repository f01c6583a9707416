import ApiAtlas.Run
import Mathlib.Data.List.Nodup

/-!
# Files that are written

Writing a file into a directory tree changes that file and no other one. Here paths are made of
names alone, so that they lead where they say and two paths lead to one file only if they have the
same names. What was written is then read again, also after other files have been written.
-/

namespace ApiAtlas.Files.Tree

/-! ## Entries -/

theorem lookup_putEntry_self (name : String) (new : Tree) (entries : List (String × Tree)) :
    (putEntry name new entries).lookup name = some new := by
  induction entries with
  | nil => simp [putEntry]
  | cons entry entries ih =>
    obtain ⟨other, t⟩ := entry
    by_cases hother : other = name
    · simp [putEntry, hother]
    · have hname : (name == other) = false := beq_eq_false_iff_ne.2 (Ne.symm hother)
      simp [putEntry, hother, List.lookup_cons, hname, ih]

theorem lookup_putEntry_of_ne {name other : String} (h : other ≠ name) (new : Tree)
    (entries : List (String × Tree)) :
    (putEntry name new entries).lookup other = entries.lookup other := by
  have hname : (other == name) = false := beq_eq_false_iff_ne.2 h
  induction entries with
  | nil => simp [putEntry, List.lookup_cons, hname]
  | cons entry entries ih =>
    obtain ⟨first, t⟩ := entry
    by_cases hfirst : first = name
    · simp [putEntry, hfirst, List.lookup_cons, hname]
    · simp [putEntry, hfirst, List.lookup_cons, ih]

theorem at?_cons {name : String} {way : List String} {t found : Tree}
    (h : t.at? (name :: way) = some found) :
    ∃ entries child, t = .folder entries ∧ entries.lookup name = some child ∧
      child.at? way = some found := by
  obtain ⟨child, hchild, hfound⟩ := Option.bind_eq_some_iff.1 h
  cases t with
  | file contents => simp [child?] at hchild
  | folder entries => exact ⟨entries, child, rfl, hchild, hfound⟩

theorem at?_append (front back : List String) (t : Tree) :
    t.at? (front ++ back) = (t.at? front).bind (at? back) := by
  induction front generalizing t with
  | nil => rfl
  | cons name front ih =>
    simp only [List.cons_append, at?, Option.bind_assoc]
    congr 1
    funext child
    exact ih child

/-- A way that leads to a folder. -/
def HasFolder (t : Tree) (way : List String) : Prop :=
  ∃ entries, t.at? way = some (.folder entries)

/-- A file is in a folder. -/
theorem hasFolder_of_at? {t found : Tree} {place : List String} {name : String}
    (h : t.at? (place ++ [name]) = some found) : t.HasFolder place := by
  rw [at?_append] at h
  obtain ⟨folder, hplace, hfound⟩ := Option.bind_eq_some_iff.1 h
  obtain ⟨entries, _, rfl, _⟩ := at?_cons hfound
  exact ⟨entries, hplace⟩

/-- What was put into a folder is there. -/
theorem at?_put_self {place : List String} {t : Tree} (hplace : t.HasFolder place) (name : String)
    (new : Tree) : (put new (place ++ [name]) t).at? (place ++ [name]) = some new := by
  obtain ⟨entries, hplace⟩ := hplace
  induction place generalizing t with
  | nil =>
    cases hplace
    simp [put, at?, child?, lookup_putEntry_self]
  | cons first place ih =>
    obtain ⟨siblings, child, rfl, hchild, hfolder⟩ := at?_cons hplace
    simp [put, at?, child?, lookup_putEntry_self, hchild, ih hfolder]

/-- Putting a file into a folder changes nothing elsewhere but what folders hold. -/
theorem at?_put {place : List String} {t : Tree} (hplace : t.HasFolder place) {name : String}
    (hname : ¬ t.HasFolder (place ++ [name])) (contents : Contents) {way : List String}
    (hne : way ≠ place ++ [name]) :
    (put (.file contents) (place ++ [name]) t).at? way = t.at? way ∨
      t.HasFolder way ∧ (put (.file contents) (place ++ [name]) t).HasFolder way := by
  obtain ⟨entries, hplace⟩ := hplace
  induction place generalizing t way with
  | nil =>
    cases hplace
    cases way with
    | nil => exact Or.inr ⟨⟨entries, rfl⟩, ⟨_, rfl⟩⟩
    | cons first way =>
      left
      by_cases hfirst : first = name
      · subst hfirst
        cases way with
        | nil => exact absurd rfl hne
        | cons second way =>
          have hold : (folder entries).at? (first :: second :: way) = none := by
            cases hchild : entries.lookup first with
            | none => simp [at?, child?, hchild]
            | some child =>
              cases child with
              | file other => simp [at?, child?, hchild]
              | folder inside => exact absurd ⟨inside, by simp [at?, child?, hchild]⟩ hname
          rw [hold]
          simp [put, at?, child?, lookup_putEntry_self]
      · simp [put, at?, child?, lookup_putEntry_of_ne hfirst]
  | cons step place ih =>
    obtain ⟨siblings, child, rfl, hchild, hfolder⟩ := at?_cons hplace
    cases way with
    | nil => exact Or.inr ⟨⟨siblings, rfl⟩, ⟨_, rfl⟩⟩
    | cons first way =>
      by_cases hfirst : first = step
      · subst hfirst
        have hinside : ¬ child.HasFolder (place ++ [name]) := by
          intro ⟨inside, hfound⟩
          exact hname ⟨inside, by simp [at?, child?, hchild, hfound]⟩
        have hrest : way ≠ place ++ [name] := by
          intro hrest
          exact hne (by rw [hrest, List.cons_append])
        simpa [HasFolder, put, at?, child?, lookup_putEntry_self, hchild]
          using ih hinside hrest hfolder
      · exact Or.inl (by simp [put, at?, child?, lookup_putEntry_of_ne hfirst])

/-! ## Paths of names -/

/-- A path that is made of names alone. -/
def HasWay (path : String) (way : List String) : Prop :=
  Path.components path = way.map .name

instance (path : String) (way : List String) : Decidable (HasWay path way) :=
  inferInstanceAs (Decidable (_ = _))

theorem follow_eq (place way : List String) {t found : Tree}
    (h : t.at? (place ++ way) = some found) :
    t.follow place (way.map .name) = .ok (place ++ way) := by
  induction way generalizing place with
  | nil => simp [follow]
  | cons name way ih =>
    have hnext : place ++ name :: way = (place ++ [name]) ++ way := by simp
    have hrest := ih (place ++ [name]) (hnext ▸ h)
    rw [at?_append] at h
    obtain ⟨folder, hplace, hfound⟩ := Option.bind_eq_some_iff.1 h
    obtain ⟨entries, child, rfl, hchild, -⟩ := at?_cons hfound
    rw [hnext, ← hrest, List.map_cons, follow]
    simp [hplace, hchild]

theorem eq_of_follow {t : Tree} {place way result : List String}
    (h : t.follow place (way.map .name) = .ok result) : result = place ++ way := by
  induction way generalizing place with
  | nil => simpa [follow] using h.symm
  | cons name way ih =>
    rw [List.map_cons, follow] at h
    split at h
    · simp at h
    · simp at h
    · simp only [] at h
      split at h
      · rw [ih h, List.append_assoc, List.singleton_append]
      · simp at h

/-- A path leads where its components do, but one that can only name a folder leads to no file. -/
theorem find_eq_ok_iff_follow {t found : Tree} {path : String} :
    t.find path = .ok found ↔
      path ≠ "" ∧ (∃ place, t.follow [] (Path.components path) = .ok place ∧
        t.at? place = some found) ∧ (namesFolder path = true → found.isFolder = true) := by
  rw [find]
  by_cases hempty : path = ""
  · simp [hempty]
  · rw [if_neg (by simpa using hempty)]
    cases t.follow [] (Path.components path) with
    | error fault => simp
    | ok place =>
      cases hplace : t.at? place with
      | none => simp [hplace]
      | some other =>
        cases other with
        | file contents => cases hfolder : namesFolder path <;> cases found <;> simp_all [isFolder]
        | folder entries => cases found <;> simp_all [isFolder]

theorem hasFolder_eq_true_iff {t : Tree} {path : String} :
    t.hasFolder path = true ↔ ∃ found, t.find path = .ok found ∧ found.isFolder = true := by
  rw [hasFolder]
  cases t.find path <;> simp

theorem hasFile_eq_true_iff {t : Tree} {path : String} :
    t.hasFile path = true ↔ ∃ found, t.find path = .ok found ∧ found.isFolder = false := by
  rw [hasFile]
  cases t.find path <;> simp

section

variable {path : String} {way : List String} (hway : HasWay path way) (hne : way ≠ [])

include hway hne

/-- A path of names leads to what is at the end of its way. -/
theorem find_eq_ok_iff {t found : Tree} :
    t.find path = .ok found ↔
      t.at? way = some found ∧ (namesFolder path = true → found.isFolder = true) := by
  have hpath : path ≠ "" := by
    rintro rfl
    exact hne (List.map_eq_nil_iff.1 (Eq.symm hway))
  rw [find_eq_ok_iff_follow, hway]
  constructor
  · rintro ⟨_, ⟨place, hfollow, hfound⟩, hfolder⟩
    rw [eq_of_follow hfollow, List.nil_append] at hfound
    exact ⟨hfound, hfolder⟩
  · rintro ⟨hfound, hfolder⟩
    exact ⟨hpath, ⟨way, follow_eq [] way hfound, hfound⟩, hfolder⟩

theorem hasFolder_iff {t : Tree} : t.hasFolder path = true ↔ t.HasFolder way := by
  simp only [hasFolder_eq_true_iff, find_eq_ok_iff hway hne]
  constructor
  · rintro ⟨found, ⟨hfound, -⟩, hfolder⟩
    cases found with
    | file contents => simp [isFolder] at hfolder
    | folder entries => exact ⟨entries, hfound⟩
  · rintro ⟨entries, hentries⟩
    exact ⟨.folder entries, ⟨hentries, fun _ ↦ rfl⟩, rfl⟩

/-- The folder of a file is there. -/
theorem hasFolder_of_hasFile {t : Tree} (h : t.hasFile path = true) : t.HasFolder way.dropLast := by
  obtain ⟨found, hfind, -⟩ := hasFile_eq_true_iff.1 h
  have hfound := ((find_eq_ok_iff hway hne).1 hfind).1
  rw [← List.dropLast_concat_getLast hne] at hfound
  exact hasFolder_of_at? hfound

/-- A file is read if it is where its path leads. -/
theorem read_eq_iff {t : Tree} (hfile : namesFolder path = false) (text : String) :
    t.read path = .ok text ↔ t.at? way = some (.file (.text text)) := by
  have hfind : t.find path = .ok (.file (.text text)) ↔ t.at? way = some (.file (.text text)) := by
    rw [find_eq_ok_iff hway hne]
    simp [hfile]
  rw [← hfind, read]
  constructor
  · intro h
    split at h <;> simp_all
  · intro h
    rw [h]

end

/-! ## Writing -/

/-- A path of names where a file can be written: its folder is there, and no folder is in its
place. -/
structure IsWritable (t : Tree) (path : String) (way : List String) : Prop where
  hasWay : HasWay path way
  ne_nil : way ≠ []
  namesFolder_eq : namesFolder path = false
  hasFolder : t.HasFolder way.dropLast
  isFree : ¬ t.HasFolder way

theorem IsWritable.of_folders {t next : Tree} {path : String} {way : List String}
    (h : IsWritable t path way) (hsame : ∀ other, next.HasFolder other ↔ t.HasFolder other) :
    IsWritable next path way :=
  ⟨h.hasWay, h.ne_nil, h.namesFolder_eq, (hsame _).2 h.hasFolder,
    fun hfolder ↦ h.isFree ((hsame way).1 hfolder)⟩

theorem IsWritable.write_eq {t : Tree} {path : String} {way : List String}
    (h : IsWritable t path way) (text : String) :
    t.write path text = .ok (put (.file (.text text)) way t) := by
  obtain ⟨place, name, rfl⟩ := (List.eq_nil_or_concat' way).resolve_left h.ne_nil
  obtain ⟨entries, hplace⟩ := h.hasFolder
  rw [List.dropLast_concat] at hplace
  have hcomponents : Path.components path = place.map .name ++ [.name name] := by
    rw [h.hasWay, List.map_append]
    rfl
  rw [write, hcomponents, List.getLast?_concat, List.dropLast_concat, follow_eq [] place hplace,
    List.nil_append]
  simp only [hplace, h.namesFolder_eq]
  split
  case h_1 inside _ hinside => exact absurd ⟨inside, hinside⟩ h.isFree
  case h_2 => rfl
  case h_3 hnone _ => exact absurd rfl (hnone entries)

/-- A file that was written is where its path leads, every other file is as it was, and the folders
are the same. -/
theorem IsWritable.write_step {t : Tree} {path : String} {way : List String}
    (h : IsWritable t path way) (text : String) :
    ∃ next, t.write path text = .ok next ∧ next.at? way = some (.file (.text text)) ∧
      (∀ other contents, other ≠ way → t.at? other = some (.file contents) →
        next.at? other = some (.file contents)) ∧
      ∀ other, next.HasFolder other ↔ t.HasFolder other := by
  refine ⟨_, h.write_eq text, ?_⟩
  obtain ⟨place, name, rfl⟩ := (List.eq_nil_or_concat' way).resolve_left h.ne_nil
  have hplace := h.hasFolder
  rw [List.dropLast_concat] at hplace
  have hself := at?_put_self hplace name (.file (.text text))
  refine ⟨hself, ?_, ?_⟩
  · intro other contents hother hfound
    rcases at?_put hplace h.isFree (.text text) hother with hsame | ⟨⟨entries, hfolder⟩, _⟩
    · rw [hsame, hfound]
    · simp [hfound] at hfolder
  · intro other
    by_cases hother : other = place ++ [name]
    · subst hother
      exact ⟨fun ⟨entries, hentries⟩ ↦ by simp [hself] at hentries, fun hold ↦ absurd hold h.isFree⟩
    · rcases at?_put hplace h.isFree (.text text) hother with hsame | ⟨hold, hnew⟩
      · rw [HasFolder, HasFolder, hsame]
      · exact ⟨fun _ ↦ hold, fun _ ↦ hnew⟩

end ApiAtlas.Files.Tree

namespace ApiAtlas.Run

open Accessors (Companion)
open Files (Tree)
open Files.Tree

/-! ## Companion files -/

theorem writeCompanion_eq (file : Companion) (t : Tree) :
    writeCompanion Tree.access file t =
      match t.write file.path file.contents with
      | .ok next => (.ok (), next)
      | .error fault => (.error (.file file.path fault), t) := by
  simp only [writeCompanion, bind, StateT.bind, Tree.access, Tree.change]
  cases t.write file.path file.contents <;> rfl

theorem collect_cons_eq {file : Companion} {files : List Companion} {t next last : Tree}
    {result : List Unit} (hwrite : t.write file.path file.contents = .ok next)
    (hrest : collect (writeCompanion Tree.access) files next = (.ok result, last)) :
    collect (writeCompanion Tree.access) (file :: files) t = (.ok (() :: result), last) := by
  simp only [collect, bind, StateT.bind, writeCompanion_eq, hwrite, hrest]
  rfl

section

variable {way : Companion → List String} {files : List Companion} {t : Tree}
  (hfiles : ∀ file ∈ files, IsWritable t file.path (way file))

include hfiles

/-- Files can be written one after the other. All other files stay as they are, and files with
different paths are all there at the end. -/
theorem written_of_collect :
    ∃ result last, collect (writeCompanion Tree.access) files t = (.ok result, last) ∧
      (∀ other contents, (∀ file ∈ files, other ≠ way file) →
        t.at? other = some (.file contents) → last.at? other = some (.file contents)) ∧
      ((files.map way).Nodup →
        ∀ file ∈ files, last.at? (way file) = some (.file (.text file.contents))) := by
  induction files generalizing t with
  | nil => exact ⟨[], t, rfl, fun _ _ _ hother ↦ hother, fun _ ↦ List.forall_mem_nil _⟩
  | cons file files ih =>
    rw [List.forall_mem_cons] at hfiles
    obtain ⟨next, hwrite, hfirst, hothers, hfolders⟩ := hfiles.1.write_step file.contents
    obtain ⟨result, last, hrest, hkept, hwritten⟩ :=
      ih fun other hother ↦ (hfiles.2 other hother).of_folders hfolders
    refine ⟨() :: result, last, collect_cons_eq hwrite hrest, ?_, ?_⟩
    · intro other contents hne hfound
      rw [List.forall_mem_cons] at hne
      exact hkept other contents hne.2 (hothers other contents hne.1 hfound)
    · intro hnodup
      rw [List.map_cons, List.nodup_cons] at hnodup
      have hne : ∀ other ∈ files, way file ≠ way other :=
        fun other hother heq ↦ hnodup.1 (heq ▸ List.mem_map_of_mem hother)
      exact List.forall_mem_cons.2 ⟨hkept _ _ hne hfirst, hwritten hnodup.2⟩

/-- Files with different contents can all be read after they have been written exactly if their
paths differ. -/
theorem read_of_collect_iff (hcontents : (files.map Companion.contents).Nodup) :
    ∃ result last, collect (writeCompanion Tree.access) files t = (.ok result, last) ∧
      ((∀ file ∈ files, last.read file.path = .ok file.contents) ↔ (files.map way).Nodup) := by
  obtain ⟨result, last, hwrite, _, hwritten⟩ := written_of_collect hfiles
  have hread {file : Companion} (hfile : file ∈ files) :
      last.read file.path = .ok file.contents ↔
        last.at? (way file) = some (.file (.text file.contents)) :=
    read_eq_iff (hfiles file hfile).hasWay (hfiles file hfile).ne_nil
      (hfiles file hfile).namesFolder_eq file.contents
  refine ⟨result, last, hwrite, ?_, ?_⟩
  · intro hkept
    apply List.pairwise_map.2
    refine (List.pairwise_map.1 hcontents).imp_of_mem fun {file other} hfile hother hne hsame ↦ ?_
    have hfirst := (hread hfile).1 (hkept file hfile)
    have hsecond := (hread hother).1 (hkept other hother)
    rw [hsame, hsecond] at hfirst
    simp_all
  · intro hnodup file hfile
    exact (hread hfile).2 (hwritten hnodup file hfile)

end

end ApiAtlas.Run

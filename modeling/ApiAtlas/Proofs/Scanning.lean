import ApiAtlas.Files.Scan
import ApiAtlas.Proofs.TreeWalk

/-!
# Scanning finds the source files

Scanning decides entry by entry where to go on and file by file what to take. All the same it finds
exactly the files below a folder with the extension of source files and no hidden name on the way,
and it gives their paths once each and in order. The order of the paths is that of the names below
the folder, so it does not depend on how a file system lists its folders.
-/

namespace ApiAtlas.Path

/-! ## Order of paths -/

/-- The place of a component in the order: the root, a point, two points, and names by their
texts. -/
def Component.rank : Component → Nat × String
  | .root => (0, "")
  | .current => (1, "")
  | .up => (2, "")
  | .name text => (3, text)

/-- Whether a component comes before another one. -/
def Component.Before (component other : Component) : Prop :=
  Prod.Lex (· < ·) (· < ·) component.rank other.rank

/-- Whether a path comes before another one, component by component. -/
def Before (path other : String) : Prop :=
  List.Lex Component.Before (components path) (components other)

theorem Component.Before.ne {component other : Component} (h : component.Before other) :
    component ≠ other := by
  rintro rfl
  rcases Prod.lex_def.1 h with hrank | ⟨-, htext⟩
  · exact Nat.lt_irrefl _ hrank
  · exact String.lt_irrefl _ htext

theorem Before.ne {path other : String} (h : Before path other) : path ≠ other := by
  rintro rfl
  exact (h.imp fun _ _ ↦ Component.Before.ne).to_ne rfl

end ApiAtlas.Path

namespace ApiAtlas.Files

/-! ## Order of names -/

/-- Ways are listed in the lexicographic order of their names. -/
theorem precedes_iff_le (way other : List String) : precedes way other = true ↔ way ≤ other := by
  rw [← not_lt]
  fun_induction precedes way other with
  | case1 other => simp
  | case2 name way => simp
  | case3 name way next other hsame ih =>
    rw [ih, List.cons_lt_cons_iff, beq_iff_eq.1 hsame]
    simp
  | case4 name way next other hne =>
    have hne : name ≠ next := by simpa using hne
    rw [List.cons_lt_cons_iff, decide_eq_true_iff]
    constructor
    · rintro hlt (hgt | ⟨hsame, -⟩)
      · exact lt_asymm hlt hgt
      · exact hne hsame.symm
    · intro hnot
      exact lt_of_le_of_ne (not_lt.1 fun hgt ↦ hnot (Or.inl hgt)) hne

/-- The order of names is the order of components. -/
theorem lex_map_name {way other : List String} (h : way < other) :
    List.Lex Path.Component.Before (way.map .name) (other.map .name) := by
  induction h with
  | nil => exact .nil
  | rel hlt => exact .rel (.right 3 hlt)
  | cons _ ih => exact .cons ih

/-! ## What a walk has met -/

theorem sources_perm (met : List Visit) :
    (sources met).Perm ((met.filter Visit.isSource).map Visit.names) :=
  List.mergeSort_perm _ _

theorem mem_sources_iff {met : List Visit} {way : List String} :
    way ∈ sources met ↔ ∃ visit ∈ met, visit.isSource = true ∧ visit.names = way := by
  simp [(sources_perm met).mem_iff, and_assoc]

theorem pairwise_sources (met : List Visit) : (sources met).Pairwise (· ≤ ·) := by
  have hsorted := @List.pairwise_mergeSort _ precedes
    (fun way middle other ↦ by simpa only [precedes_iff_le] using le_trans)
    (fun way other ↦ by simpa only [Bool.or_eq_true, precedes_iff_le] using le_total way other)
    ((met.filter Visit.isSource).map Visit.names)
  exact hsorted.imp fun {way other} ↦ (precedes_iff_le way other).1

/-- Source files stand in the only order that increases. -/
theorem eq_sources_of_perm {ways : List (List String)} {met : List Visit}
    (hways : ways.Pairwise (· ≤ ·)) (hperm : ways.Perm (sources met)) : ways = sources met :=
  hperm.eq_of_pairwise (fun _ _ _ _ ↦ le_antisymm) hways (pairwise_sources met)

theorem sources_eq_of_perm {met others : List Visit} (h : met.Perm others) :
    sources met = sources others :=
  eq_sources_of_perm (pairwise_sources met) <| (sources_perm met).trans <|
    ((h.filter Visit.isSource).map Visit.names).trans (sources_perm others).symm

theorem nodup_sources {met : List Visit} (h : (met.map Visit.names).Nodup) :
    (sources met).Nodup := by
  rw [(sources_perm met).nodup_iff]
  exact h.sublist (List.filter_sublist.map Visit.names)

/-! ## Paths below a folder -/

theorem components_pathBelow {way : List String} (h : ∀ name ∈ way, Path.IsFileName name)
    (root : String) :
    Path.components (pathBelow root way) = Path.components root ++ way.map .name := by
  induction way generalizing root with
  | nil => simp [pathBelow]
  | cons name way ih =>
    rw [List.forall_mem_cons] at h
    have hrest := ih h.2 (Path.join root name)
    rw [h.1.components_join, List.append_assoc] at hrest
    exact hrest

theorem namesFolder_pathBelow {name : String} (h : Path.IsFileName name) (root : String)
    (place : List String) : Tree.namesFolder (pathBelow root (place ++ [name])) = false := by
  have hjoin : pathBelow root (place ++ [name]) = Path.join (pathBelow root place) name := by
    rw [pathBelow, List.foldl_append]
    rfl
  rw [hjoin, h.namesFolder_join]

/-- The name of a source file: something before the extension. -/
def IsSourceName (name : String) : Prop :=
  ∃ stem, stem ≠ "" ∧ name = stem ++ ".rs"

theorem extension?_eq_rs_iff (name : String) :
    Path.extension? name = some "rs" ↔ IsSourceName name := by
  have hending (stem : String) : stem ++ "." ++ "rs" = stem ++ ".rs" := String.append_assoc
  rw [Path.extension?_eq_some_iff]
  constructor
  · rintro ⟨stem, hname, -, hstem⟩
    exact ⟨stem, hstem, hname.trans (hending stem)⟩
  · rintro ⟨stem, hstem, hname⟩
    exact ⟨stem, hname.trans (hending stem).symm, by decide, hstem⟩

theorem isScanned_iff (name : String) :
    isScanned name = true ↔ ¬ ['.'] <+: name.toList ∧ name ≠ "target" := by
  rw [isScanned, Bool.and_eq_true, bne_iff_ne, bne_iff_ne]
  cases name.toList <;> simp [eq_comm]

/-- A way from a folder to a source file: a path goes along it and names a file, no name on it is
hidden or `target`, and the last name is that of a source file. -/
structure Tree.IsSourceBelow (t : Tree) (root : String) (way : List String) : Prop where
  components_eq :
    Path.components (pathBelow root way) = Path.components root ++ way.map .name
  hasFile : t.hasFile (pathBelow root way) = true
  visible : ∀ name ∈ way, ¬ ['.'] <+: name.toList ∧ name ≠ "target"
  extension : ∃ place name, way = place ++ [name] ∧ IsSourceName name

theorem isSource_iff {way : List String} {isFile : Bool} :
    Visit.isSource ⟨way, isFile⟩ = true ↔
      isFile = true ∧ ∃ place name, way = place ++ [name] ∧ IsSourceName name := by
  rw [Visit.isSource, Bool.and_eq_true, beq_iff_eq, Option.bind_eq_some_iff]
  simp only [List.getLast?_eq_some_iff, extension?_eq_rs_iff]
  grind

/-! ## Scanning -/

section

variable {t : Tree} (ht : t.IsProper) {root : String} {found : Tree}
  (hfind : t.find root = .ok found)

include ht hfind

/-- A path below a folder names a file if one is at the end of its way. -/
theorem hasFile_pathBelow_iff {place : List String} {name : String} :
    t.hasFile (pathBelow root (place ++ [name])) = true ∧
        Path.components (pathBelow root (place ++ [name])) =
          Path.components root ++ (place ++ [name]).map .name ↔
      found.kindAt (place ++ [name]) = some false := by
  obtain ⟨_, ⟨start, hstart, hfound⟩, -⟩ := Tree.find_eq_ok_iff_follow.1 hfind
  -- the folder is at `start`, wherever its own path has gone before, and names go on from there
  have hkind (way : List String) : t.kindAt (start ++ way) = found.kindAt way := by
    rw [Tree.kindAt, Tree.at?_append, hfound, Option.bind_some, Tree.kindAt]
  rw [Tree.hasFile_iff_kindAt]
  constructor
  · rintro ⟨⟨_, _, last, hlast, hfile⟩, hcomponents⟩
    rw [hcomponents, Tree.follow_append hstart] at hlast
    rwa [Tree.eq_of_follow hlast, hkind] at hfile
  · intro hfile
    obtain ⟨file, hat, -⟩ := Option.map_eq_some_iff.1 hfile
    have hnames := ((ht.of_at? hfound).1.of_at? hat).2
    have hcomponents := components_pathBelow hnames root
    have hend : t.at? (start ++ (place ++ [name])) = some file := by
      rw [Tree.at?_append, hfound, Option.bind_some, hat]
    refine ⟨⟨?_, namesFolder_pathBelow (hnames name (by simp)) root place,
      start ++ (place ++ [name]), ?_, (hkind _).trans hfile⟩, hcomponents⟩
    · intro hempty
      have hnone : Path.components "" = [] := by decide
      rw [hempty, hnone] at hcomponents
      simp at hcomponents
    · rw [hcomponents, Tree.follow_append hstart, Tree.follow_eq start _ hend]

/-- The source files that scanning meets are those below the folder. -/
theorem mem_sources_visits_iff {way : List String} :
    way ∈ sources (t.visits isScanned root) ↔ t.IsSourceBelow root way := by
  obtain ⟨_, ⟨_, _, hfound⟩, -⟩ := Tree.find_eq_ok_iff_follow.1 hfind
  have hproper := (ht.of_at? hfound).1
  rw [mem_sources_iff, Tree.visits, hfind]
  constructor
  · rintro ⟨_, hvisit, hsource, rfl⟩
    obtain ⟨⟨way, met⟩, hmet, rfl⟩ := List.mem_map.1 hvisit
    obtain ⟨hat, hscanned⟩ := hproper.mem_walk_iff.1 hmet
    obtain ⟨hfile, place, name, rfl, hname⟩ := isSource_iff.1 hsource
    have hkind : found.kindAt (place ++ [name]) = some false := by
      rw [Tree.kindAt, hat]
      simpa using hfile
    obtain ⟨hpath, hcomponents⟩ := (hasFile_pathBelow_iff ht hfind).2 hkind
    exact ⟨hcomponents, hpath, fun other hother ↦ (isScanned_iff other).1 (hscanned other hother),
      place, name, rfl, hname⟩
  · intro h
    obtain ⟨place, name, rfl, hname⟩ := h.extension
    have hkind := (hasFile_pathBelow_iff ht hfind).1 ⟨h.hasFile, h.components_eq⟩
    obtain ⟨met, hat, hfile⟩ := Option.map_eq_some_iff.1 hkind
    have hscanned : ∀ other ∈ place ++ [name], isScanned other = true :=
      fun other hother ↦ (isScanned_iff other).2 (h.visible other hother)
    have hmet : (place ++ [name], met) ∈ found.walk isScanned :=
      hproper.mem_walk_iff.2 ⟨hat, hscanned⟩
    exact ⟨_, List.mem_map.2 ⟨_, hmet, rfl⟩,
      isSource_iff.2 ⟨by simp [hfile], place, name, rfl, hname⟩, rfl⟩

theorem nodup_sources_visits : (sources (t.visits isScanned root)).Nodup := by
  obtain ⟨_, ⟨_, _, hfound⟩, -⟩ := Tree.find_eq_ok_iff_follow.1 hfind
  apply nodup_sources
  rw [Tree.visits, hfind, List.map_map]
  exact (ht.of_at? hfound).1.nodup_walk

/-- The paths of the source files increase with their ways. -/
theorem pairwise_before :
    ((sources (t.visits isScanned root)).map (pathBelow root)).Pairwise Path.Before := by
  have hways : (sources (t.visits isScanned root)).Pairwise (· < ·) :=
    (pairwise_sources _).imp₂ (fun _ _ ↦ lt_of_le_of_ne) (nodup_sources_visits ht hfind)
  apply List.pairwise_map.2
  refine hways.imp_of_mem fun {way other} hway hother hlt ↦ ?_
  rw [Path.Before, ((mem_sources_visits_iff ht hfind).1 hway).components_eq,
    ((mem_sources_visits_iff ht hfind).1 hother).components_eq]
  exact (lex_map_name hlt).append_left _ (Path.components root)

end

/-- The source files are the same however folders list their entries. -/
theorem sources_visits_of_relists {t u : Tree} (ht : t.IsProper) {root : String}
    (hroot : t.hasFolder root = true) (h : Relation.ReflTransGen Tree.Relists t u) :
    u.hasFolder root = true ∧
      sources (u.visits isScanned root) = sources (t.visits isScanned root) := by
  obtain ⟨hu, hkind⟩ := ht.of_relists h
  have hfolder : u.hasFolder root = true := (Tree.hasFolder_congr hkind root).trans hroot
  obtain ⟨_, hfind, -⟩ := Tree.hasFolder_eq_true_iff.1 hroot
  obtain ⟨_, hother, -⟩ := Tree.hasFolder_eq_true_iff.1 hfolder
  have hsame (way : List String) : u.IsSourceBelow root way ↔ t.IsSourceBelow root way := by
    have hfile := Tree.hasFile_congr hkind (pathBelow root way)
    exact ⟨fun hway ↦ ⟨hway.components_eq, hfile ▸ hway.hasFile, hway.visible, hway.extension⟩,
      fun hway ↦ ⟨hway.components_eq, hfile.trans hway.hasFile, hway.visible, hway.extension⟩⟩
  refine ⟨hfolder, eq_sources_of_perm (pairwise_sources _) ?_⟩
  apply (List.perm_ext_iff_of_nodup (nodup_sources_visits hu hother)
    (nodup_sources_visits ht hfind)).2
  intro way
  rw [mem_sources_visits_iff hu hother, mem_sources_visits_iff ht hfind, hsame]

/-- Access to a directory tree as it is: a walk meets everything that it is not told to pass by, in
any order. -/
structure Access.IsFaithful (fs : Access (StateM Tree)) : Prop where
  isFolder_eq : ∀ path t, fs.isFolder path t = (t.hasFolder path, t)
  walk_perm : ∀ admits path t, ∃ met, fs.walk admits path t = (met, t) ∧
    met.Perm (t.visits admits path)

theorem Tree.isFaithful_access : Tree.access.IsFaithful :=
  ⟨fun _ _ ↦ rfl, fun admits path t ↦ ⟨t.visits admits path, rfl, .refl _⟩⟩

theorem Access.IsFaithful.scan_eq {fs : Access (StateM Tree)} (hfs : fs.IsFaithful) {t : Tree}
    {root : String} (hroot : t.hasFolder root = true) :
    scan fs root t = (.ok ((sources (t.visits isScanned root)).map (pathBelow root)), t) := by
  obtain ⟨met, hwalk, hmet⟩ := hfs.walk_perm isScanned root t
  rw [← sources_eq_of_perm hmet]
  simp only [scan, bind, StateT.bind, hfs.isFolder_eq, hroot, hwalk, if_true]
  rfl

/-- Scanning a folder is exact and does not depend on the order of listings: there is one list of
paths that every scan gives, however folders list their entries and in whatever order the walk meets
them. It holds the paths of the source files below the folder, each once and in increasing order. -/
theorem scan_finds_sources {t : Tree} (ht : t.IsProper) {root : String}
    (hroot : t.hasFolder root = true) :
    ∃ paths : List String,
      (∀ (fs : Access (StateM Tree)) (u : Tree), fs.IsFaithful →
        Relation.ReflTransGen Tree.Relists t u → scan fs root u = (.ok paths, u)) ∧
      (∀ path, path ∈ paths ↔ ∃ way, t.IsSourceBelow root way ∧ path = pathBelow root way) ∧
      paths.Pairwise Path.Before ∧ paths.Nodup := by
  obtain ⟨found, hfind, -⟩ := Tree.hasFolder_eq_true_iff.1 hroot
  have hordered := pairwise_before ht hfind
  refine ⟨(sources (t.visits isScanned root)).map (pathBelow root), ?_, ?_, hordered,
    hordered.imp fun h ↦ h.ne⟩
  · intro fs u hfs hu
    obtain ⟨hfolder, hsame⟩ := sources_visits_of_relists ht hroot hu
    rw [hfs.scan_eq hfolder, hsame]
  · intro path
    simp only [List.mem_map, mem_sources_visits_iff ht hfind, eq_comm]

/-- A project whose source folder has the given entries, beside a folder of built files. -/
def projectOf (entries : List (String × Tree)) : Tree :=
  .folder [("target", .folder [("lib.rs", .file .binary)]), ("src", .folder entries)]

/-- The entries of a source folder, with names on every level that scanning passes by, and a folder
that is named like a source file. -/
def sourceEntries : List (String × Tree) :=
  [("b.rs", .file .binary), (".git", .folder [("x.rs", .file .binary)]),
   ("a", .folder [("target", .folder [("z.rs", .file .binary)]),
     ("old.rs", .folder [("c.rs", .file .binary)]), ("mod.rs", .file .binary)]),
   ("a.rs", .file .binary), ("notes.md", .file .binary), (".rs", .file .binary)]

/-- Access whose walks meet everything backwards. -/
def backwards : Access (StateM Tree) :=
  { Tree.access with walk := fun admits path t ↦ ((t.visits admits path).reverse, t) }

theorem isProper_projectOf_sourceEntries : (projectOf sourceEntries).IsProper := by
  have hfile : (Tree.file .binary).IsProper := .file .binary
  have hone {name : String} (h : Path.IsFileName name) :
      (Tree.folder [(name, .file .binary)]).IsProper :=
    .folder (List.nodup_singleton _) (List.forall_mem_singleton.2 h)
      (List.forall_mem_singleton.2 hfile)
  refine .folder (by decide) (by decide) ?_
  simp only [List.forall_mem_cons, List.not_mem_nil, IsEmpty.forall_iff, implies_true, and_true]
  refine ⟨hone (by decide), .folder (by decide) (by decide) ?_⟩
  simp only [sourceEntries, List.forall_mem_cons, List.not_mem_nil, IsEmpty.forall_iff,
    implies_true, and_true]
  refine ⟨hfile, hone (by decide), .folder (by decide) (by decide) ?_, hfile, hfile, hfile⟩
  simp only [List.forall_mem_cons, List.not_mem_nil, IsEmpty.forall_iff, implies_true, and_true]
  exact ⟨hone (by decide), hone (by decide), hfile⟩

theorem scan_of_project :
    (projectOf sourceEntries).IsProper ∧ (projectOf sourceEntries).hasFolder "src" = true ∧
      backwards.IsFaithful ∧
      Tree.Relists (projectOf sourceEntries) (projectOf sourceEntries.reverse) ∧
      scan Tree.access "src" (projectOf sourceEntries) =
        (.ok ["src/a/mod.rs", "src/a/old.rs/c.rs", "src/a.rs", "src/b.rs"],
          projectOf sourceEntries) ∧
      scan backwards "src" (projectOf sourceEntries.reverse) =
        (.ok ["src/a/mod.rs", "src/a/old.rs/c.rs", "src/a.rs", "src/b.rs"],
          projectOf sourceEntries.reverse) := by
  have hproper := isProper_projectOf_sourceEntries
  have hroot : (projectOf sourceEntries).hasFolder "src" = true := by decide
  have hbackwards : backwards.IsFaithful :=
    ⟨fun _ _ ↦ rfl, fun _ _ _ ↦ ⟨_, rfl, List.reverse_perm _⟩⟩
  have hrelists : Tree.Relists (projectOf sourceEntries) (projectOf sourceEntries.reverse) :=
    .inside (.here (List.reverse_perm _).symm) [_] "src" []
  obtain ⟨paths, hscan, -⟩ := scan_finds_sources hproper hroot
  have hfirst := hscan Tree.access _ Tree.isFaithful_access .refl
  have hpaths : paths = ["src/a/mod.rs", "src/a/old.rs/c.rs", "src/a.rs", "src/b.rs"] := by
    -- sorting does not reduce, but the result is the only arrangement that increases
    have hsources : [["a", "mod.rs"], ["a", "old.rs", "c.rs"], ["a.rs"], ["b.rs"]] =
        sources ((projectOf sourceEntries).visits isScanned "src") :=
      eq_sources_of_perm (by decide) ((by decide : List.Perm _ _).trans (sources_perm _).symm)
    have hsame := hfirst.symm.trans (Tree.isFaithful_access.scan_eq hroot)
    rw [← hsources] at hsame
    exact Except.ok.inj (congrArg Prod.fst hsame)
  rw [← hpaths]
  exact ⟨hproper, hroot, hbackwards, hrelists, hfirst,
    hscan backwards _ hbackwards (.single hrelists)⟩

end ApiAtlas.Files

import ApiAtlas.Proofs.Coherence
import ApiAtlas.Proofs.CompanionText
import ApiAtlas.Proofs.FilePaths
import ApiAtlas.Proofs.FileTree

/-!
# Paths of companion files

The companion file of a union stands beside its source file, under a name that is made of the stem
of the source file and the name of the union in snake case. Both may hold underscores and different
names may have one spelling, so that two unions may share a path. Then the file that is written
second replaces the first one. This happens exactly if the names of the two unions are one in snake
case and they are declared in one file, or if the stem of one file goes on with what the name of the
other union begins with.
-/

namespace ApiAtlas

/-! ## The unions of a catalog -/

namespace Catalog

theorem perm_insertByName (d : Definition) (sorted : List Definition) :
    (insertByName d sorted).Perm (d :: sorted) := by
  induction sorted with
  | nil => exact List.Perm.refl _
  | cons e rest ih =>
    rw [insertByName]
    split
    · exact List.Perm.refl _
    · exact (List.Perm.cons e ih).trans (List.Perm.swap d e rest)

theorem perm_foldl_insertByName (types sorted : List Definition) :
    (types.foldl (fun sorted d ↦ insertByName d sorted) sorted).Perm (types ++ sorted) := by
  induction types generalizing sorted with
  | nil => exact List.Perm.refl _
  | cons d types ih =>
    calc
      List.Perm _ (types ++ insertByName d sorted) := ih (insertByName d sorted)
      List.Perm _ (types ++ d :: sorted) := (perm_insertByName d sorted).append_left types
      List.Perm _ (d :: types ++ sorted) := List.perm_middle

theorem perm_unions (c : Catalog) : c.unions.Perm (c.types.filter fun d ↦ d.kind == .union) := by
  have hperm := perm_foldl_insertByName (c.types.filter fun d ↦ d.kind == .union) []
  rwa [List.append_nil] at hperm

theorem mem_unions {c : Catalog} {d : Definition} :
    d ∈ c.unions ↔ d ∈ c.types ∧ d.kind = .union := by
  rw [c.perm_unions.mem_iff, List.mem_filter, beq_iff_eq]

/-- What holds of a catalog while definitions are added: they have distinct names and come from a
given list. -/
structure IsFrom (types : List Definition) (c : Catalog) : Prop where
  nodup : (c.types.map Definition.name).Nodup
  subset : c.types ⊆ types

theorem IsFrom.addType {types : List Definition} {c : Catalog} (h : c.IsFrom types)
    {d : Definition} (hd : d ∈ types) : (c.addType d).1.IsFrom types := by
  rw [Catalog.addType]
  cases hname : c.type? d.name with
  | some kept => exact h
  | none =>
    have hnew : d.name ∉ c.types.map Definition.name := by
      intro hmem
      obtain ⟨e, he, heq⟩ := List.mem_map.1 hmem
      have hother := List.find?_eq_none.1 hname e he
      simp [heq] at hother
    refine ⟨?_, List.append_subset.2 ⟨h.subset, by simpa using hd⟩⟩
    simp only [List.map_append, List.map_singleton]
    rw [← List.concat_eq_append, List.nodup_concat]
    exact ⟨hnew, h.nodup⟩

theorem types_addHandler (c : Catalog) (handler : Handler) :
    (c.addHandler handler).1.types = c.types := by
  rw [addHandler]
  split <;> rfl

/-- Definitions are registered once for each name. -/
theorem isFrom_addAll (types : List Definition) (handlers : List Handler) :
    (addAll {} types handlers).1.IsFrom types := by
  have hempty : IsFrom types {} := ⟨List.nodup_nil, List.nil_subset types⟩
  rw [addAll]
  apply List.foldlRecOn (motive := fun state : Catalog × List Notice ↦ state.1.IsFrom types)
  · apply List.foldlRecOn (motive := fun state : Catalog × List Notice ↦ state.1.IsFrom types)
    · exact hempty
    · intro state hstate d hd
      exact hstate.addType hd
  · intro state hstate handler _
    have hsame := state.1.types_addHandler handler
    exact ⟨hsame ▸ hstate.nodup, hsame ▸ hstate.subset⟩

theorem nodup_names_unions {types : List Definition} {c : Catalog} (h : c.IsFrom types) :
    (c.unions.map Definition.name).Nodup := by
  have hperm := c.perm_unions.map Definition.name
  rw [hperm.nodup_iff]
  exact h.nodup.sublist (List.filter_sublist.map Definition.name)

end Catalog

/-! ## Where definitions come from -/

namespace Extraction

open Source

theorem file_definition? {p : Place} {node : Node} {d : Definition}
    (h : definition? p node = some d) : d.origin.file = p.file := by
  unfold definition? at h
  split at h
  case h_1 attributes _ name fields =>
    cases h
    unfold ofStruct
    split <;> rfl
  case h_2 attributes _ name variants =>
    unfold ofEnum? at h
    split at h
    · cases h
      rfl
    · cases h
  case h_3 =>
    cases h
    rfl
  case h_4 => cases h

/-- A definition comes from a node, up to its methods and values. -/
theorem exists_of_mem_types {config : Config} {files : List SourceFile} {d : Definition}
    (h : d ∈ (ofFiles config files).types) :
    ∃ visit ∈ visited config files, ∃ base, definition? visit.1 visit.2 = some base ∧
      d.origin = base.origin ∧ d.kind = base.kind ∧ d.union = base.union := by
  rw [ofFiles, ofFound] at h
  revert d
  apply List.foldlRecOn (motive := fun types : List Definition ↦ ∀ {d}, d ∈ types →
    ∃ visit ∈ visited config files, ∃ base, definition? visit.1 visit.2 = some base ∧
      d.origin = base.origin ∧ d.kind = base.kind ∧ d.union = base.union)
  · intro d hd
    obtain ⟨base, hbase, rfl⟩ := List.mem_map.1 hd
    rw [definitions_eq] at hbase
    obtain ⟨visit, hvisit, hdefinition⟩ := List.mem_filterMap.1 hbase
    exact ⟨visit, hvisit, base, hdefinition, rfl, rfl, rfl⟩
  · intro types htypes constant _ d hd
    rcases mem_addConstant hd with hmem | ⟨other, hother, _, rfl⟩
    · exact htypes hmem
    · exact htypes (d := other) hother

/-- The catalog of some source files. -/
def catalogOf (config : Config) (files : List SourceFile) : Catalog :=
  (ofFiles config files).catalog.1

/-- The unions of the catalog of some files have distinct names, are found in these files, and each
has a companion file. -/
theorem unions_catalog (config : Config) (files : List SourceFile) :
    ((catalogOf config files).unions.map Definition.name).Nodup ∧
      ∀ d ∈ (catalogOf config files).unions,
        (∃ u, d.union = some u) ∧ ∃ file ∈ files, d.origin.file = file.path := by
  have hfrom := Catalog.isFrom_addAll (ofFiles config files).types (ofFiles config files).handlers
  refine ⟨Catalog.nodup_names_unions hfrom, fun d hd ↦ ?_⟩
  obtain ⟨hmem, hkind⟩ := Catalog.mem_unions.1 hd
  obtain ⟨visit, hvisit, base, hbase, horigin, hsame, hunion⟩ :=
    exists_of_mem_types (hfrom.subset hmem)
  obtain ⟨file, hfile, hnodes⟩ := List.mem_flatMap.1 hvisit
  obtain ⟨node, _, hnode⟩ := List.mem_flatMap.1 hnodes
  have hcoherent := (coherent_definition? hbase).union_iff.2 (hsame ▸ hkind)
  refine ⟨Option.isSome_iff_exists.1 (hunion ▸ hcoherent), file, hfile, ?_⟩
  rw [horigin, file_definition? hbase]
  exact congrArg Place.file (eq_of_mem_visits hnode)

end Extraction

namespace Accessors

open Naming ApiAtlas.Path Text Source.Lexer Extraction Run
open Files (Tree)
open Files.Tree (HasWay)
open Source (SourceFile)

/-! ## Shared paths -/

/-- The components of the folder of a file. -/
def folder (source : String) : List Component :=
  ((parent? source).map components).getD []

/-- The name of the companion file of a union. -/
def companionName (source owner : String) : String :=
  stem source ++ "_" ++ snake owner ++ "_accessors.rs"

theorem notMem_stem (source : String) : '/' ∉ (stem source).toList := by
  rw [stem]
  split
  case h_2 => decide
  case h_1 name hname =>
    have hchars := notMem_of_mem_components (List.mem_of_getLast? (getLast?_of_fileName? hname))
    rw [String.toList_ofList, splitName]
    intro hmem
    split at hmem
    · simp only [] at hmem
      split at hmem
      · exact hchars hmem
      · exact hchars (List.mem_of_mem_take hmem)
    · exact hchars hmem

theorem isFileName_companionName (source : String) {owner : String} (howner : IsNameText owner) :
    IsFileName (companionName source owner) := by
  have hsnake : '/' ∉ (snake owner).toList := (isNameText_snake howner).notMem (by decide)
  have hlength : 3 ≤ (companionName source owner).toList.length := by
    simp [companionName]
    omega
  refine ⟨?_, ?_, ?_⟩
  · simp [companionName, notMem_stem, hsnake]
  · cases hidle : isIdle (companionName source owner).toList with
    | false => rfl
    | true =>
      rcases Bool.or_eq_true_iff.1 hidle with hempty | hpoint
      · simp [beq_iff_eq.1 hempty] at hlength
      · simp [beq_iff_eq.1 hpoint] at hlength
  · intro hup
    simp [hup] at hlength

/-- A companion file is beside its source file. -/
theorem components_companionPath (source : String) {owner : String} (howner : IsNameText owner) :
    components (companionPath source owner) =
      folder source ++ [.name (companionName source owner)] := by
  have hfile := isFileName_companionName source howner
  rw [companionPath, folder]
  cases parent? source with
  | some parent => exact hfile.components_join parent
  | none => exact hfile.components_eq

theorem append_cons_eq_append_cons_iff {c : Char} {s t n m : List Char} :
    s ++ c :: n = t ++ c :: m ↔
      (s = t ∧ n = m) ∨ (∃ word, t = s ++ c :: word ∧ n = word ++ c :: m) ∨
        ∃ word, s = t ++ c :: word ∧ m = word ++ c :: n := by
  constructor
  · intro h
    rcases List.append_eq_append_iff.1 h with ⟨word, ht, hn⟩ | ⟨word, hs, hm⟩
    · cases word with
      | nil => exact Or.inl ⟨by simpa using ht.symm, by simpa using hn⟩
      | cons d word =>
        rw [List.cons_append, List.cons.injEq] at hn
        obtain ⟨rfl, hn⟩ := hn
        exact Or.inr (Or.inl ⟨word, ht, hn⟩)
    · cases word with
      | nil => exact Or.inl ⟨by simpa using hs, by simpa using hm.symm⟩
      | cons d word =>
        rw [List.cons_append, List.cons.injEq] at hm
        obtain ⟨rfl, hm⟩ := hm
        exact Or.inr (Or.inr ⟨word, hs, hm⟩)
  · rintro (⟨rfl, rfl⟩ | ⟨word, rfl, rfl⟩ | ⟨word, rfl, rfl⟩) <;> simp

/-- Where two texts with an underscore are the same, it may stand at different places in them. -/
theorem append_underscore_eq_iff {s t n m : String} :
    s ++ "_" ++ n = t ++ "_" ++ m ↔
      (s = t ∧ n = m) ∨ (∃ word, t = s ++ "_" ++ word ∧ n = word ++ "_" ++ m) ∨
        ∃ word, s = t ++ "_" ++ word ∧ m = word ++ "_" ++ n := by
  have hwords {p : List Char → Prop} : (∃ word, p word) ↔ ∃ word : String, p word.toList := by
    constructor
    · rintro ⟨word, hword⟩
      exact ⟨String.ofList word, by rwa [String.toList_ofList]⟩
    · rintro ⟨word, hword⟩
      exact ⟨word.toList, hword⟩
  have hchars := append_cons_eq_append_cons_iff (c := '_') (s := s.toList) (t := t.toList)
    (n := n.toList) (m := m.toList)
  rw [hwords, hwords] at hchars
  simpa [← String.toList_inj] using hchars

theorem companionName_eq_iff {source other d e : String} :
    companionName source d = companionName other e ↔
      (stem source = stem other ∧ snake d = snake e) ∨
        (∃ word, stem other = stem source ++ "_" ++ word ∧ snake d = word ++ "_" ++ snake e) ∨
          ∃ word, stem source = stem other ++ "_" ++ word ∧ snake e = word ++ "_" ++ snake d := by
  rw [companionName, companionName, String.append_left_inj, append_underscore_eq_iff]

/-- The path of a source file: its last component is a name with the extension of source files. -/
def IsSourcePath (path : String) : Prop :=
  (fileName? path).bind extension? = some "rs"

instance (path : String) : Decidable (IsSourcePath path) :=
  inferInstanceAs (Decidable (_ = _))

/-- The folder and the stem of a source file give its path. -/
theorem IsSourcePath.components_eq {path : String} (h : IsSourcePath path) :
    components path = folder path ++ [.name (stem path ++ "." ++ "rs")] := by
  obtain ⟨name, hname, hending⟩ := Option.bind_eq_some_iff.1 h
  obtain ⟨parent, hparent, hcomponents⟩ := components_parent? hname
  rw [hcomponents, folder, hparent, eq_stem_append hname hending, Option.map_some, Option.getD_some]

theorem IsSourcePath.components_eq_iff {path other : String} (hpath : IsSourcePath path)
    (hother : IsSourcePath other) :
    components path = components other ↔ folder path = folder other ∧ stem path = stem other := by
  rw [hpath.components_eq, hother.components_eq, ← List.concat_eq_append, ← List.concat_eq_append,
    List.concat_inj, Component.name.injEq, String.append_left_inj, String.append_left_inj]

/-- What makes two unions share a companion file: they are declared in one file and have one name in
snake case, or they are declared in one folder and the stem of the second file goes on with a word
that the name of the first union begins with. -/
def Clash (d e : Definition) : Prop :=
  (d.origin.file = e.origin.file ∧ snake d.name = snake e.name) ∨
    folder d.origin.file = folder e.origin.file ∧
      ∃ word, stem e.origin.file = stem d.origin.file ++ "_" ++ word ∧
        snake d.name = word ++ "_" ++ snake e.name

/-- Unions of different names do not clash. -/
def KeepApart (unions : List Definition) : Prop :=
  ∀ d ∈ unions, ∀ e ∈ unions, d.name ≠ e.name → ¬ Clash d e

theorem components_companionPath_eq_iff {d e : Definition} (hd : IsNameText d.name)
    (he : IsNameText e.name)
    (hfile : d.origin.file = e.origin.file ↔
      folder d.origin.file = folder e.origin.file ∧ stem d.origin.file = stem e.origin.file) :
    components (companionPath d.origin.file d.name) =
        components (companionPath e.origin.file e.name) ↔
      Clash d e ∨ Clash e d := by
  rw [components_companionPath _ hd, components_companionPath _ he, ← List.concat_eq_append,
    ← List.concat_eq_append, List.concat_inj, Component.name.injEq, companionName_eq_iff]
  -- The three ways to the same name share the condition on the folder.
  grind [Clash]

/-! ## Companion files of a catalog -/

/-- The companion file of a union. -/
def companionOf (d : Definition) : Companion :=
  ⟨companionPath d.origin.file d.name, d.name,
    contents d.name (alternatives ((d.union.map Union.alternatives).getD []))⟩

theorem all_eq_map {c : Catalog} (h : ∀ d ∈ c.unions, ∃ u, d.union = some u) :
    all c = c.unions.map companionOf := by
  rw [all, ← List.filterMap_eq_map]
  apply List.filterMap_congr
  intro d hd
  obtain ⟨u, hu⟩ := h d hd
  simp [companion?, companionOf, hu]

section

variable {unions : List Definition} (hnodup : (unions.map Definition.name).Nodup)
  (hnames : ∀ d ∈ unions, IsNameText d.name)

include hnodup

theorem nodup_map_companionOf {α : Type} (f : Companion → α) :
    ((unions.map companionOf).map f).Nodup ↔
      ∀ d ∈ unions, ∀ e ∈ unions, d.name ≠ e.name → f (companionOf d) ≠ f (companionOf e) := by
  rw [List.map_map, List.nodup_map_iff_inj_on hnodup.of_map]
  constructor
  · intro hinj d hd e he hne hsame
    exact hne (congrArg Definition.name (hinj d hd e he hsame))
  · intro hapart d hd e he hsame
    by_contra hne
    have hname : d.name ≠ e.name := fun heq ↦ hne (List.inj_on_of_nodup_map hnodup hd he heq)
    exact hapart d hd e he hname hsame

include hnames

/-- Companion files have different paths exactly if their unions do not clash. -/
theorem nodup_companionPaths_iff
    (hfiles : ∀ d ∈ unions, ∀ e ∈ unions, d.origin.file = e.origin.file ↔
      folder d.origin.file = folder e.origin.file ∧ stem d.origin.file = stem e.origin.file) :
    ((unions.map companionOf).map fun file ↦ components file.path).Nodup ↔ KeepApart unions := by
  rw [nodup_map_companionOf hnodup]
  have hpath {d e : Definition} (hd : d ∈ unions) (he : e ∈ unions) :=
    components_companionPath_eq_iff (hnames d hd) (hnames e he) (hfiles d hd e he)
  constructor
  · intro hne d hd e he hname hclash
    exact hne d hd e he hname ((hpath hd he).2 (Or.inl hclash))
  · intro hapart d hd e he hname hsame
    rcases (hpath hd he).1 hsame with hclash | hclash
    · exact hapart d hd e he hname hclash
    · exact hapart e he d hd hname.symm hclash

theorem nodup_companionContents : ((unions.map companionOf).map Companion.contents).Nodup := by
  rw [nodup_map_companionOf hnodup]
  intro d hd e he hname hsame
  exact hname (eq_of_contents_eq (hnames d hd) (hnames e he) hsame)

end

/-! ## Writing companion files -/

theorem namesFolder_companionPath (source : String) {owner : String} (howner : IsNameText owner) :
    Tree.namesFolder (companionPath source owner) = false := by
  have hfile := isFileName_companionName source howner
  rw [companionPath]
  cases parent? source with
  | some parent => exact hfile.namesFolder_join parent
  | none => exact hfile.namesFolder_eq

theorem names_of_hasWay {path : String} {way : List String} (h : HasWay path way) :
    names (components path) = way := by
  rw [h, names, List.filterMap_map]
  exact List.filterMap_some

/-- A companion file can be written where its source file is, unless its path leads to a folder. -/
theorem isWritable_companionPath {t : Tree} {source owner : String} (howner : IsNameText owner)
    (hsource : IsSourcePath source) {way : List String} (hway : HasWay source way)
    (hfile : t.hasFile source = true) (hfree : t.hasFolder (companionPath source owner) = false) :
    Tree.IsWritable t (companionPath source owner)
      (names (components (companionPath source owner))) := by
  have hcomponents := hsource.components_eq
  have hne : way ≠ [] := by
    intro hempty
    rw [HasWay, hempty, hcomponents] at hway
    exact List.concat_ne_nil _ _ hway
  have hfolder : folder source = way.dropLast.map .name := by
    rw [List.map_dropLast, ← hway, hcomponents, List.dropLast_concat]
  have hplace : HasWay (companionPath source owner)
      (way.dropLast ++ [companionName source owner]) := by
    rw [HasWay, components_companionPath source howner, hfolder, List.map_append,
      List.map_singleton]
  have hnotEmpty := List.concat_ne_nil (companionName source owner) way.dropLast
  rw [names_of_hasWay hplace]
  refine ⟨hplace, hnotEmpty, namesFolder_companionPath source howner, ?_, ?_⟩
  · rw [List.dropLast_concat]
    exact Tree.hasFolder_of_hasFile hway hne hfile
  · intro hblocked
    rw [(Tree.hasFolder_iff hplace hnotEmpty).2 hblocked] at hfree
    exact Bool.noConfusion hfree

/-- Companion files keep their text while all of them are written exactly if their paths differ. -/
theorem read_companions_iff {unions : List Definition}
    (hnodup : (unions.map Definition.name).Nodup) (hnames : ∀ d ∈ unions, IsNameText d.name)
    {t : Tree} (hfiles : ∀ d ∈ unions, IsSourcePath d.origin.file ∧
      (∃ way, HasWay d.origin.file way) ∧ t.hasFile d.origin.file = true)
    (hfree : ∀ d ∈ unions, t.hasFolder (companionPath d.origin.file d.name) = false) :
    ∃ result last,
      collect (writeCompanion Tree.access) (unions.map companionOf) t = (.ok result, last) ∧
        ((∀ file ∈ unions.map companionOf, last.read file.path = .ok file.contents) ↔
          ((unions.map companionOf).map fun file ↦ components file.path).Nodup) := by
  have hwritable : ∀ file ∈ unions.map companionOf,
      Tree.IsWritable t file.path (names (components file.path)) := by
    intro file hfile
    obtain ⟨d, hd, rfl⟩ := List.mem_map.1 hfile
    obtain ⟨hsource, ⟨way, hway⟩, hthere⟩ := hfiles d hd
    exact isWritable_companionPath (hnames d hd) hsource hway hthere (hfree d hd)
  have hsame : ((unions.map companionOf).map fun file ↦ components file.path) =
      ((unions.map companionOf).map fun file ↦ names (components file.path)).map
        (List.map Component.name) := by
    rw [List.map_map (l := unions.map companionOf)]
    exact List.map_congr_left fun file hfile ↦ (hwritable file hfile).hasWay
  rw [hsame, List.nodup_map_iff (List.map_injective_iff.2 fun _ _ ↦ Component.name.inj)]
  exact read_of_collect_iff hwritable (nodup_companionContents hnodup hnames)

/-- Every union of the source files has a companion file. The paths of these files differ exactly if
no two unions clash. In a tree with the source files the companion files can be written, unless
there are folders in their places, and then all of them can be read exactly if no two unions
clash. -/
theorem companions_kept_iff (config : Config) (files : List SourceFile)
    (hpaths : (files.map fun file ↦ components file.path).Nodup)
    (hsources : ∀ file ∈ files, IsSourcePath file.path)
    (hnames : ∀ d ∈ (catalogOf config files).unions, IsIdentifier d.name) :
    (all (catalogOf config files)).map Companion.name =
        (catalogOf config files).unions.map Definition.name ∧
      (((all (catalogOf config files)).map fun file ↦ components file.path).Nodup ↔
        KeepApart (catalogOf config files).unions) ∧
      ∀ t : Tree,
        (∀ file ∈ files, (∃ way, HasWay file.path way) ∧ t.hasFile file.path = true) →
        (∀ file ∈ all (catalogOf config files), t.hasFolder file.path = false) →
        ∃ result last,
          collect (writeCompanion Tree.access) (all (catalogOf config files)) t =
            (.ok result, last) ∧
          ((∀ file ∈ all (catalogOf config files), last.read file.path = .ok file.contents) ↔
            KeepApart (catalogOf config files).unions) := by
  obtain ⟨hnodup, hunions⟩ := unions_catalog config files
  have htexts : ∀ d ∈ (catalogOf config files).unions, IsNameText d.name :=
    fun d hd ↦ (hnames d hd).isNameText
  have hfiles : ∀ d ∈ (catalogOf config files).unions, ∀ e ∈ (catalogOf config files).unions,
      d.origin.file = e.origin.file ↔
        folder d.origin.file = folder e.origin.file ∧
          stem d.origin.file = stem e.origin.file := by
    intro d hd e he
    obtain ⟨file, hfile, hdfile⟩ := (hunions d hd).2
    obtain ⟨other, hother, hefile⟩ := (hunions e he).2
    rw [hdfile, hefile, ← (hsources file hfile).components_eq_iff (hsources other hother)]
    constructor
    · exact congrArg components
    · intro hsame
      exact congrArg SourceFile.path (List.inj_on_of_nodup_map hpaths hfile hother hsame)
  have hiff := nodup_companionPaths_iff hnodup htexts hfiles
  rw [all_eq_map fun d hd ↦ (hunions d hd).1]
  refine ⟨by rw [List.map_map]; rfl, hiff, ?_⟩
  intro t hthere hfree
  rw [← hiff]
  refine read_companions_iff hnodup htexts (fun d hd ↦ ?_) fun d hd ↦
    hfree (companionOf d) (List.mem_map_of_mem hd)
  obtain ⟨file, hfile, hdfile⟩ := (hunions d hd).2
  rw [hdfile]
  exact ⟨hsources file hfile, hthere file hfile⟩

/-- A union of two types. -/
def cardUnion : Source.Ty :=
  .path none [.angle "OneOf2"
    [.type (.path none [.plain "Debit"]), .type (.path none [.plain "Credit"])]]

/-- Two source files with an alias of a union each. -/
def twoFiles (first second : String) : List SourceFile :=
  [⟨"src/a.rs", "a", [], [.typeAlias [] [] ⟨first, 1⟩ cardUnion]⟩,
    ⟨"src/a_bank.rs", "a_bank", [], [.typeAlias [] [] ⟨second, 1⟩ cardUnion]⟩]

/-- A tree with the two files. -/
def twoFilesTree : Tree :=
  .folder [("src", .folder [("a.rs", .file .binary), ("a_bank.rs", .file .binary)])]

theorem ofFiles_twoFiles (first second : String) :
    ofFiles {} (twoFiles first second) =
      ⟨[ofAlias ⟨"src/a.rs", "a", "api", "OneOf"⟩ [] ⟨first, 1⟩ cardUnion,
        ofAlias ⟨"src/a_bank.rs", "a_bank", "api", "OneOf"⟩ [] ⟨second, 1⟩ cardUnion], []⟩ := by
  have hfound : (twoFiles first second).flatMap (searchFile {}) =
      [.type (ofAlias ⟨"src/a.rs", "a", "api", "OneOf"⟩ [] ⟨first, 1⟩ cardUnion),
        .type (ofAlias ⟨"src/a_bank.rs", "a_bank", "api", "OneOf"⟩ [] ⟨second, 1⟩ cardUnion)] := by
    simp [twoFiles, searchFile, search]
  rw [ofFiles, hfound]
  rfl

theorem forall_mem_twoFiles {p : String → Prop} (first second : String)
    (h : ∀ path ∈ ["src/a.rs", "src/a_bank.rs"], p path) :
    ∀ file ∈ twoFiles first second, p file.path :=
  fun _ hfile ↦ h _ (List.mem_map_of_mem (f := SourceFile.path) hfile)

/-- The unions `Bank` and `Card` do not clash, although one stem goes on from the other one. -/
theorem companions_of_bank_and_card :
    (all (catalogOf {} (twoFiles "Bank" "Card"))).map Companion.path =
        ["src/a_bank_accessors.rs", "src/a_bank_card_accessors.rs"] ∧
      KeepApart (catalogOf {} (twoFiles "Bank" "Card")).unions ∧
      ∃ result last,
        collect (writeCompanion Tree.access) (all (catalogOf {} (twoFiles "Bank" "Card")))
            twoFilesTree = (.ok result, last) ∧
          ∀ file ∈ all (catalogOf {} (twoFiles "Bank" "Card")),
            last.read file.path = .ok file.contents := by
  have hnames : (catalogOf {} (twoFiles "Bank" "Card")).unions.map Definition.name =
      ["Bank", "Card"] := by
    rw [catalogOf, ofFiles_twoFiles]
    decide
  have hall : (all (catalogOf {} (twoFiles "Bank" "Card"))).map Companion.path =
      ["src/a_bank_accessors.rs", "src/a_bank_card_accessors.rs"] := by
    rw [catalogOf, ofFiles_twoFiles]
    decide
  have hidentifiers : ∀ name ∈ ["Bank", "Card"], IsIdentifier name := by decide
  obtain ⟨_, hiff, hwritten⟩ := companions_kept_iff {} (twoFiles "Bank" "Card") (by decide)
    (forall_mem_twoFiles "Bank" "Card" (by decide))
    fun d hd ↦ hidentifiers d.name (hnames ▸ List.mem_map_of_mem hd)
  have hapart : KeepApart (catalogOf {} (twoFiles "Bank" "Card")).unions := by
    have hmap := congrArg (List.map components) hall
    rw [List.map_map] at hmap
    exact hiff.1 (hmap ▸ by decide)
  have hthere : ∀ path ∈ ["src/a.rs", "src/a_bank.rs"],
      HasWay path (names (components path)) ∧ twoFilesTree.hasFile path = true := by decide
  have hfree : ∀ path ∈ ["src/a_bank_accessors.rs", "src/a_bank_card_accessors.rs"],
      twoFilesTree.hasFolder path = false := by decide
  obtain ⟨result, last, hcollect, hread⟩ := hwritten twoFilesTree
    (fun file hfile ↦ (forall_mem_twoFiles "Bank" "Card" hthere file hfile).imp_left fun hway ↦
      ⟨_, hway⟩)
    fun file hfile ↦ hfree file.path (hall ▸ List.mem_map_of_mem hfile)
  exact ⟨hall, hapart, result, last, hcollect, hread.2 hapart⟩

/-- The unions `BankCard` and `Card` clash: the companion file of one takes the place of the
other. -/
theorem companions_share_path :
    ((twoFiles "BankCard" "Card").map fun file ↦ components file.path).Nodup ∧
      (∀ file ∈ twoFiles "BankCard" "Card", IsSourcePath file.path) ∧
      (catalogOf {} (twoFiles "BankCard" "Card")).unions.map Definition.name =
        ["BankCard", "Card"] ∧
      (all (catalogOf {} (twoFiles "BankCard" "Card"))).map Companion.path =
        ["src/a_bank_card_accessors.rs", "src/a_bank_card_accessors.rs"] := by
  refine ⟨by decide, forall_mem_twoFiles "BankCard" "Card" (by decide), ?_, ?_⟩
  · rw [catalogOf, ofFiles_twoFiles]
    decide
  · rw [catalogOf, ofFiles_twoFiles]
    decide

end Accessors

end ApiAtlas

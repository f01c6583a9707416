import ApiAtlas.Files.Tree
import ApiAtlas.Proofs.NameCharacters
import ApiAtlas.Proofs.Splitting

/-!
# Components of paths

Two paths are the same if they have the same components, however they are spelled. Joining a path
with a file name adds one component, and the parent of a file has all components but the last. So
the path of a file is known from its folder, its stem and its extension.
-/

namespace ApiAtlas.Path

open Text

/-! ## Starts and pieces -/

/-- The components of the pieces of a path after its start. -/
def relative (pieces : List (List Char)) : List Component :=
  (pieces.filter fun piece ↦ !isIdle piece).map componentOf

@[simp]
theorem relative_append (front back : List (List Char)) :
    relative (front ++ back) = relative front ++ relative back := by
  simp [relative]

theorem relative_of_forall_isIdle {pieces : List (List Char)}
    (h : ∀ piece ∈ pieces, isIdle piece = true) : relative pieces = [] := by
  simpa [relative] using h

theorem components_eq (path : String) :
    components path = (parts path).1.toList ++ relative (parts path).2 :=
  rfl

/-- A text that begins neither with a slash nor with a point that stands alone. -/
def IsPlainStart (cs : List Char) : Prop :=
  (∀ rest, cs ≠ '/' :: rest) ∧ cs ≠ ['.'] ∧ ∀ rest, cs ≠ '.' :: '/' :: rest

theorem parts_root {path : String} {rest : List Char} (h : path.toList = '/' :: rest) :
    parts path = (some .root, splitOn '/' rest) := by
  rw [parts, h]
  rfl

theorem parts_current {path : String} (h : path.toList = ['.']) :
    parts path = (some .current, []) := by
  rw [parts, h]
  rfl

theorem parts_below {path : String} {rest : List Char} (h : path.toList = '.' :: '/' :: rest) :
    parts path = (some .current, splitOn '/' ('/' :: rest)) := by
  rw [parts, h]
  rfl

theorem parts_plain {path : String} (h : IsPlainStart path.toList) :
    parts path = (none, splitOn '/' path.toList) := by
  rw [parts]
  split
  case h_1 rest hroot => exact absurd hroot (h.1 rest)
  case h_2 hpoint => exact absurd hpoint h.2.1
  case h_3 rest hbelow => exact absurd hbelow (h.2.2 rest)
  case h_4 => rfl

theorem start_cases (cs : List Char) :
    (∃ rest, cs = '/' :: rest) ∨ cs = ['.'] ∨ (∃ rest, cs = '.' :: '/' :: rest) ∨
      IsPlainStart cs := by
  by_cases hroot : ∃ rest, cs = '/' :: rest
  · exact Or.inl hroot
  by_cases hpoint : cs = ['.']
  · exact Or.inr (Or.inl hpoint)
  by_cases hbelow : ∃ rest, cs = '.' :: '/' :: rest
  · exact Or.inr (Or.inr (Or.inl hbelow))
  · exact Or.inr (Or.inr (Or.inr ⟨not_exists.1 hroot, hpoint, not_exists.1 hbelow⟩))

theorem isPlainStart_append_slash {cs : List Char} (h : IsPlainStart cs) (hne : cs ≠ [])
    (rest : List Char) : IsPlainStart (cs ++ '/' :: rest) := by
  obtain ⟨hroot, hpoint, hbelow⟩ := h
  match cs, hne with
  | [c], _ => simp_all [IsPlainStart]
  | c :: d :: more, _ => simp_all [IsPlainStart]

/-! ## Joining -/

/-- A path goes on after a slash, up to pieces that count for nothing. -/
theorem parts_append_slash {front : String} (hfront : front ≠ "") (rest : String) :
    ∃ pieces, parts (front ++ "/" ++ rest) =
        ((parts front).1, pieces ++ splitOn '/' rest.toList) ∧
      relative pieces = relative (parts front).2 := by
  have hne : front.toList ≠ [] := by simpa using hfront
  have hchars : (front ++ "/" ++ rest).toList = front.toList ++ '/' :: rest.toList := by simp
  have hsplit (cs : List Char) : splitOn '/' (cs ++ '/' :: rest.toList) =
      splitOn '/' cs ++ splitOn '/' rest.toList := by
    simp only [splitOn_eq_splitOn, List.splitOn_append_cons_self]
  rcases start_cases front.toList with ⟨more, hmore⟩ | hpoint | ⟨more, hmore⟩ | hplain
  · rw [hmore, List.cons_append] at hchars
    rw [parts_root hchars, parts_root hmore, hsplit]
    exact ⟨splitOn '/' more, rfl, rfl⟩
  · rw [hpoint, List.singleton_append] at hchars
    rw [parts_below hchars, parts_current hpoint, ← List.nil_append ('/' :: rest.toList), hsplit]
    exact ⟨splitOn '/' [], rfl, rfl⟩
  · rw [hmore, List.cons_append, List.cons_append] at hchars
    rw [parts_below hchars, parts_below hmore, ← List.cons_append, hsplit]
    exact ⟨splitOn '/' ('/' :: more), rfl, rfl⟩
  · rw [parts_plain (hchars ▸ isPlainStart_append_slash hplain hne rest.toList),
      parts_plain hplain, hchars, hsplit]
    exact ⟨splitOn '/' front.toList, rfl, rfl⟩

theorem components_append_slash {front : String} (hfront : front ≠ "") (rest : String) :
    components (front ++ "/" ++ rest) = components front ++ relative (splitOn '/' rest.toList) := by
  obtain ⟨pieces, hpieces, hsame⟩ := parts_append_slash hfront rest
  rw [components_eq, components_eq, hpieces, relative_append, hsame, List.append_assoc]

/-- A text that names a file in a folder. -/
structure IsFileName (name : String) : Prop where
  notMem : '/' ∉ name.toList
  isIdle_eq : isIdle name.toList = false
  ne_up : name ≠ ".."

instance (name : String) : Decidable (IsFileName name) :=
  decidable_of_iff ('/' ∉ name.toList ∧ isIdle name.toList = false ∧ name ≠ "..")
    ⟨fun ⟨hslash, hidle, hup⟩ ↦ ⟨hslash, hidle, hup⟩, fun h ↦ ⟨h.notMem, h.isIdle_eq, h.ne_up⟩⟩

namespace IsFileName

variable {name : String}

theorem relative_singleton (h : IsFileName name) : relative [name.toList] = [.name name] := by
  have hup : name.toList ≠ ['.', '.'] := by
    intro hchars
    exact h.ne_up (String.toList_inj.1 hchars)
  simp [relative, h.isIdle_eq, componentOf, hup]

theorem splitOn_eq (h : IsFileName name) : splitOn '/' name.toList = [name.toList] := by
  rw [splitOn_eq_splitOn, List.splitOn_eq_singleton h.notMem]

theorem parts_eq (h : IsFileName name) : parts name = (none, [name.toList]) := by
  have hplain : IsPlainStart name.toList := by
    have hidle := h.isIdle_eq
    have hslash := h.notMem
    refine ⟨?_, ?_, ?_⟩
    · intro rest hroot
      simp [hroot] at hslash
    · intro hpoint
      simp [hpoint, isIdle] at hidle
    · intro rest hbelow
      simp [hbelow] at hslash
  rw [parts_plain hplain, h.splitOn_eq]

/-- Joining a path with a file name adds it to the pieces. -/
theorem parts_join (h : IsFileName name) (path : String) :
    ∃ pieces, parts (join path name) = ((parts path).1, pieces ++ [name.toList]) ∧
      relative pieces = relative (parts path).2 := by
  by_cases hempty : path = ""
  · rw [hempty]
    exact ⟨[], (congrArg parts String.empty_append).trans h.parts_eq, rfl⟩
  rw [join]
  split
  case isTrue hlast =>
    have hslash : path.toList.getLast? = some '/' := by simpa [hempty] using hlast
    obtain ⟨front, hfront⟩ := List.getLast?_eq_some_iff.1 hslash
    have hpath : path = String.ofList front ++ "/" := by
      rw [← String.toList_inj, hfront]
      simp
    by_cases hroot : String.ofList front = ""
    · have hchars : (path ++ name).toList = '/' :: name.toList := by simp [hpath, hroot]
      rw [parts_root hchars, h.splitOn_eq, hpath, hroot]
      exact ⟨[], rfl, rfl⟩
    · obtain ⟨before, hbefore, hsame⟩ := parts_append_slash hroot ""
      obtain ⟨pieces, hpieces, hrelative⟩ := parts_append_slash hroot name
      rw [String.append_empty] at hbefore
      rw [h.splitOn_eq] at hpieces
      rw [hpath, hbefore, hpieces]
      refine ⟨pieces, rfl, ?_⟩
      rw [hrelative, relative_append, hsame]
      exact (List.append_nil _).symm
  case isFalse =>
    obtain ⟨pieces, hpieces, hrelative⟩ := parts_append_slash hempty name
    exact ⟨pieces, by rw [hpieces, h.splitOn_eq], hrelative⟩

theorem components_eq (h : IsFileName name) : components name = [.name name] := by
  rw [Path.components_eq, h.parts_eq, h.relative_singleton]
  rfl

/-- Joining a path with a file name adds it to the components. -/
theorem components_join (h : IsFileName name) (path : String) :
    components (join path name) = components path ++ [.name name] := by
  obtain ⟨pieces, hpieces, hsame⟩ := h.parts_join path
  rw [Path.components_eq, Path.components_eq, hpieces, relative_append, h.relative_singleton, hsame,
    List.append_assoc]

/-- A path whose last piece is a file name does not ask for a folder. -/
theorem namesFolder_of_parts (h : IsFileName name) {path : String} {pieces : List (List Char)}
    (hpieces : (parts path).2 = pieces ++ [name.toList]) :
    Files.Tree.namesFolder path = false := by
  rw [Files.Tree.namesFolder, hpieces, List.getLast?_concat, Option.map_some, Option.getD_some,
    h.isIdle_eq]

theorem namesFolder_eq (h : IsFileName name) : Files.Tree.namesFolder name = false := by
  have hpieces : (parts name).2 = [] ++ [name.toList] := congrArg Prod.snd h.parts_eq
  exact h.namesFolder_of_parts hpieces

theorem namesFolder_join (h : IsFileName name) (path : String) :
    Files.Tree.namesFolder (join path name) = false := by
  obtain ⟨pieces, hpieces, -⟩ := h.parts_join path
  exact h.namesFolder_of_parts (congrArg Prod.snd hpieces)

end IsFileName

/-! ## Parents -/

theorem exists_idle_of_dropEndWhile (pieces : List (List Char)) :
    ∃ idle, pieces = dropEndWhile isIdle pieces ++ idle ∧ relative idle = [] := by
  refine ⟨pieces.rtakeWhile isIdle, ?_, ?_⟩
  · rw [dropEndWhile_eq_rdropWhile, List.rdropWhile_append_rtakeWhile]
  · exact relative_of_forall_isIdle fun _ hpiece ↦ List.mem_rtakeWhile_imp hpiece

theorem joinWith_append {front back : List (List Char)} (hfront : front ≠ []) (hback : back ≠ []) :
    joinWith ['/'] (front ++ back) = joinWith ['/'] front ++ '/' :: joinWith ['/'] back := by
  induction front with
  | nil => exact absurd rfl hfront
  | cons piece front ih =>
    cases front with
    | nil => simp [joinWith, List.intercalate_cons_of_ne_nil hback]
    | cons second front =>
      have hrest := ih (by simp)
      simp only [joinWith, List.cons_append, List.intercalate_cons_cons, List.append_assoc]
        at hrest ⊢
      rw [hrest]

theorem joinWith_splitOn (cs : List Char) : joinWith ['/'] (splitOn '/' cs) = cs := by
  rw [joinWith, splitOn_eq_splitOn, List.intercalate_splitOn]

/-- A path with pieces is spelled by its start and its pieces. -/
structure IsSpelled (path : String) : Prop where
  chars : path.toList = (startText (parts path).1).toList ++ joinWith ['/'] (parts path).2
  notMem : ∀ piece ∈ (parts path).2, '/' ∉ piece
  start : components (startText (parts path).1) = (parts path).1.toList
  plain : startText (parts path).1 = "" → IsPlainStart path.toList

theorem isSpelled {path : String} (hpieces : (parts path).2 ≠ []) : IsSpelled path := by
  have hslash (cs : List Char) : ∀ piece ∈ splitOn '/' cs, '/' ∉ piece :=
    fun piece hpiece hmem ↦ (of_mem_splitOn hpiece hmem).2 rfl
  rcases start_cases path.toList with ⟨more, hmore⟩ | hpoint | ⟨more, hmore⟩ | hplain
  · have hroot : components "/" = [.root] := by decide
    constructor <;> rw [parts_root hmore]
    · simp [hmore, joinWith_splitOn, startText]
    · exact hslash more
    · exact hroot
    · simp [startText]
  · rw [parts_current hpoint] at hpieces
    exact absurd rfl hpieces
  · have hcurrent : components "." = [.current] := by decide
    constructor <;> rw [parts_below hmore]
    · simp [hmore, joinWith_splitOn, startText]
    · exact hslash _
    · exact hcurrent
    · simp [startText]
  · constructor <;> rw [parts_plain hplain]
    · simp [joinWith_splitOn, startText]
    · exact hslash _
    · rfl
    · exact fun _ ↦ hplain

/-- The first pieces of a path are a path of their own, which the others go on. -/
theorem components_of_pieces {path : String} {front back : List (List Char)}
    (hpieces : (parts path).2 = front ++ back) (hback : back ≠ []) :
    components path =
      components (startText (parts path).1 ++ String.ofList (joinWith ['/'] front)) ++
        relative back := by
  have hspelled : IsSpelled path := isSpelled (by simp [hpieces, hback])
  have hchars := hspelled.chars
  have hslash := hspelled.notMem
  rw [hpieces] at hchars hslash
  by_cases hfront : front = []
  · rw [hfront] at hpieces
    rw [components_eq, hpieces, hfront, List.nil_append]
    exact congrArg (· ++ relative back)
      (((congrArg components String.append_empty).trans hspelled.start).symm)
  · have hpath : path = startText (parts path).1 ++ String.ofList (joinWith ['/'] front) ++ "/" ++
        String.ofList (joinWith ['/'] back) := by
      rw [← String.toList_inj, hchars, joinWith_append hfront hback]
      simp
    have hne : startText (parts path).1 ++ String.ofList (joinWith ['/'] front) ≠ "" := by
      intro hempty
      rw [hempty, String.empty_append] at hpath
      have hstart : startText (parts path).1 = "" := by
        have hboth := String.append_eq_empty_iff.1 hempty
        exact hboth.1
      exact (hspelled.plain hstart).1 (joinWith ['/'] back) (by rw [hpath]; simp)
    conv_lhs => rw [hpath]
    rw [components_append_slash hne, String.toList_ofList,
      splitOn_joinWith hback fun piece hpiece ↦ hslash piece (List.mem_append_right front hpiece)]

theorem start_ne_name (path name : String) : (parts path).1 ≠ some (.name name) := by
  rcases start_cases path.toList with ⟨more, hmore⟩ | hpoint | ⟨more, hmore⟩ | hplain
  · simp [parts_root hmore]
  · simp [parts_current hpoint]
  · simp [parts_below hmore]
  · simp [parts_plain hplain]

/-- No slash is inside a component. -/
theorem notMem_of_mem_components {path name : String} (h : .name name ∈ components path) :
    '/' ∉ name.toList := by
  rcases List.mem_append.1 h with hstart | hpiece
  · exact absurd (Option.mem_toList.1 hstart) (start_ne_name path name)
  · obtain ⟨piece, hpiece, hname⟩ := List.mem_map.1 hpiece
    have hmem := (List.mem_filter.1 hpiece).1
    have hslash := (isSpelled (List.ne_nil_of_mem hmem)).notMem piece hmem
    rw [componentOf] at hname
    split at hname
    · cases hname
    · cases hname
      rwa [String.toList_ofList]

theorem getLast?_of_fileName? {path name : String} (h : fileName? path = some name) :
    (components path).getLast? = some (.name name) := by
  rw [fileName?] at h
  split at h
  · simp_all
  · simp at h

/-- The parent of a file has all its components but the last. -/
theorem components_parent? {path name : String} (h : fileName? path = some name) :
    ∃ parent, parent? path = some parent ∧ components path = components parent ++ [.name name] := by
  have hname := getLast?_of_fileName? h
  obtain ⟨idle, hidle, hnothing⟩ := exists_idle_of_dropEndWhile (parts path).2
  cases hkept : dropEndWhile isIdle (parts path).2 with
  | nil =>
    rw [hkept, List.nil_append] at hidle
    rw [components_eq, hidle, hnothing, List.append_nil] at hname
    have hstart := Option.mem_toList.1 (List.mem_of_getLast? hname)
    exact absurd hstart (start_ne_name path name)
  | cons first others =>
    have hne : first :: others ≠ [] := List.cons_ne_nil first others
    obtain ⟨between, hbetween, hskipped⟩ := exists_idle_of_dropEndWhile (first :: others).dropLast
    have hlast : isIdle ((first :: others).getLast hne) = false := by
      have hstop := List.rdropWhile_last_not isIdle (parts path).2
      rw [← dropEndWhile_eq_rdropWhile] at hstop
      simp only [hkept] at hstop
      simpa using hstop hne
    have hpieces : (parts path).2 = dropEndWhile isIdle (first :: others).dropLast ++
        (between ++ (first :: others).getLast hne :: idle) := by
      rw [hidle, hkept]
      conv_lhs => rw [← List.dropLast_append_getLast hne, hbetween]
      simp
    have hrelative : relative (between ++ (first :: others).getLast hne :: idle) =
        [componentOf ((first :: others).getLast hne)] := by
      rw [relative_append, hskipped, List.nil_append, ← List.singleton_append, relative_append,
        hnothing, List.append_nil]
      simp [relative, hlast]
    have hcomponents := components_of_pieces hpieces (by simp)
    rw [hrelative] at hcomponents
    have hparent : parent? path = some (startText (parts path).1 ++
        String.ofList (joinWith ['/'] (dropEndWhile isIdle (first :: others).dropLast))) := by
      simp only [parent?, hkept]
    refine ⟨_, hparent, ?_⟩
    rw [hcomponents, List.getLast?_concat, Option.some_inj] at hname
    rw [hcomponents, hname]

theorem splitName_append_point (before : List Char) {ending : List Char} (h : '.' ∉ ending) :
    splitName (before ++ '.' :: ending) =
      if before = [] then (before ++ '.' :: ending, none) else (before, some ending) := by
  have hreverse : (before ++ '.' :: ending).reverse = ending.reverse ++ '.' :: before.reverse := by
    simp
  have hlength : (before ++ '.' :: ending).length - ending.length - 1 = before.length := by
    rw [List.length_append, List.length_cons]
    omega
  simp only [splitName, hreverse, takeWhile_append_cons (List.mem_reverse.not.2 h),
    List.reverse_reverse, hlength, List.take_left]
  simp

/-- A name is split at its last point, with something before it. -/
theorem splitName_eq_some_iff {name before ending : List Char} :
    splitName name = (before, some ending) ↔
      name = before ++ '.' :: ending ∧ '.' ∉ ending ∧ before ≠ [] := by
  constructor
  · intro h
    by_cases hpoint : '.' ∈ name
    · obtain ⟨after, rest, hreverse, hafter⟩ :=
        List.eq_append_cons_of_mem (List.mem_reverse.2 hpoint)
      have hname : name = rest.reverse ++ '.' :: after.reverse := by
        rw [← List.reverse_reverse name, hreverse]
        simp
      have hending : '.' ∉ after.reverse := List.mem_reverse.not.2 hafter
      rw [hname, splitName_append_point _ hending] at h
      split at h
      · simp at h
      case isFalse hbefore =>
        cases h
        exact ⟨hname, hending, hbefore⟩
    · simp [splitName, hpoint] at h
  · rintro ⟨rfl, hending, hbefore⟩
    rw [splitName_append_point before hending, if_neg hbefore]

/-- A file is named by its stem and its extension. -/
theorem eq_stem_append {path name ending : String} (h : fileName? path = some name)
    (hending : extension? name = some ending) : name = stem path ++ "." ++ ending := by
  obtain ⟨chars, hchars, rfl⟩ := Option.map_eq_some_iff.1 hending
  have hstem : stem path = String.ofList (splitName name.toList).1 := by
    rw [stem, h]
  have hsplit : splitName name.toList = ((splitName name.toList).1, some chars) := by
    rw [← hchars]
  rw [← String.toList_inj, (splitName_eq_some_iff.1 hsplit).1, hstem]
  simp

theorem extension?_eq_some_iff (name ending : String) :
    extension? name = some ending ↔
      ∃ before, name = before ++ "." ++ ending ∧ '.' ∉ ending.toList ∧ before ≠ "" := by
  rw [extension?, Option.map_eq_some_iff]
  constructor
  · rintro ⟨chars, hchars, rfl⟩
    obtain ⟨before, hsplit⟩ : ∃ before, splitName name.toList = (before, some chars) :=
      ⟨_, Prod.ext rfl hchars⟩
    obtain ⟨hname, hpoint, hbefore⟩ := splitName_eq_some_iff.1 hsplit
    refine ⟨String.ofList before, ?_, by simpa using hpoint, by simpa using hbefore⟩
    rw [← String.toList_inj, hname]
    simp
  · rintro ⟨before, rfl, hpoint, hbefore⟩
    have hsplit : splitName (before ++ "." ++ ending).toList =
        (before.toList, some ending.toList) :=
      splitName_eq_some_iff.2 ⟨by simp, hpoint, by simpa using hbefore⟩
    exact ⟨ending.toList, by rw [hsplit], String.ofList_toList⟩

end ApiAtlas.Path

import ApiAtlas.Proofs.Filling

/-!
# What a companion file declares

The text of a companion file begins with an enum and a trait. Its lines up to the end of the trait
follow from the templates, as long as the names in it are made of the characters of identifiers. So
the names of the variants and of the methods can be read off the file: they are those of the
alternatives, and the method that looks for the alternative that is held comes last.
-/

namespace ApiAtlas.Accessors

open Text

/-! ## Templates by lines -/

/-- The line of a variant. -/
def variantLine : Line where
  front := [.text "    ", .slot "variant", .text "(", .text "&'a ", .slot "ty"]
  last := "),"

/-- The lines of the methods of an alternative. -/
def signatureLines : List Line :=
  [⟨[.text "    fn ", .text "is_", .slot "label", .text "("], "&self) -> bool;"⟩,
    ⟨[.text "    fn ", .slot "label", .text "(", .text "&self) -> Option<&", .slot "ty"], ">;"⟩,
    ⟨[], "    /// Stores `value`, clearing every other alternative."⟩,
    ⟨[.text "    fn ", .text "set_", .slot "label", .text "(", .text "&mut self, value: ",
      .slot "ty"], ");"⟩]

/-- The lines of a companion file up to the end of the trait. -/
def declarationLines : List Line :=
  [⟨[], "// Code generated by apicontract. DO NOT EDIT."⟩,
    ⟨[.text "// Accessors for the ", .slot "alias"], " union."⟩,
    ⟨[], ""⟩,
    ⟨[], "use super::*;"⟩,
    ⟨[], ""⟩,
    ⟨[.text "/// Borrowed view of the alternative held by a [`", .slot "alias"], "`]."⟩,
    ⟨[], "#[derive(Debug, Clone, Copy)]"⟩,
    ⟨[.text "pub enum ", .slot "alias"], "Ref<'a> \x7b"⟩,
    ⟨[.slot "variants"], "\x7d"⟩,
    ⟨[], ""⟩,
    ⟨[.text "/// Per-alternative accessors for [`", .slot "alias"], "`]."⟩,
    ⟨[.text "pub trait ", .slot "alias"], "Accessors \x7b"⟩,
    ⟨[.slot "signatures"], ""⟩,
    ⟨[], "    /// The first alternative present, in declared order."⟩,
    ⟨[.text "    fn value(", .text "&self) -> Option<", .slot "alias"], "Ref<'_>>;"⟩,
    ⟨[], "\x7d"⟩]

/-- What comes after the trait. -/
def implementationText : String :=
  "\n" ++
  "impl \x7balias\x7dAccessors for \x7balias\x7d \x7b\n" ++
  "\x7bmethods\x7d\n" ++
  "    fn value(&self) -> Option<\x7balias\x7dRef<'_>> \x7b\n" ++
  "\x7bvalue_arms\x7d        None\n" ++
  "    \x7d\n" ++
  "\x7d\n" ++
  "\x7bconstructors\x7d"

theorem fileText_eq :
    fileText = written (declarationLines.flatMap Line.pieces) ++ implementationText := by
  decide +kernel

theorem variantText_eq : variantText = written variantLine.pieces := rfl

theorem signatureText_eq : signatureText = written (signatureLines.flatMap Line.pieces) := by
  decide +kernel

theorem isProper_declarationLines :
    ∀ piece ∈ declarationLines.flatMap Line.pieces, piece.isProper = true :=
  List.all_eq_true.1 (by decide +kernel)

theorem isProper_variantLine : ∀ piece ∈ variantLine.pieces, piece.isProper = true :=
  List.all_eq_true.1 (by decide +kernel)

theorem isProper_signatureLines :
    ∀ piece ∈ signatureLines.flatMap Line.pieces, piece.isProper = true :=
  List.all_eq_true.1 (by decide +kernel)

/-! ## Alternatives with plain names -/

/-- A text without opening braces and line ends, as it may stand inside a line. -/
def IsInline (s : String) : Prop :=
  '\x7b' ∉ s.toList ∧ '\n' ∉ s.toList

instance (s : String) : Decidable (IsInline s) :=
  inferInstanceAs (Decidable (_ ∧ _))

theorem IsInline.append {s t : String} (hs : IsInline s) (ht : IsInline t) : IsInline (s ++ t) := by
  simp only [IsInline, String.toList_append, List.mem_append, not_or]
  exact ⟨⟨hs.1, ht.1⟩, hs.2, ht.2⟩

theorem isInline_of_isNameText {s : String} (h : IsNameText s) : IsInline s :=
  ⟨h.notMem (by decide), h.notMem (by decide)⟩

/-- The characters of type expressions beside those of names. -/
def typeSigns : List Char :=
  ['<', '>', ',', ' ']

/-- A text that is made of the characters of type expressions. -/
def IsTypeText (s : String) : Prop :=
  ∀ c ∈ s.toList, isNameChar c = true ∨ c ∈ typeSigns

instance (s : String) : Decidable (IsTypeText s) :=
  List.decidableBAll (fun c ↦ isNameChar c = true ∨ c ∈ typeSigns) s.toList

theorem IsTypeText.append {s t : String} (hs : IsTypeText s) (ht : IsTypeText t) :
    IsTypeText (s ++ t) := by
  rw [IsTypeText, String.toList_append]
  exact List.forall_mem_append.2 ⟨hs, ht⟩

theorem isTypeText_of_isNameText {s : String} (h : IsNameText s) : IsTypeText s :=
  fun c hc ↦ Or.inl (h c hc)

theorem isInline_of_isTypeText {s : String} (h : IsTypeText s) : IsInline s := by
  have hsign {sign : Char} (hname : isNameChar sign = false) (hsign : sign ∉ typeSigns) :
      sign ∉ s.toList := by
    intro hmem
    have hchar := h sign hmem
    simp [hname, hsign] at hchar
  exact ⟨hsign (by decide) (by decide), hsign (by decide) (by decide)⟩

/-- An alternative whose names and whose type are made of the characters that they should be. -/
structure Alternative.IsPlain (a : Alternative) : Prop where
  label : IsNameText a.label
  variant : IsNameText a.variant
  type : IsTypeText a.type
  slot : a.slot ∈ slots

/-! ## Declarations -/

/-- A line that declares a name. -/
def declaring (start name rest : String) : String :=
  start ++ name ++ "(" ++ rest

theorem IsInline.declaring {start name rest : String} (hstart : IsInline start)
    (hname : IsInline name) (hrest : IsInline rest) :
    IsInline (Accessors.declaring start name rest) := by
  have hparen : IsInline "(" := by decide
  exact ((hstart.append hname).append hparen).append hrest

/-- The line that declares a variant. -/
def variantDeclaration (a : Alternative) : String :=
  declaring "    " a.variant ("&'a " ++ a.type ++ "),")

/-- The lines that declare the methods of an alternative. -/
def methodDeclarations (a : Alternative) : List String :=
  [declaring "    fn " ("is_" ++ a.label) "&self) -> bool;",
    declaring "    fn " a.label ("&self) -> Option<&" ++ a.type ++ ">;"),
    "    /// Stores `value`, clearing every other alternative.",
    declaring "    fn " ("set_" ++ a.label) ("&mut self, value: " ++ a.type ++ ");")]

theorem isInline_variantDeclaration {a : Alternative} (h : a.IsPlain) :
    IsInline (variantDeclaration a) := by
  have hbefore : IsInline "&'a " := by decide
  exact .declaring (by decide) (isInline_of_isNameText h.variant)
    ((hbefore.append (isInline_of_isTypeText h.type)).append (by decide))

theorem isInline_methodDeclarations {a : Alternative} (h : a.IsPlain) :
    ∀ line ∈ methodDeclarations a, IsInline line := by
  have hlabel : IsInline a.label := isInline_of_isNameText h.label
  have his : IsInline "is_" := by decide
  have hset : IsInline "set_" := by decide
  have hgiven : IsInline "&self) -> Option<&" := by decide
  have htaken : IsInline "&mut self, value: " := by decide
  simp only [methodDeclarations, List.forall_mem_cons]
  refine ⟨?_, ?_, by decide, ?_, List.forall_mem_nil _⟩
  · exact .declaring (by decide) (his.append hlabel) (by decide)
  · exact .declaring (by decide) hlabel
      ((hgiven.append (isInline_of_isTypeText h.type)).append (by decide))
  · exact .declaring (by decide) (hset.append hlabel)
      ((htaken.append (isInline_of_isTypeText h.type)).append (by decide))

/-- The line that opens the enum. -/
def enumHeader (owner : String) : String :=
  "pub enum " ++ owner ++ "Ref<'a> \x7b"

/-- The line that opens the trait. -/
def traitHeader (owner : String) : String :=
  "pub trait " ++ owner ++ "Accessors \x7b"

/-- The lines before the enum. -/
def openingLines (owner : String) : List String :=
  ["// Code generated by apicontract. DO NOT EDIT.",
    "// Accessors for the " ++ owner ++ " union.",
    "",
    "use super::*;",
    "",
    "/// Borrowed view of the alternative held by a [`" ++ owner ++ "`].",
    "#[derive(Debug, Clone, Copy)]"]

/-- The lines between the enum and the trait. -/
def middleLines (owner : String) : List String :=
  ["", "/// Per-alternative accessors for [`" ++ owner ++ "`]."]

/-- The lines inside the trait. -/
def traitLines (owner : String) (all : List Alternative) : List String :=
  all.flatMap methodDeclarations ++
    ["", "    /// The first alternative present, in declared order.",
      declaring "    fn " "value" ("&self) -> Option<" ++ owner ++ "Ref<'_>>;")]

/-- The lines of a companion file up to the end of the trait. -/
def declaredLines (owner : String) (all : List Alternative) : List String :=
  openingLines owner ++ enumHeader owner :: all.map variantDeclaration ++ "\x7d" ::
    (middleLines owner ++ traitHeader owner :: traitLines owner all ++ ["\x7d"])

/-! ## Filling the templates -/

theorem fitsIn_of_isInert {name value : String} (hname : isSlotName name.toList = true)
    (hvalue : isInert value.toList = true) (pieces : List Piece) : FitsIn pieces (name, value) :=
  ⟨hname, fun _ ↦ hvalue⟩

theorem fitsIn_of_notMem {name : String} {pieces : List Piece}
    (hname : isSlotName name.toList = true) (hslot : .slot name ∉ pieces) (value : String) :
    FitsIn pieces (name, value) :=
  ⟨hname, fun h ↦ absurd h hslot⟩

theorem fitsIn_valuesOf {owner : String} (howner : IsNameText owner) {a : Alternative}
    (ha : a.IsPlain) (pieces : List Piece) :
    ∀ entry ∈ valuesOf owner a, FitsIn pieces entry := by
  have hslots : ∀ slot ∈ slots, IsInline slot := by
    simp only [slots, List.forall_mem_cons]
    decide
  have hfits {name value : String} (hname : isSlotName name.toList = true)
      (hvalue : IsInline value) : FitsIn pieces (name, value) :=
    fitsIn_of_isInert hname (isInert_of_notMem hvalue.1) pieces
  simp only [valuesOf, List.forall_mem_cons]
  exact ⟨hfits (by decide) (isInline_of_isNameText howner),
    hfits (by decide) (isInline_of_isNameText (Naming.isNameText_snake howner)),
    hfits (by decide) (isInline_of_isNameText ha.label),
    hfits (by decide) (isInline_of_isNameText ha.variant),
    hfits (by decide) (isInline_of_isTypeText ha.type),
    hfits (by decide) (hslots a.slot ha.slot), List.forall_mem_nil _⟩

theorem fill_variantText {owner : String} {a : Alternative}
    (hvalues : ∀ pieces, ∀ entry ∈ valuesOf owner a, FitsIn pieces entry) :
    fill variantText (valuesOf owner a) = unlines [variantDeclaration a] := by
  have hlines := written_filled_lines (valuesOf owner a) [variantLine]
  rw [List.flatMap_singleton] at hlines
  rw [variantText_eq, ← String.append_empty (s := written _),
    fill_written (hvalues _) isProper_variantLine, fill_empty, String.append_empty, hlines]
  simp [Line.filled, variantLine, Piece.filled, Piece.written, valuesOf, List.lookup_cons,
    variantDeclaration, declaring, String.append_assoc]

theorem fill_signatureText {owner : String} {a : Alternative}
    (hvalues : ∀ pieces, ∀ entry ∈ valuesOf owner a, FitsIn pieces entry) :
    fill signatureText (valuesOf owner a) = unlines (methodDeclarations a) := by
  rw [signatureText_eq, ← String.append_empty (s := written _),
    fill_written (hvalues _) isProper_signatureLines, fill_empty, String.append_empty,
    written_filled_lines]
  simp [Line.filled, signatureLines, Piece.filled, Piece.written, valuesOf, List.lookup_cons,
    methodDeclarations, declaring, String.append_assoc]

/-- The first lines of a companion file are filled on their own. -/
theorem fill_fileText {front back : List Line} (hlines : declarationLines = front ++ back)
    {values : List (String × String)}
    (hvalues : ∀ entry ∈ values, FitsIn (front.flatMap Line.pieces) entry) :
    ∃ rest, fill fileText values = unlines (front.map (Line.filled values)) ++ rest := by
  have hproper : ∀ piece ∈ front.flatMap Line.pieces, piece.isProper = true := by
    intro piece hpiece
    apply isProper_declarationLines
    rw [hlines, List.flatMap_append]
    exact List.mem_append_left _ hpiece
  refine ⟨fill (written (back.flatMap Line.pieces) ++ implementationText) values, ?_⟩
  rw [fileText_eq, hlines, List.flatMap_append, written_append, String.append_assoc,
    fill_written hvalues hproper, written_filled_lines]

theorem join_map_unlines {α : Type} (f : α → List String) (l : List α) :
    String.join (l.map fun x ↦ unlines (f x)) = unlines (l.flatMap f) := by
  induction l with
  | nil => rfl
  | cons x l ih => simp [ih]

theorem isInert_unlines {ls : List String} (h : ∀ line ∈ ls, IsInline line) :
    isInert (unlines ls).toList = true := by
  induction ls with
  | nil => rfl
  | cons line ls ih =>
    have hline : isInert (line ++ "\n").toList = true := by
      apply isInert_of_notMem
      simp [(h line List.mem_cons_self).1]
    rw [unlines_cons, String.toList_append]
    exact isInert_append hline (ih fun other hother ↦ h other (List.mem_cons_of_mem line hother))

/-- The values of the names in the text of a companion file. -/
def fileValues (variants signatures methods arms constructors owner : String) :
    List (String × String) :=
  [("variants", variants), ("signatures", signatures), ("methods", methods), ("value_arms", arms),
    ("constructors", constructors), ("alias", owner)]

theorem contents_eq_fill (owner : String) (all : List Alternative) :
    contents owner all = fill fileText
      (fileValues (String.join (all.map fun a ↦ fill variantText (valuesOf owner a)))
        (String.join (all.map fun a ↦ fill signatureText (valuesOf owner a)))
        ("\n".intercalate (all.map (methodsOf owner all)))
        (String.join (all.map fun a ↦ fill valueText (valuesOf owner a)))
        (String.join (all.map fun a ↦ fill constructorText (valuesOf owner a))) owner) :=
  rfl

/-- A companion file starts with the lines of its enum and its trait. -/
theorem contents_eq {owner : String} (howner : IsNameText owner) {all : List Alternative}
    (hall : ∀ a ∈ all, a.IsPlain) :
    ∃ rest, contents owner all = unlines (declaredLines owner all) ++ rest := by
  have hvalues {a : Alternative} (ha : a ∈ all) := fitsIn_valuesOf howner (hall a ha)
  have hvariants : String.join (all.map fun a ↦ fill variantText (valuesOf owner a)) =
      unlines (all.map variantDeclaration) := by
    rw [List.map_congr_left fun a ha ↦ fill_variantText (hvalues ha), join_map_unlines,
      ← List.map_eq_flatMap]
  have hsignatures : String.join (all.map fun a ↦ fill signatureText (valuesOf owner a)) =
      unlines (all.flatMap methodDeclarations) := by
    rw [List.map_congr_left fun a ha ↦ fill_signatureText (hvalues ha), join_map_unlines]
  have hvariant : ∀ line ∈ all.map variantDeclaration, IsInline line :=
    List.forall_mem_map.2 fun a ha ↦ isInline_variantDeclaration (hall a ha)
  have hmethod : ∀ line ∈ all.flatMap methodDeclarations, IsInline line :=
    List.forall_mem_flatMap.2 fun a ha ↦ isInline_methodDeclarations (hall a ha)
  have hfits (methods arms constructors : String) :
      ∀ entry ∈ fileValues (unlines (all.map variantDeclaration))
        (unlines (all.flatMap methodDeclarations)) methods arms constructors owner,
        FitsIn (declarationLines.flatMap Line.pieces) entry := by
    simp only [fileValues, List.forall_mem_cons]
    exact ⟨fitsIn_of_isInert (by decide) (isInert_unlines hvariant) _,
      fitsIn_of_isInert (by decide) (isInert_unlines hmethod) _,
      fitsIn_of_notMem (by decide) (by decide) _, fitsIn_of_notMem (by decide) (by decide) _,
      fitsIn_of_notMem (by decide) (by decide) _,
      fitsIn_of_isInert (by decide) (isInert_of_notMem (isInline_of_isNameText howner).1) _,
      List.forall_mem_nil _⟩
  obtain ⟨rest, hrest⟩ := fill_fileText (List.append_nil declarationLines).symm (hfits _ _ _)
  refine ⟨rest, ?_⟩
  rw [contents_eq_fill, hvariants, hsignatures, hrest]
  refine congrArg (· ++ rest) ?_
  simp [declarationLines, Line.filled, Piece.filled, Piece.written, List.lookup_cons, declaredLines,
    openingLines, enumHeader, middleLines, traitHeader, traitLines, String.append_assoc, declaring,
    fileValues]

/-- The second line of a companion file names the alias, whatever the alternatives are. -/
theorem secondLine_contents {owner : String} (howner : IsNameText owner) (all : List Alternative) :
    (lines (contents owner all))[1]? = some ("// Accessors for the " ++ owner ++ " union.") := by
  have hinline := isInline_of_isNameText howner
  have hfits (variants signatures methods arms constructors : String) :
      ∀ entry ∈ fileValues variants signatures methods arms constructors owner,
        FitsIn ((declarationLines.take 2).flatMap Line.pieces) entry := by
    simp only [fileValues, List.forall_mem_cons]
    exact ⟨fitsIn_of_notMem (by decide) (by decide) _, fitsIn_of_notMem (by decide) (by decide) _,
      fitsIn_of_notMem (by decide) (by decide) _, fitsIn_of_notMem (by decide) (by decide) _,
      fitsIn_of_notMem (by decide) (by decide) _,
      fitsIn_of_isInert (by decide) (isInert_of_notMem hinline.1) _, List.forall_mem_nil _⟩
  obtain ⟨rest, hrest⟩ := fill_fileText (List.take_append_drop 2 declarationLines).symm
    (hfits _ _ _ _ _)
  rw [contents_eq_fill, hrest, lines_unlines_append]
  · simp [declarationLines, Line.filled, Piece.filled, Piece.written, List.lookup_cons, fileValues]
  · simp [declarationLines, Line.filled, Piece.filled, Piece.written, List.lookup_cons, fileValues,
      hinline.2]

/-! ## Reading the declarations -/

/-- The lines between a header and the next line that closes a block. -/
def block (header : String) (ls : List String) : List String :=
  ((ls.dropWhile fun line ↦ line != header).drop 1).takeWhile fun line ↦ line != "\x7d"

/-- The name that a line declares, if the line begins as it should. -/
def declared? (start line : String) : Option String :=
  (dropLead? start.toList line.toList).map fun rest ↦
    String.ofList (rest.takeWhile fun c ↦ c != '(')

/-- The variants of the enum that a companion file declares for its alias. -/
def enumVariants (owner text : String) : List String :=
  (block (enumHeader owner) (lines text)).filterMap (declared? "    ")

/-- The methods of the trait that a companion file declares for its alias. -/
def traitMethods (owner text : String) : List String :=
  (block (traitHeader owner) (lines text)).filterMap (declared? "    fn ")

theorem block_eq {header : String} {front body : List String} (hfront : header ∉ front)
    (hbody : "\x7d" ∉ body) (rest : List String) :
    block header (front ++ header :: (body ++ "\x7d" :: rest)) = body := by
  have hskipped : ∀ line ∈ front, (line != header) = true :=
    fun line hline ↦ bne_iff_ne.2 (ne_of_mem_of_not_mem hline hfront)
  have hfound : (front ++ header :: (body ++ "\x7d" :: rest)).dropWhile
      (fun line ↦ line != header) = header :: (body ++ "\x7d" :: rest) := by
    rw [List.dropWhile_append_of_pos hskipped]
    simp
  rw [block, hfound]
  exact takeWhile_append_cons hbody rest

theorem dropLead?_append_self (lead cs : List Char) : dropLead? lead (lead ++ cs) = some cs := by
  induction lead with
  | nil => cases cs <;> rfl
  | cons c lead ih => simp [dropLead?, ih]

theorem declared?_declaring {name : String} (hname : '(' ∉ name.toList) (start rest : String) :
    declared? start (declaring start name rest) = some name := by
  have hchars : (declaring start name rest).toList =
      start.toList ++ (name.toList ++ '(' :: rest.toList) := by
    simp [declaring]
  rw [declared?, hchars, dropLead?_append_self, Option.map_some, takeWhile_append_cons hname,
    String.ofList_toList]

/-- The names of the methods of an alternative with a label. -/
def methodNames (label : String) : List String :=
  ["is_" ++ label, label, "set_" ++ label]

theorem filterMap_methodDeclarations {a : Alternative} (h : a.IsPlain) :
    (methodDeclarations a).filterMap (declared? "    fn ") = methodNames a.label := by
  have hlabel : '(' ∉ a.label.toList := h.label.notMem (by decide)
  have hcomment : declared? "    fn " "    /// Stores `value`, clearing every other alternative." =
      none := by
    decide
  simp [methodDeclarations, methodNames, declared?_declaring, hlabel, hcomment]

theorem filterMap_traitLines (owner : String) {all : List Alternative}
    (hall : ∀ a ∈ all, a.IsPlain) :
    (traitLines owner all).filterMap (declared? "    fn ") =
      (all.map Alternative.label).flatMap methodNames ++ ["value"] := by
  have hempty : declared? "    fn " "" = none := by decide
  have hcomment : declared? "    fn " "    /// The first alternative present, in declared order." =
      none := by
    decide
  have hmethods : (all.flatMap methodDeclarations).filterMap (declared? "    fn ") =
      (all.map Alternative.label).flatMap methodNames := by
    rw [List.filterMap_flatMap, List.flatMap_map]
    exact List.flatMap_congr fun a ha ↦ filterMap_methodDeclarations (hall a ha)
  rw [traitLines, List.filterMap_append, hmethods]
  simp [hempty, hcomment, declared?_declaring]

theorem head?_openingLines (owner : String) :
    ∀ line ∈ openingLines owner, line.toList.head? ≠ some 'p' := by
  simp [openingLines]

theorem head?_middleLines (owner : String) :
    ∀ line ∈ middleLines owner, line.toList.head? ≠ some 'p' := by
  simp [middleLines]

theorem enumHeader_ne_traitHeader (owner : String) : enumHeader owner ≠ traitHeader owner := by
  simp [enumHeader, traitHeader, ← String.toList_inj]

theorem notMem_of_head? {line : String} {ls : List String} {c : Char}
    (h : ∀ other ∈ ls, other.toList.head? ≠ some c) (hline : line.toList.head? = some c) :
    line ∉ ls :=
  fun hmem ↦ h line hmem hline

theorem head?_variantDeclarations (all : List Alternative) {c : Char} (hc : c ≠ ' ') :
    ∀ line ∈ all.map variantDeclaration, line.toList.head? ≠ some c := by
  simp [variantDeclaration, declaring, hc.symm]

theorem head?_traitLines (owner : String) (all : List Alternative) {c : Char} (hc : c ≠ ' ') :
    ∀ line ∈ traitLines owner all, line.toList.head? ≠ some c := by
  have hmethods (a : Alternative) : ∀ line ∈ methodDeclarations a, line.toList.head? ≠ some c := by
    simp [methodDeclarations, declaring, hc.symm]
  rw [traitLines, List.forall_mem_append, List.forall_mem_flatMap]
  exact ⟨fun a _ ↦ hmethods a, by simp [declaring, hc.symm]⟩

theorem notMem_declaredLines {owner : String} (howner : IsInline owner) {all : List Alternative}
    (hall : ∀ a ∈ all, a.IsPlain) : ∀ line ∈ declaredLines owner all, '\n' ∉ line.toList := by
  have hmethods : ∀ line ∈ all.flatMap methodDeclarations, '\n' ∉ line.toList :=
    List.forall_mem_flatMap.2 fun a ha line hline ↦
      (isInline_methodDeclarations (hall a ha) line hline).2
  have hvariants : ∀ line ∈ all.map variantDeclaration, '\n' ∉ line.toList :=
    List.forall_mem_map.2 fun a ha ↦ (isInline_variantDeclaration (hall a ha)).2
  simp only [declaredLines, traitLines, List.forall_mem_append, List.forall_mem_cons]
  refine ⟨⟨?_, ?_, hvariants⟩, by decide, ⟨?_, ?_, hmethods, ?_⟩, by decide, List.forall_mem_nil _⟩
  · simp [openingLines, howner.2]
  · simp [enumHeader, howner.2]
  · simp [middleLines, howner.2]
  · simp [traitHeader, howner.2]
  · simp [declaring, howner.2]

section

variable {owner : String} (howner : IsNameText owner) {all : List Alternative}
  (hall : ∀ a ∈ all, a.IsPlain)

include howner hall

theorem lines_contents : ∃ rest, lines (contents owner all) = declaredLines owner all ++ rest := by
  obtain ⟨rest, hrest⟩ := contents_eq howner hall
  refine ⟨lines rest, ?_⟩
  rw [hrest]
  exact lines_unlines_append (notMem_declaredLines (isInline_of_isNameText howner) hall) rest

/-- The enum of a companion file has the variants of the alternatives, in order. -/
theorem enumVariants_contents :
    enumVariants owner (contents owner all) = all.map Alternative.variant := by
  obtain ⟨rest, hrest⟩ := lines_contents howner hall
  have hheader : enumHeader owner ∉ openingLines owner :=
    notMem_of_head? (head?_openingLines owner) (by simp [enumHeader])
  have hbody : "\x7d" ∉ all.map variantDeclaration :=
    notMem_of_head? (c := '\x7d') (head?_variantDeclarations all (by decide)) (by decide)
  have hread : ∀ a ∈ all, declared? "    " (variantDeclaration a) = some a.variant := by
    intro a ha
    apply declared?_declaring
    exact (hall a ha).variant.notMem (by decide)
  have hlines : declaredLines owner all ++ rest = openingLines owner ++ enumHeader owner ::
      (all.map variantDeclaration ++ "\x7d" ::
        (middleLines owner ++ traitHeader owner :: traitLines owner all ++ ["\x7d"] ++ rest)) := by
    simp [declaredLines]
  rw [enumVariants, hrest, hlines, block_eq hheader hbody, List.filterMap_map,
    ← List.filterMap_eq_map]
  exact List.filterMap_congr hread

/-- The trait of a companion file has the three methods of each alternative and the method that
looks for the one that is held. -/
theorem traitMethods_contents :
    traitMethods owner (contents owner all) =
      (all.map Alternative.label).flatMap methodNames ++ ["value"] := by
  obtain ⟨rest, hrest⟩ := lines_contents howner hall
  have hhead : (traitHeader owner).toList.head? = some 'p' := by simp [traitHeader]
  have hfront : traitHeader owner ∉ openingLines owner ++ enumHeader owner ::
      all.map variantDeclaration ++ "\x7d" :: middleLines owner := by
    simp only [List.mem_append, List.mem_cons, not_or]
    exact ⟨⟨notMem_of_head? (head?_openingLines owner) hhead,
      (enumHeader_ne_traitHeader owner).symm,
      notMem_of_head? (head?_variantDeclarations all (by decide)) hhead⟩,
      by simp [traitHeader, ← String.toList_inj],
      notMem_of_head? (head?_middleLines owner) hhead⟩
  have hbody : "\x7d" ∉ traitLines owner all :=
    notMem_of_head? (c := '\x7d') (head?_traitLines owner all (by decide)) (by decide)
  have hlines : declaredLines owner all ++ rest =
      (openingLines owner ++ enumHeader owner :: all.map variantDeclaration ++ "\x7d" ::
        middleLines owner) ++ traitHeader owner :: (traitLines owner all ++ "\x7d" :: rest) := by
    simp [declaredLines]
  rw [traitMethods, hrest, hlines, block_eq hfront hbody, filterMap_traitLines owner hall]

end

theorem eq_of_contents_eq {owner other : String} (howner : IsNameText owner)
    (hother : IsNameText other) {all others : List Alternative}
    (h : contents owner all = contents other others) : owner = other := by
  have hline := secondLine_contents howner all
  rw [h, secondLine_contents hother others, Option.some_inj, String.append_left_inj,
    String.append_right_inj] at hline
  exact hline.symm

end ApiAtlas.Accessors

import ApiAtlas.TypeExpr.Reader
import ApiAtlas.Proofs.Splitting

/-!
# Texts of types

What the reader of type expressions makes of each form of notation: a path, a path with arguments in
angle brackets, an element in square brackets, and a reference in front of one of these. Every
equation here speaks of texts that may stand inside others, among arguments or between brackets, so
that laws about nested notation follow by induction from them alone.
-/

namespace ApiAtlas.TypeExpr

open Text

/-! ## Characters -/

/-- Whether a character may spell the name of a type. -/
def isWordChar (c : Char) : Bool :=
  isAlphanumeric c || c == '_'

/-- Whether a character may stand in a path. -/
def isPathChar (c : Char) : Bool :=
  isWordChar c || c == ':'

/-- The brackets and separators of type expressions. -/
def signs : List Char :=
  ['<', '>', '[', ']', '(', ')', ',', ';']

/-- The code points of the blanks. -/
def blankCodes : List Nat :=
  List.range' 0x09 5 ++ [0x20, 0x85, 0xA0, 0x1680] ++ List.range' 0x2000 11 ++
    [0x2028, 0x2029, 0x202F, 0x205F, 0x3000]

theorem mem_blankCodes {c : Char} (h : isBlank c = true) : c.toNat ∈ blankCodes := by
  simp only [isBlank, Bool.or_eq_true, Bool.and_eq_true, decide_eq_true_eq, beq_iff_eq] at h
  simp only [blankCodes, List.mem_append, List.mem_range'_1, List.mem_cons, List.not_mem_nil]
  omega

theorem isBlank_of_isPathChar {c : Char} (h : isPathChar c = true) : isBlank c = false := by
  have hcodes : ∀ code ∈ blankCodes, isPathChar (Char.ofNat code) = false := by decide +kernel
  rw [← Bool.not_eq_true]
  intro hblank
  have hpath := hcodes c.toNat (mem_blankCodes hblank)
  rw [Char.ofNat_toNat, h] at hpath
  exact absurd hpath (by decide)

theorem isPathChar_of_isWordChar {c : Char} (h : isWordChar c = true) : isPathChar c = true := by
  simp [isPathChar, h]

theorem notMem_signs_of_isPathChar {c : Char} (h : isPathChar c = true) :
    c ∉ '&' :: '\'' :: signs := by
  have hsigns : ∀ sign ∈ '&' :: '\'' :: signs, isPathChar sign = false :=
    List.all_iff_forall_prop.1 (by decide +kernel)
  intro hmem
  rw [hsigns c hmem] at h
  exact absurd h (by decide)

theorem notMem_signs_of_isBlank {c : Char} (h : isBlank c = true) : c ∉ signs := by
  have hsigns : ∀ sign ∈ signs, isBlank sign = false := List.all_iff_forall_prop.1 (by decide)
  intro hmem
  rw [hsigns c hmem] at h
  exact absurd h (by decide)

theorem depthChange_of_notMem_signs {c : Char} (h : c ∉ signs) : depthChange c = 0 := by
  simp only [signs, List.mem_cons, not_or] at h
  simp [depthChange, h]

/-! ## Pieces -/

/-- A text that can stand among others: commas and semicolons leave it whole. -/
structure IsPiece (cs : List Char) : Prop where
  ne_nil : cs ≠ []
  trimmed : Trimmed cs
  whole : ∀ sep ∈ [',', ';'], Whole depthChange sep cs

theorem separates_signs {sep : Char} (h : sep ∈ [',', ';']) : Separates depthChange sep := by
  have hall : ∀ s ∈ [',', ';'], depthChange s = 0 ∧ isBlank s = false :=
    List.all_iff_forall_prop.1 (by decide)
  refine ⟨(hall sep h).1, (hall sep h).2, fun c hc ↦ ?_⟩
  exact depthChange_of_notMem_signs (notMem_signs_of_isBlank hc)

theorem whole_of_notMem_signs {cs : List Char} (h : ∀ c ∈ cs, c ∉ signs) {sep : Char}
    (hsep : sep ∈ [',', ';']) : Whole depthChange sep cs := by
  apply whole_of_forall
  intro c hc
  refine ⟨depthChange_of_notMem_signs (h c hc), ?_⟩
  rintro rfl
  have hsigns : [',', ';'] ⊆ signs := by decide
  exact h c hc (hsigns hsep)

/-- What was joined with commas or semicolons comes apart again. -/
theorem splitTopLevel_of_spaced {sep : Char} (hsep : sep ∈ [',', ';']) {pieces : List (List Char)}
    {text : List Char} (htext : Spaced sep pieces text)
    (hpieces : ∀ piece ∈ pieces, IsPiece piece) :
    splitTopLevel sep text = pieces := by
  cases hlist : pieces with
  | nil =>
    subst hlist
    cases htext
    rfl
  | cons first rest =>
    rw [← hlist]
    have hsplit : trimmedPieces depthChange sep text = pieces := by
      apply (separates_signs hsep).trimmedPieces_of_spaced htext (by simp [hlist])
      · exact fun piece hpiece ↦ (hpieces piece hpiece).trimmed
      · exact fun piece hpiece ↦ (hpieces piece hpiece).whole sep hsep
    have hblank : pieces ≠ [[]] := by
      rintro rfl
      exact (hpieces [] List.mem_cons_self).ne_nil rfl
    unfold splitTopLevel
    split
    · next hempty => exact absurd (hsplit.symm.trans hempty) hblank
    · exact hsplit

/-- Pieces that are joined make up a balanced text, since each of the two separators leaves what the
other one joins whole. -/
theorem balanced_of_spaced {sep : Char} (hsep : sep ∈ [',', ';']) {pieces : List (List Char)}
    {text : List Char} (htext : Spaced sep pieces text)
    (hpieces : ∀ piece ∈ pieces, IsPiece piece) :
    balancedFrom depthChange 0 text = true := by
  obtain ⟨other, hother, hne⟩ : ∃ other ∈ [',', ';'], sep ≠ other := by
    by_cases hcomma : sep = ','
    · exact ⟨';', by decide, by simp [hcomma]⟩
    · exact ⟨',', by decide, hcomma⟩
  have hwhole := (separates_signs hsep).whole_of_spaced (separates_signs hother) hne htext
    fun piece hpiece ↦ (hpieces piece hpiece).whole other hother
  exact hwhole.balanced

theorem isPiece_brackets {inner : List Char} (hinner : balancedFrom depthChange 0 inner = true) :
    IsPiece ('[' :: (inner ++ [']'])) where
  ne_nil := by simp
  trimmed := by
    have hopening : Trimmed ['['] := by decide
    have hclosing : Trimmed [']'] := by decide
    exact hopening.append hclosing (by simp) (by simp) inner
  whole _ _ := whole_of_brackets (by decide) (by decide) hinner

/-! ## Paths -/

/-- A name is spelled with at least one letter, digit or underscore, and with nothing else. -/
structure IsWord (cs : List Char) : Prop where
  ne_nil : cs ≠ []
  chars : ∀ c ∈ cs, isWordChar c = true

instance (cs : List Char) : Decidable (IsWord cs) :=
  decidable_of_iff (cs ≠ [] ∧ cs.all isWordChar = true)
    ⟨fun h ↦ ⟨h.1, List.all_eq_true.1 h.2⟩, fun h ↦ ⟨h.ne_nil, List.all_eq_true.2 h.chars⟩⟩

/-- A path with its last segment, which is a name. -/
structure IsPath (path : List Char) (name : String) : Prop where
  chars : ∀ c ∈ path, isPathChar c = true
  segment : segment? path = some name

theorem untilColons_of_notMem {cs : List Char} (h : ':' ∉ cs) : untilColons cs = cs := by
  induction cs with
  | nil => rfl
  | cons c cs ih =>
    simp only [List.mem_cons, not_or] at h
    have hc : c ≠ ':' := fun hc ↦ h.1 hc.symm
    simp [untilColons, hc, ih h.2]

theorem untilColons_append {cs : List Char} (h : ':' ∉ cs) (rest : List Char) :
    untilColons (cs ++ ':' :: ':' :: rest) = cs := by
  induction cs with
  | nil => rfl
  | cons c cs ih =>
    simp only [List.mem_cons, not_or] at h
    have hc : c ≠ ':' := fun hc ↦ h.1 hc.symm
    simp [untilColons, hc, ih h.2]

namespace IsWord

variable {cs : List Char}

theorem notMem_colon (h : IsWord cs) : ':' ∉ cs := by
  intro hmem
  exact absurd (h.chars ':' hmem) (by decide +kernel)

theorem isBlank_eq (h : IsWord cs) : ∀ c ∈ cs, isBlank c = false :=
  fun c hc ↦ isBlank_of_isPathChar (isPathChar_of_isWordChar (h.chars c hc))

theorem notMem_signs (h : IsWord cs) : ∀ c ∈ cs, c ∉ signs := by
  intro c hc hsign
  exact notMem_signs_of_isPathChar (isPathChar_of_isWordChar (h.chars c hc)) (by simp [hsign])

theorem segment?_of_afterColons (h : IsWord cs) {path : List Char} (hpath : afterColons path = cs) :
    segment? path = some (String.ofList cs) := by
  have htrimmed : Trimmed cs := trimmed_of_forall h.isBlank_eq
  have hall : (cs.all fun c ↦ isAlphanumeric c || c == '_') = true := List.all_eq_true.2 h.chars
  have hne : cs.isEmpty = false := by simpa using h.ne_nil
  rw [segment?, hpath, htrimmed.trim_eq, hne, hall]
  rfl

/-- A name alone is a path. -/
theorem isPath (h : IsWord cs) : IsPath cs (String.ofList cs) where
  chars c hc := isPathChar_of_isWordChar (h.chars c hc)
  segment := by
    apply h.segment?_of_afterColons
    rw [afterColons, untilColons_of_notMem (by simpa using h.notMem_colon), List.reverse_reverse]

/-- Whatever path stands before a name, the name is what counts. -/
theorem isPath_append (h : IsWord cs) {front : List Char}
    (hfront : ∀ c ∈ front, isPathChar c = true) :
    IsPath (front ++ ':' :: ':' :: cs) (String.ofList cs) where
  chars := by
    have hcolon : isPathChar ':' = true := by decide +kernel
    simpa [hcolon, or_imp, forall_and] using And.intro hfront h.isPath.chars
  segment := by
    apply h.segment?_of_afterColons
    have hreverse : (front ++ ':' :: ':' :: cs).reverse =
        cs.reverse ++ ':' :: ':' :: front.reverse := by simp
    rw [afterColons, hreverse, untilColons_append (by simpa using h.notMem_colon),
      List.reverse_reverse]

end IsWord

/-! ## The reader -/

/-- What the reader makes of a path with or without arguments. -/
def parsePath? (body : List Char) : Option TypeExpr :=
  match splitAngle 0 body with
  | none => (segment? body).map .named
  | some (before, after) =>
    match dropFinal? '>' after, segment? before with
    | some inner, some base =>
      (parseAll? ((splitTopLevel ',' inner).filter fun arg ↦ !isLifetime arg)).map (ofBase base)
    | _, _ => none

/-- What the reader makes of a text after the mark of a reference. -/
def parseBody? (body : List Char) : Option TypeExpr :=
  if body.isEmpty then none
  else if body == "()".toList then some (.named "()")
  else
    match bracketed? body with
    | some inner => ((splitTopLevel ';' inner).head?.bind parseChars?).map .sequence
    | none => parsePath? body

theorem parseChars?_eq_bind (text : List Char) :
    parseChars? text = (dropReference? (trim text)).bind parseBody? := by
  rw [parseChars?]
  split
  · next hnone => simp [hnone]
  · next body hbody =>
    rw [hbody, Option.bind_some, parseBody?]
    split
    · rfl
    · split
      · rfl
      · split
        · next inner hinner =>
          rw [hinner]
          split
          · next element helement => simp [helement]
          · next hnone => simp [hnone]
        · next hopen =>
          rw [hopen, parsePath?]
          split
          · next hplain => rw [hplain]
          · next before after hangle =>
            rw [hangle]
            split
            · next hnone => simp [hnone]
            · next inner hinner =>
              split
              · next hnone => simp [hinner, hnone]
              · next base hbase => simp [hinner, hbase]

theorem parseChars?_of_body {text body : List Char} (h : dropReference? (trim text) = some body) :
    parseChars? text = parseBody? body := by
  rw [parseChars?_eq_bind, h, Option.bind_some]

@[simp]
theorem parseAll?_nil : parseAll? [] = some [] := by
  rw [parseAll?]

theorem parseAll?_cons (piece : List Char) (rest : List (List Char)) :
    parseAll? (piece :: rest) =
      (parseChars? piece).bind fun t ↦ (parseAll? rest).map (t :: ·) := by
  rw [parseAll?]
  cases parseChars? piece <;> rfl

/-- A text without blanks at its ends and without the mark of a reference is read as it stands. -/
theorem parseChars?_of_trimmed {text : List Char} (htrimmed : Trimmed text)
    (hhead : text.head? ≠ some '&') : parseChars? text = parseBody? text := by
  apply parseChars?_of_body
  rw [htrimmed.trim_eq]
  unfold dropReference?
  split
  · exact absurd rfl hhead
  · rfl

theorem dropFinal?_concat (c : Char) (cs : List Char) : dropFinal? c (cs ++ [c]) = some cs := by
  simp [dropFinal?]

theorem eq_append_of_dropLead? {lead cs rest : List Char} (h : dropLead? lead cs = some rest) :
    cs = lead ++ rest := by
  induction lead generalizing cs with
  | nil => exact Option.some.inj h
  | cons p lead ih =>
    cases cs with
    | nil => exact absurd h (by simp [dropLead?])
    | cons c cs =>
      rw [dropLead?] at h
      split at h
      · next hc => rw [ih h, beq_iff_eq.1 hc, List.cons_append]
      · exact absurd h (by simp)

/-! ## Notations -/

/-- A text denotes an expression wherever it stands: alone, among arguments, between brackets, and
after the mark of a reference. So it must not start like a lifetime, and its first word must not be
taken for the end of such a mark. -/
structure Denotes (text : List Char) (t : TypeExpr) : Prop extends IsPiece text where
  head : text.head? ≠ some '\''
  lead : dropLead? "mut ".toList text = none
  parse : parseChars? text = some t

theorem Denotes.trimStart_eq {text : List Char} {t : TypeExpr} (h : Denotes text t) :
    trimStart text = text := by
  simpa using h.trimmed.trimStart_append h.ne_nil []

theorem Denotes.isLifetime_eq {text : List Char} {t : TypeExpr} (h : Denotes text t) :
    isLifetime text = false := by
  simpa [isLifetime, h.trimStart_eq] using h.head

theorem denotes_unit : Denotes "()".toList (.named "()") where
  ne_nil := by decide
  trimmed := by decide
  whole := List.all_iff_forall_prop.1 (by decide)
  head := by decide
  lead := by decide
  parse := by
    rw [parseChars?_of_trimmed (by decide) (by decide)]
    rfl

/-- The first piece between square brackets is the element of a sequence. -/
theorem denotes_brackets {inner first : List Char} {rest : List (List Char)} {t : TypeExpr}
    (hinner : Spaced ';' (first :: rest) inner) (hfirst : Denotes first t)
    (hrest : ∀ piece ∈ rest, IsPiece piece) : Denotes ('[' :: (inner ++ [']'])) (.sequence t) := by
  have hpieces : ∀ piece ∈ first :: rest, IsPiece piece :=
    List.forall_mem_cons.2 ⟨hfirst.toIsPiece, hrest⟩
  have hpiece := isPiece_brackets (balanced_of_spaced (by decide) hinner hpieces)
  refine ⟨hpiece, by simp, by simp [dropLead?], ?_⟩
  have hbracketed : bracketed? ('[' :: (inner ++ [']'])) = some inner := dropFinal?_concat ']' inner
  have hsplit := splitTopLevel_of_spaced (by decide) hinner hpieces
  rw [parseChars?_of_trimmed hpiece.trimmed (by simp), parseBody?, if_neg (by simp),
    if_neg (by simp), hbracketed]
  simp [hsplit, hfirst.parse]

/-! ### Arguments -/

/-- Texts that denote expressions wherever they stand, lifetimes among them apart. -/
structure DenotesAll (texts : List (List Char)) (ts : List TypeExpr) : Prop where
  isPiece : ∀ text ∈ texts, IsPiece text
  parse : parseAll? (texts.filter fun text ↦ !isLifetime text) = some ts

theorem IsWord.isPiece_lifetime {name : List Char} (h : IsWord name) : IsPiece ('\'' :: name) where
  ne_nil := by simp
  trimmed := trimmed_of_forall (List.forall_mem_cons.2 ⟨by decide, h.isBlank_eq⟩)
  whole _ hsep := whole_of_notMem_signs (List.forall_mem_cons.2 ⟨by decide, h.notMem_signs⟩) hsep

namespace DenotesAll

variable {texts : List (List Char)} {ts : List TypeExpr}

theorem nil : DenotesAll [] [] :=
  ⟨List.forall_mem_nil _, parseAll?_nil⟩

theorem lifetime (h : DenotesAll texts ts) {name : List Char} (hname : IsWord name) :
    DenotesAll (('\'' :: name) :: texts) ts where
  isPiece := List.forall_mem_cons.2 ⟨hname.isPiece_lifetime, h.isPiece⟩
  parse := by
    have hdropped : isLifetime ('\'' :: name) = true := rfl
    rw [List.filter_cons_of_neg (by simp [hdropped]), h.parse]

theorem type (h : DenotesAll texts ts) {text : List Char} {t : TypeExpr} (ht : Denotes text t) :
    DenotesAll (text :: texts) (t :: ts) where
  isPiece := List.forall_mem_cons.2 ⟨ht.toIsPiece, h.isPiece⟩
  parse := by
    rw [List.filter_cons_of_pos (by simp [ht.isLifetime_eq]), parseAll?_cons, ht.parse, h.parse]
    rfl

end DenotesAll

/-! ### Paths -/

theorem splitAngle_of_path {path : List Char} (h : ∀ c ∈ path, isPathChar c = true) :
    splitAngle 0 path = none := by
  induction path with
  | nil => rfl
  | cons c path ih =>
    have hsign := notMem_signs_of_isPathChar (h c List.mem_cons_self)
    simp only [signs, List.mem_cons, not_or] at hsign
    simp [splitAngle, hsign, ih fun d hd ↦ h d (List.mem_cons_of_mem _ hd)]

theorem splitAngle_append {path : List Char} (h : ∀ c ∈ path, isPathChar c = true)
    (after : List Char) : splitAngle 0 (path ++ '<' :: after) = some (path, after) := by
  induction path with
  | nil => simp [splitAngle]
  | cons c path ih =>
    have hsign := notMem_signs_of_isPathChar (h c List.mem_cons_self)
    simp only [signs, List.mem_cons, not_or] at hsign
    simp [splitAngle, hsign, ih fun d hd ↦ h d (List.mem_cons_of_mem _ hd)]

namespace IsPath

variable {path : List Char} {name : String}

theorem ne_nil (h : IsPath path name) : path ≠ [] := by
  rintro rfl
  have hnone : segment? [] = none := rfl
  rw [h.segment] at hnone
  exact absurd hnone (by simp)

theorem trimmed (h : IsPath path name) : Trimmed path :=
  trimmed_of_forall fun c hc ↦ isBlank_of_isPathChar (h.chars c hc)

theorem whole (h : IsPath path name) {sep : Char} (hsep : sep ∈ [',', ';']) :
    Whole depthChange sep path := by
  refine whole_of_notMem_signs (fun c hc hsign ↦ ?_) hsep
  exact notMem_signs_of_isPathChar (h.chars c hc) (by simp [hsign])

theorem head?_append (h : IsPath path name) (rest : List Char) (sign : Char)
    (hsign : sign ∈ '&' :: '\'' :: signs) : (path ++ rest).head? ≠ some sign := by
  cases path with
  | nil => exact absurd rfl h.ne_nil
  | cons c path =>
    intro hhead
    obtain rfl := Option.some.inj hhead
    exact notMem_signs_of_isPathChar (h.chars c List.mem_cons_self) hsign

/-- A path may start with any word, since no blank follows it. -/
theorem dropLead?_append (h : IsPath path name) (rest : List Char)
    (hrest : ∀ c ∈ rest.head?, c = '<') : dropLead? "mut ".toList (path ++ rest) = none := by
  rw [Option.eq_none_iff_forall_ne_some]
  intro tail htail
  -- After its path characters the text goes on with the bracket, and so not with a blank.
  have hpath : (path ++ rest).dropWhile isPathChar = rest := by
    rw [List.dropWhile_append_of_pos h.chars]
    cases rest with
    | nil => rfl
    | cons c rest =>
      obtain rfl := hrest c rfl
      have hopening : isPathChar '<' = false := by decide +kernel
      rw [List.dropWhile_cons_of_neg (by simp [hopening])]
  have hword : ("mut ".toList ++ tail).dropWhile isPathChar = ' ' :: tail := by
    have hchars : ∀ c ∈ "mut".toList, isPathChar c = true :=
      List.all_eq_true.1 (by decide +kernel)
    have hblank : isPathChar ' ' = false := by decide +kernel
    have hsplit : "mut ".toList ++ tail = "mut".toList ++ ' ' :: tail := rfl
    rw [hsplit, List.dropWhile_append_of_pos hchars, List.dropWhile_cons_of_neg (by simp [hblank])]
  rw [eq_append_of_dropLead? htail, hword] at hpath
  rw [← hpath] at hrest
  exact absurd (hrest ' ' rfl) (by decide)

/-- What starts with a path is read as one. -/
theorem parseChars?_append (h : IsPath path name) (rest : List Char)
    (htrimmed : Trimmed (path ++ rest)) :
    parseChars? (path ++ rest) = parsePath? (path ++ rest) := by
  have hne : (path ++ rest).isEmpty = false := by simp [h.ne_nil]
  have hunit : (path ++ rest == "()".toList) = false := by
    rw [beq_eq_false_iff_ne]
    intro heq
    have hhead : (path ++ rest).head? = some '(' := by
      rw [heq]
      rfl
    exact h.head?_append rest '(' (by decide) hhead
  have hopen : bracketed? (path ++ rest) = none := by
    unfold bracketed?
    split
    · next inner heq =>
      have hhead : (path ++ rest).head? = some '[' := by rw [heq, List.head?_cons]
      exact absurd hhead (h.head?_append rest '[' (by decide))
    · rfl
  rw [parseChars?_of_trimmed htrimmed (h.head?_append rest '&' (by decide)), parseBody?, hne,
    hunit, hopen]
  rfl

/-- A path denotes its last segment. -/
theorem denotes (h : IsPath path name) : Denotes path (.named name) where
  ne_nil := h.ne_nil
  trimmed := h.trimmed
  whole _ hsep := h.whole hsep
  head := by simpa using h.head?_append [] '\'' (by decide)
  lead := by simpa using h.dropLead?_append [] (by simp)
  parse := by
    have hread := h.parseChars?_append [] (by simpa using h.trimmed)
    rw [List.append_nil, parsePath?, splitAngle_of_path h.chars, h.segment] at hread
    exact hread

/-- A path with arguments denotes its last segment with what the arguments denote. -/
theorem denotes_angle (h : IsPath path name) {texts : List (List Char)} {inner : List Char}
    {args : List TypeExpr} (hinner : Spaced ',' texts inner) (hargs : DenotesAll texts args) :
    Denotes (path ++ '<' :: (inner ++ ['>'])) (ofBase name args) := by
  have htrimmed : Trimmed (path ++ '<' :: (inner ++ ['>'])) := by
    have hclosing : Trimmed ['>'] := by decide
    exact h.trimmed.append hclosing h.ne_nil (by simp) ('<' :: inner)
  have hbalanced := balanced_of_spaced (by decide) hinner hargs.isPiece
  have hsplit := splitTopLevel_of_spaced (by decide) hinner hargs.isPiece
  constructor
  · refine ⟨by simp, htrimmed, fun sep hsep ↦ ?_⟩
    exact (h.whole hsep).append (whole_of_brackets (by decide) (by decide) hbalanced)
  · exact h.head?_append _ '\'' (by decide)
  · exact h.dropLead?_append _ (by simp)
  · rw [h.parseChars?_append _ htrimmed, parsePath?, splitAngle_append h.chars]
    simp only [dropFinal?_concat, h.segment, hsplit, hargs.parse, Option.map_some]

end IsPath

/-! ### References -/

/-- The lifetime in the mark of a reference. -/
def lifetimeMark : Option String → List Char
  | none => []
  | some name => '\'' :: (name.toList ++ [' '])

/-- The sign of mutability in the mark of a reference. -/
def mutMark (mutable : Bool) : List Char :=
  if mutable then "mut ".toList else []

/-- The mark of a reference with its lifetime and mutability. -/
def referenceMark (lifetime : Option String) (mutable : Bool) : List Char :=
  '&' :: (lifetimeMark lifetime ++ mutMark mutable)

/-- What follows a lifetime and a blank at the start of a text. -/
def afterLifetime? (cs : List Char) : Option (List Char) :=
  match cs with
  | '\'' :: _ =>
    match cs.dropWhile fun c ↦ !isBlank c with
    | [] => none
    | blank => some (trimStart blank)
  | _ => some cs

/-- What follows the sign of mutability at the start of a text. -/
def afterMut (cs : List Char) : List Char :=
  match dropLead? "mut ".toList cs with
  | some target => trimStart target
  | none => cs

theorem dropReference?_cons (cs : List Char) :
    dropReference? ('&' :: cs) = (afterLifetime? (trimStart cs)).map afterMut := rfl

theorem afterLifetime?_mark {lifetime : Option String}
    (hlifetime : ∀ name ∈ lifetime, IsWord name.toList) {c : Char} (hblank : isBlank c = false)
    (hquote : c ≠ '\'') (cs : List Char) :
    afterLifetime? (trimStart (lifetimeMark lifetime ++ c :: cs)) = some (c :: cs) := by
  cases lifetime with
  | none =>
    rw [lifetimeMark, List.nil_append, trimStart_cons hblank]
    unfold afterLifetime?
    split
    · next heq => exact absurd (List.cons.inj heq).1 hquote
    · rfl
  | some name =>
    have hchars : ∀ d ∈ '\'' :: name.toList, (!isBlank d) = true := by
      refine List.forall_mem_cons.2 ⟨rfl, fun d hd ↦ ?_⟩
      rw [(hlifetime name rfl).isBlank_eq d hd]
      rfl
    have hmark : lifetimeMark (some name) ++ c :: cs = ('\'' :: name.toList) ++ ' ' :: c :: cs := by
      simp [lifetimeMark]
    have hrest : (('\'' :: name.toList) ++ ' ' :: c :: cs).dropWhile (fun d ↦ !isBlank d) =
        ' ' :: c :: cs := by
      rw [List.dropWhile_append_of_pos hchars]
      rfl
    have hstart : trimStart (' ' :: c :: cs) = c :: cs := trimStart_cons hblank cs
    rw [List.cons_append] at hmark hrest
    rw [hmark, trimStart_cons (by decide)]
    simp only [afterLifetime?, hrest, hstart]

theorem notMem_signs_of_referenceMark {lifetime : Option String}
    (hlifetime : ∀ name ∈ lifetime, IsWord name.toList) (mutable : Bool) :
    ∀ c ∈ referenceMark lifetime mutable, c ∉ signs := by
  have hmut : ∀ c ∈ mutMark mutable, c ∉ signs := by
    cases mutable with
    | false => exact List.forall_mem_nil _
    | true => exact List.all_iff_forall_prop.1 (by decide)
  have hlife : ∀ c ∈ lifetimeMark lifetime, c ∉ signs := by
    cases lifetime with
    | none => exact List.forall_mem_nil _
    | some name =>
      have hname := (hlifetime name rfl).notMem_signs
      refine List.forall_mem_cons.2 ⟨by decide, List.forall_mem_append.2 ⟨hname, ?_⟩⟩
      exact List.forall_mem_singleton.2 (by decide)
  exact List.forall_mem_cons.2 ⟨by decide, List.forall_mem_append.2 ⟨hlife, hmut⟩⟩

namespace Denotes

variable {text : List Char} {t : TypeExpr}

theorem afterMut_append (h : Denotes text t) (mutable : Bool) :
    afterMut (mutMark mutable ++ text) = text := by
  unfold afterMut
  cases mutable with
  | false =>
    have hlead : dropLead? "mut ".toList (mutMark false ++ text) = none := h.lead
    rw [hlead]
    rfl
  | true =>
    have hlead : dropLead? "mut ".toList (mutMark true ++ text) = some text := rfl
    rw [hlead]
    exact h.trimStart_eq

/-- What follows the lifetime starts with neither a blank nor a quote. -/
theorem exists_mutMark_append (h : Denotes text t) (mutable : Bool) :
    ∃ c cs, mutMark mutable ++ text = c :: cs ∧ isBlank c = false ∧ c ≠ '\'' := by
  cases mutable with
  | false =>
    cases htext : text with
    | nil => exact absurd htext h.ne_nil
    | cons c cs =>
      refine ⟨c, cs, rfl, h.trimmed.head c (by simp [htext]), ?_⟩
      rintro rfl
      exact h.head (by simp [htext])
  | true => exact ⟨'m', "ut ".toList ++ text, rfl, by decide, by decide⟩

/-- Nothing but the mark of a reference is dropped. -/
theorem dropReference?_mark (h : Denotes text t) {lifetime : Option String}
    (hlifetime : ∀ name ∈ lifetime, IsWord name.toList) (mutable : Bool) :
    dropReference? (referenceMark lifetime mutable ++ text) = some text := by
  obtain ⟨c, cs, hrest, hblank, hquote⟩ := h.exists_mutMark_append mutable
  rw [referenceMark, List.cons_append, List.append_assoc, dropReference?_cons, hrest,
    afterLifetime?_mark hlifetime hblank hquote, ← hrest, Option.map_some, h.afterMut_append]

/-- A reference denotes what its target denotes, unless that is a reference itself. -/
theorem reference (h : Denotes text t) (htarget : text.head? ≠ some '&') {lifetime : Option String}
    (hlifetime : ∀ name ∈ lifetime, IsWord name.toList) (mutable : Bool) :
    Denotes (referenceMark lifetime mutable ++ text) t := by
  have htrimmed : Trimmed (referenceMark lifetime mutable ++ text) := by
    have hmark : Trimmed ['&'] := by decide
    exact hmark.append h.trimmed (by simp) h.ne_nil (lifetimeMark lifetime ++ mutMark mutable)
  constructor
  · refine ⟨by simp [referenceMark], htrimmed, fun sep hsep ↦ ?_⟩
    have hmark := whole_of_notMem_signs (notMem_signs_of_referenceMark hlifetime mutable) hsep
    exact hmark.append (h.whole sep hsep)
  · simp [referenceMark]
  · simp [referenceMark, dropLead?]
  · have hdrop : dropReference? (trim (referenceMark lifetime mutable ++ text)) = some text := by
      rw [htrimmed.trim_eq, h.dropReference?_mark hlifetime]
    rw [parseChars?_of_body hdrop, ← parseChars?_of_trimmed h.trimmed htarget, h.parse]

end Denotes

end ApiAtlas.TypeExpr

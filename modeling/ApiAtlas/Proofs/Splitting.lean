import ApiAtlas.Text.Depth
import Mathlib.Data.Bool.AllAny
import Mathlib.Data.List.DropRight

/-!
# Splitting what was joined

Texts that are joined with a separator, and with any blanks around it, come apart again into the
same texts. All that is asked of a text is that it has no blanks at its ends, that its brackets are
balanced, and that no separator stands outside of them. The depth at which the splitter arrives
after such a text is the one at which it set out, so that induction over the joined texts goes
through from left to right.
-/

namespace ApiAtlas.Text

/-! ## Blanks at the ends -/

/-- A text has no blanks at its ends. -/
structure Trimmed (cs : List Char) : Prop where
  head : ∀ c ∈ cs.head?, isBlank c = false
  last : ∀ c ∈ cs.getLast?, isBlank c = false

/-- Whether a text has blanks at its ends is told from its first and its last character. -/
theorem trimmed_iff {cs : List Char} :
    Trimmed cs ↔ cs.head?.all (!isBlank ·) = true ∧ cs.getLast?.all (!isBlank ·) = true := by
  simp only [Option.all_eq_true, Bool.not_eq_true']
  exact ⟨fun h ↦ ⟨h.head, h.last⟩, fun h ↦ ⟨h.1, h.2⟩⟩

instance (cs : List Char) : Decidable (Trimmed cs) :=
  decidable_of_iff' _ trimmed_iff

theorem dropEndWhile_eq_rdropWhile {α : Type} (p : α → Bool) (l : List α) :
    dropEndWhile p l = l.rdropWhile p := by
  induction l with
  | nil => rfl
  | cons a rest ih =>
    rw [dropEndWhile, ih, List.rdropWhile, List.rdropWhile, List.reverse_cons,
      List.dropWhile_append]
    cases hkept : rest.reverse.dropWhile p with
    | nil => by_cases ha : p a <;> simp [ha]
    | cons b kept =>
      have hne : (kept.reverse ++ [b]) ≠ [] := by simp
      cases hlist : kept.reverse ++ [b] with
      | nil => exact absurd hlist hne
      | cons first others => simp [hlist]

theorem dropEndWhile_append {α : Type} {p : α → Bool} {after : List α}
    (hafter : ∀ a ∈ after, p a = true) (l : List α) :
    dropEndWhile p (l ++ after) = dropEndWhile p l := by
  rw [dropEndWhile_eq_rdropWhile, dropEndWhile_eq_rdropWhile, List.rdropWhile, List.rdropWhile,
    List.reverse_append, List.dropWhile_append_of_pos]
  intro a ha
  exact hafter a (List.mem_reverse.1 ha)

theorem trimStart_cons {c : Char} (h : isBlank c = false) (cs : List Char) :
    trimStart (c :: cs) = c :: cs := by
  simp [trimStart, h]

theorem Trimmed.trimStart_append {cs : List Char} (h : Trimmed cs) (hne : cs ≠ [])
    (after : List Char) : trimStart (cs ++ after) = cs ++ after := by
  cases cs with
  | nil => exact absurd rfl hne
  | cons c rest => exact trimStart_cons (h.head c rfl) (rest ++ after)

theorem trim_append_left {before : List Char} (hbefore : ∀ c ∈ before, isBlank c = true)
    (cs : List Char) : trim (before ++ cs) = trim cs := by
  rw [trim, trim, trimStart, trimStart, List.dropWhile_append_of_pos hbefore]

theorem trim_append_right {after : List Char} (hafter : ∀ c ∈ after, isBlank c = true)
    (cs : List Char) : trim (cs ++ after) = trim cs := by
  have hnone : after.dropWhile isBlank = [] := List.dropWhile_eq_nil_iff.2 hafter
  rw [trim, trim, trimStart, trimStart, List.dropWhile_append]
  split
  · next hblank => rw [hnone, List.isEmpty_iff.1 hblank]
  · exact dropEndWhile_append hafter _

/-- A text within characters of a kind: they stand on both sides of it and not at its ends. -/
structure Within (p : Char → Bool) (inner outer : List Char) : Prop where
  head : ∀ c ∈ inner.head?, p c = false
  last : ∀ c ∈ inner.getLast?, p c = false
  around : ∃ before after, (∀ c ∈ before, p c = true) ∧ (∀ c ∈ after, p c = true) ∧
    outer = before ++ (inner ++ after)

/-- What is left of a text when it is stripped stands within it. -/
theorem within_dropEndWhile (p : Char → Bool) (cs : List Char) :
    Within p (dropEndWhile p (cs.dropWhile p)) cs where
  head c hc := by
    obtain ⟨after, hafter⟩ : dropEndWhile p (cs.dropWhile p) <+: cs.dropWhile p := by
      rw [dropEndWhile_eq_rdropWhile]
      exact List.rdropWhile_prefix p _
    have hhead : (cs.dropWhile p).head? = some c := by
      rw [← hafter, List.head?_append, Option.mem_def.1 hc, Option.some_or]
    simpa [hhead] using List.head?_dropWhile_not p cs
  last c hc := by
    rw [dropEndWhile_eq_rdropWhile] at hc
    obtain ⟨hne, rfl⟩ := List.mem_getLast?_eq_getLast hc
    simpa using List.rdropWhile_last_not p (cs.dropWhile p) hne
  around := by
    refine ⟨cs.takeWhile p, (cs.dropWhile p).rtakeWhile p, ?_, ?_, ?_⟩
    · exact fun c hc ↦ List.mem_takeWhile_imp hc
    · exact fun c hc ↦ List.mem_rtakeWhile_imp hc
    · rw [dropEndWhile_eq_rdropWhile, List.rdropWhile_append_rtakeWhile,
        List.takeWhile_append_dropWhile]

/-- Stripping a text finds what stands within it. -/
theorem Within.dropEndWhile_eq {p : Char → Bool} {inner outer : List Char}
    (h : Within p inner outer) : dropEndWhile p (outer.dropWhile p) = inner := by
  obtain ⟨before, after, hbefore, hafter, rfl⟩ := h.around
  rw [List.dropWhile_append_of_pos hbefore]
  cases inner with
  | nil =>
    have hnone : after.dropWhile p = [] := List.dropWhile_eq_nil_iff.2 hafter
    rw [List.nil_append, hnone, dropEndWhile]
  | cons c rest =>
    have hc : ¬ p c = true := by simp [h.head c rfl]
    rw [List.cons_append, List.dropWhile_cons_of_neg hc, ← List.cons_append,
      dropEndWhile_append hafter, dropEndWhile_eq_rdropWhile, List.rdropWhile_eq_self_iff]
    intro hne
    simp [h.last _ (List.getLast?_eq_some_getLast hne)]

theorem within_iff {p : Char → Bool} {inner outer : List Char} :
    Within p inner outer ↔ dropEndWhile p (outer.dropWhile p) = inner :=
  ⟨Within.dropEndWhile_eq, fun h ↦ h ▸ within_dropEndWhile p outer⟩

/-- A text is what trimming leaves of it, with blanks on both sides. -/
theorem exists_blanks_trim (cs : List Char) :
    ∃ before after, (∀ c ∈ before, isBlank c = true) ∧ (∀ c ∈ after, isBlank c = true) ∧
      cs = before ++ (trim cs ++ after) :=
  (within_dropEndWhile isBlank cs).around

/-- Trimming removes blanks only. -/
theorem mem_trim_of_mem {cs : List Char} {c : Char} (h : c ∈ cs) :
    isBlank c = true ∨ c ∈ trim cs := by
  obtain ⟨before, after, hbefore, hafter, hcs⟩ := exists_blanks_trim cs
  rw [hcs] at h
  rcases List.mem_append.1 h with hmem | hmem
  · exact .inl (hbefore c hmem)
  · exact (List.mem_append.1 hmem).symm.imp_left (hafter c)

/-- Blanks after a text without blanks at its ends are all that trimming removes. -/
theorem Trimmed.trim_append {cs after : List Char} (h : Trimmed cs)
    (hafter : ∀ c ∈ after, isBlank c = true) : trim (cs ++ after) = cs :=
  Within.dropEndWhile_eq ⟨h.head, h.last, [], after, List.forall_mem_nil _, hafter, rfl⟩

theorem Trimmed.trim_eq {cs : List Char} (h : Trimmed cs) : trim cs = cs := by
  simpa using h.trim_append (List.forall_mem_nil _)

theorem trimmed_trim (cs : List Char) : Trimmed (trim cs) where
  head := (within_dropEndWhile isBlank cs).head
  last := (within_dropEndWhile isBlank cs).last

/-- What stands between two texts does not matter for the blanks at the ends. -/
theorem Trimmed.append {front back : List Char} (hfront : Trimmed front) (hback : Trimmed back)
    (hfront_ne : front ≠ []) (hback_ne : back ≠ []) (middle : List Char) :
    Trimmed (front ++ (middle ++ back)) where
  head c hc := by
    rw [List.head?_append_of_ne_nil front hfront_ne] at hc
    exact hfront.head c hc
  last c hc := by
    rw [← List.append_assoc, List.getLast?_append_of_ne_nil _ hback_ne] at hc
    exact hback.last c hc

theorem trimmed_of_forall {cs : List Char} (h : ∀ c ∈ cs, isBlank c = false) : Trimmed cs where
  head c hc := h c (List.mem_of_mem_head? hc)
  last c hc := h c (List.mem_of_mem_getLast? hc)

/-! ## Brackets -/

variable {change : Char → Int} {sep : Char}

/-- Whether a text that is read on from a bracket depth closes no bracket that is not open, and in
the end has closed all of them. -/
def balancedFrom (change : Char → Int) (depth : Int) : List Char → Bool
  | [] => depth == 0
  | c :: rest => 0 ≤ depth + change c && balancedFrom change (depth + change c) rest

/-- The characters of a text, read on from a bracket depth, that stand outside all brackets. The
brackets themselves do not count. -/
def outsideFrom (change : Char → Int) (depth : Int) : List Char → List Char
  | [] => []
  | c :: rest =>
    if change c = 0 ∧ depth = 0 then c :: outsideFrom change depth rest
    else outsideFrom change (depth + change c) rest

/-- A text that splitting leaves whole: its brackets are balanced and the separator does not stand
outside of them. -/
structure Whole (change : Char → Int) (sep : Char) (cs : List Char) : Prop where
  balanced : balancedFrom change 0 cs = true
  outside : sep ∉ outsideFrom change 0 cs

instance (change : Char → Int) (sep : Char) (cs : List Char) : Decidable (Whole change sep cs) :=
  decidable_of_iff (balancedFrom change 0 cs = true ∧ sep ∉ outsideFrom change 0 cs)
    ⟨fun ⟨hbalanced, houtside⟩ ↦ ⟨hbalanced, houtside⟩, fun h ↦ ⟨h.balanced, h.outside⟩⟩

/-- A balanced text can be read below any depth, and what follows is read from that depth on. -/
theorem balancedFrom_append {depth inner : Int} {cs rest : List Char} (hdepth : 0 ≤ depth)
    (hcs : balancedFrom change inner cs = true) (hrest : balancedFrom change depth rest = true) :
    balancedFrom change (depth + inner) (cs ++ rest) = true := by
  induction cs generalizing inner with
  | nil =>
    have hinner : inner = 0 := by simpa [balancedFrom] using hcs
    simpa [hinner] using hrest
  | cons c cs ih =>
    simp only [balancedFrom, Bool.and_eq_true, decide_eq_true_eq, List.cons_append] at hcs ⊢
    have hstep := ih hcs.2
    rw [← Int.add_assoc] at hstep
    exact ⟨by omega, hstep⟩

theorem outsideFrom_append (depth : Int) {inner : Int} {cs : List Char}
    (hcs : balancedFrom change inner cs = true) (rest : List Char) :
    outsideFrom change (depth + inner) (cs ++ rest) =
      outsideFrom change (depth + inner) cs ++ outsideFrom change depth rest := by
  induction cs generalizing inner with
  | nil =>
    have hinner : inner = 0 := by simpa [balancedFrom] using hcs
    simp [hinner, outsideFrom]
  | cons c cs ih =>
    simp only [balancedFrom, Bool.and_eq_true] at hcs
    have hstep := ih hcs.2
    rw [← Int.add_assoc] at hstep
    rw [List.cons_append, outsideFrom, outsideFrom]
    split
    · next hc => simpa [hc.1] using hstep
    · exact hstep

/-- Nothing of a balanced text stands outside the brackets around it. -/
theorem outsideFrom_of_pos {depth inner : Int} {cs : List Char} (hdepth : 0 < depth)
    (hinner : 0 ≤ inner) (hcs : balancedFrom change inner cs = true) :
    outsideFrom change (depth + inner) cs = [] := by
  induction cs generalizing inner with
  | nil => rfl
  | cons c cs ih =>
    simp only [balancedFrom, Bool.and_eq_true, decide_eq_true_eq] at hcs
    have hstep := ih hcs.1 hcs.2
    rw [← Int.add_assoc] at hstep
    rw [outsideFrom, if_neg (by omega), hstep]

theorem Whole.append {front back : List Char} (hfront : Whole change sep front)
    (hback : Whole change sep back) : Whole change sep (front ++ back) where
  balanced := balancedFrom_append Int.le_rfl hfront.balanced hback.balanced
  outside := by
    have hsplit := outsideFrom_append 0 hfront.balanced back
    rw [Int.zero_add] at hsplit
    rw [hsplit, List.mem_append]
    exact not_or_intro hfront.outside hback.outside

theorem whole_of_forall {cs : List Char} (h : ∀ c ∈ cs, change c = 0 ∧ c ≠ sep) :
    Whole change sep cs := by
  induction cs with
  | nil => exact ⟨rfl, List.not_mem_nil⟩
  | cons c cs ih =>
    obtain ⟨hchange, hne⟩ := h c List.mem_cons_self
    obtain ⟨hbalanced, houtside⟩ := ih fun d hd ↦ h d (List.mem_cons_of_mem _ hd)
    constructor
    · simpa [balancedFrom, hchange] using hbalanced
    · simpa [outsideFrom, hchange, hne.symm] using houtside

/-- A balanced text in brackets is whole whatever the separator is. -/
theorem whole_of_brackets {opening closing : Char} {cs : List Char} (hopening : change opening = 1)
    (hclosing : change closing = -1) (hcs : balancedFrom change 0 cs = true) :
    Whole change sep (opening :: (cs ++ [closing])) where
  balanced := by
    have hrest : balancedFrom change 1 [closing] = true := by simp [balancedFrom, hclosing]
    have hinside := balancedFrom_append Int.one_nonneg hcs hrest
    simpa [balancedFrom, hopening] using hinside
  outside := by
    have hsplit := outsideFrom_append 1 hcs [closing]
    rw [outsideFrom_of_pos Int.zero_lt_one Int.le_rfl hcs] at hsplit
    simp only [Int.add_zero, List.nil_append] at hsplit
    simp [outsideFrom, hopening, hclosing, hsplit]

/-! ## Splitting -/

theorem piecesFrom_ne_nil (change : Char → Int) (sep : Char) (depth : Int) (cs : List Char) :
    piecesFrom change sep depth cs ≠ [] := by
  intro hnil
  have hweight := weight_piecesFrom change sep depth cs
  rw [hnil] at hweight
  exact absurd hweight (by simp [weight])

/-- A character that does not separate goes to the first piece of what follows. -/
theorem piecesFrom_cons {depth : Int} {c : Char} (h : ¬ (change c = 0 ∧ c = sep ∧ depth = 0))
    (rest : List Char) :
    piecesFrom change sep depth (c :: rest) =
      (piecesFrom change sep (depth + change c) rest).modifyHead (c :: ·) := by
  rw [piecesFrom, if_neg (by simpa [and_assoc] using h)]
  cases hrest : piecesFrom change sep (depth + change c) rest with
  | nil => exact absurd hrest (piecesFrom_ne_nil _ _ _ _)
  | cons piece pieces => rfl

theorem piecesFrom_sep (hsep : change sep = 0) (rest : List Char) :
    piecesFrom change sep 0 (sep :: rest) = [] :: piecesFrom change sep 0 rest := by
  simp [piecesFrom, hsep]

/-- A text with one piece is that piece. -/
theorem eq_of_piecesFrom_eq_singleton {depth : Int} {cs piece : List Char}
    (h : piecesFrom change sep depth cs = [piece]) : piece = cs := by
  induction cs generalizing depth piece with
  | nil => simpa [piecesFrom] using h.symm
  | cons c rest ih =>
    by_cases hsep : change c = 0 ∧ c = sep ∧ depth = 0
    · obtain ⟨hchange, rfl, rfl⟩ := hsep
      rw [piecesFrom_sep hchange] at h
      exact absurd (List.cons.inj h).2 (piecesFrom_ne_nil _ _ _ _)
    · rw [piecesFrom_cons hsep] at h
      cases hrest : piecesFrom change sep (depth + change c) rest with
      | nil => exact absurd hrest (piecesFrom_ne_nil _ _ _ _)
      | cons first others =>
        rw [hrest, List.modifyHead_cons, List.cons.injEq] at h
        obtain ⟨rfl, rfl⟩ := h
        rw [ih hrest]

theorem piecesFrom_of_notMem (depth : Int) {cs : List Char} (h : sep ∉ cs) :
    piecesFrom change sep depth cs = [cs] := by
  induction cs generalizing depth with
  | nil => rfl
  | cons c rest ih =>
    have hc : ¬ (change c = 0 ∧ c = sep ∧ depth = 0) := fun hsep ↦ h (by simp [hsep.2.1])
    rw [piecesFrom_cons hc, ih _ fun hrest ↦ h (List.mem_cons_of_mem _ hrest)]
    rfl

/-- Every character of a text stands in a piece or separates. -/
theorem mem_piece_of_mem (change : Char → Int) (sep : Char) (depth : Int) {cs : List Char}
    {c : Char} (h : c ∈ cs) : c = sep ∨ ∃ piece ∈ piecesFrom change sep depth cs, c ∈ piece := by
  induction cs generalizing depth with
  | nil => simp at h
  | cons d rest ih =>
    by_cases hsep : change d = 0 ∧ d = sep ∧ depth = 0
    · obtain ⟨hchange, rfl, rfl⟩ := hsep
      rw [piecesFrom_sep hchange]
      rcases List.mem_cons.1 h with rfl | hlater
      · exact .inl rfl
      · refine (ih 0 hlater).imp_right ?_
        rintro ⟨piece, hpiece, hc⟩
        exact ⟨piece, List.mem_cons_of_mem _ hpiece, hc⟩
    · obtain ⟨first, others, hpieces⟩ :=
        List.exists_cons_of_ne_nil (piecesFrom_ne_nil change sep (depth + change d) rest)
      rw [piecesFrom_cons hsep, hpieces, List.modifyHead_cons]
      rcases List.mem_cons.1 h with rfl | hlater
      · exact .inr ⟨_, List.mem_cons_self, List.mem_cons_self⟩
      · refine (ih (depth + change d) hlater).imp_right ?_
        rw [hpieces]
        rintro ⟨piece, hpiece, hc⟩
        rcases List.mem_cons.1 hpiece with rfl | hpiece
        · exact ⟨_, List.mem_cons_self, List.mem_cons_of_mem _ hc⟩
        · exact ⟨piece, List.mem_cons_of_mem _ hpiece, hc⟩

/-- The whole of a text goes to the first piece of what follows. -/
theorem piecesFrom_append {depth : Int} {cs : List Char}
    (hbalanced : balancedFrom change depth cs = true) (houtside : sep ∉ outsideFrom change depth cs)
    (rest : List Char) :
    piecesFrom change sep depth (cs ++ rest) =
      (piecesFrom change sep 0 rest).modifyHead (cs ++ ·) := by
  induction cs generalizing depth with
  | nil =>
    have hdepth : depth = 0 := by simpa [balancedFrom] using hbalanced
    rw [hdepth]
    exact (congrFun List.modifyHead_id _).symm
  | cons c cs ih =>
    simp only [balancedFrom, Bool.and_eq_true] at hbalanced
    have hkept : ¬ (change c = 0 ∧ c = sep ∧ depth = 0) := by
      rintro ⟨hchange, rfl, rfl⟩
      simp [outsideFrom, hchange] at houtside
    have hlater : sep ∉ outsideFrom change (depth + change c) cs := by
      intro hmem
      apply houtside
      rw [outsideFrom]
      split
      · next hc => exact List.mem_cons_of_mem _ (by simpa [hc.1] using hmem)
      · exact hmem
    rw [List.cons_append, piecesFrom_cons hkept, ih hbalanced.2 hlater, List.modifyHead_modifyHead]
    rfl

theorem Whole.piecesFrom_append {cs : List Char} (h : Whole change sep cs) (rest : List Char) :
    piecesFrom change sep 0 (cs ++ rest) = (piecesFrom change sep 0 rest).modifyHead (cs ++ ·) :=
  Text.piecesFrom_append h.balanced h.outside rest

/-! ## Joining -/

/-- A text joins pieces with a separator that may have any blanks around it. -/
inductive Spaced (sep : Char) : List (List Char) → List Char → Prop
  | nil : Spaced sep [] []
  | single (piece : List Char) : Spaced sep [piece] piece
  | cons (piece before after : List Char) {next text : List Char} {pieces : List (List Char)}
      (hbefore : ∀ c ∈ before, isBlank c = true) (hafter : ∀ c ∈ after, isBlank c = true)
      (h : Spaced sep (next :: pieces) text) :
      Spaced sep (piece :: next :: pieces) (piece ++ before ++ sep :: (after ++ text))

/-- The separator is no bracket and no blank, and blanks are no brackets. -/
structure Separates (change : Char → Int) (sep : Char) : Prop where
  change_sep : change sep = 0
  blank_sep : isBlank sep = false
  change_blank : ∀ c, isBlank c = true → change c = 0

namespace Separates

theorem whole_of_blank (hs : Separates change sep) {cs : List Char}
    (h : ∀ c ∈ cs, isBlank c = true) : Whole change sep cs := by
  apply whole_of_forall
  intro c hc
  refine ⟨hs.change_blank c (h c hc), ?_⟩
  rintro rfl
  exact absurd (h c hc) (by simp [hs.blank_sep])

theorem map_trim_modifyHead {before : List Char} (hbefore : ∀ c ∈ before, isBlank c = true)
    (pieces : List (List Char)) :
    (pieces.modifyHead (before ++ ·)).map trim = pieces.map trim := by
  cases pieces with
  | nil => rfl
  | cons piece pieces => simp [trim_append_left hbefore]

/-- What was joined comes apart again. -/
theorem trimmedPieces_of_spaced (hs : Separates change sep) {pieces : List (List Char)}
    {text : List Char} (htext : Spaced sep pieces text) (hne : pieces ≠ [])
    (htrimmed : ∀ piece ∈ pieces, Trimmed piece)
    (hwhole : ∀ piece ∈ pieces, Whole change sep piece) :
    trimmedPieces change sep text = pieces := by
  induction htext with
  | nil => exact absurd rfl hne
  | single piece =>
    have hpieces := (hwhole piece List.mem_cons_self).piecesFrom_append []
    rw [List.append_nil] at hpieces
    rw [trimmedPieces, hpieces]
    simp [piecesFrom, (htrimmed piece List.mem_cons_self).trim_eq]
  | @cons piece before after next text pieces hbefore hafter _ ih =>
    -- Blanks before the separator end the first piece, and blanks after it start the next one.
    have hfirst : Whole change sep (piece ++ before) :=
      (hwhole piece List.mem_cons_self).append (hs.whole_of_blank hbefore)
    have hrest := ih (by simp) (fun p hp ↦ htrimmed p (List.mem_cons_of_mem _ hp))
      fun p hp ↦ hwhole p (List.mem_cons_of_mem _ hp)
    have hpieces : piecesFrom change sep 0 (piece ++ before ++ sep :: (after ++ text)) =
        (piece ++ before) :: (piecesFrom change sep 0 text).modifyHead (after ++ ·) := by
      rw [hfirst.piecesFrom_append, piecesFrom_sep hs.change_sep,
        (hs.whole_of_blank hafter).piecesFrom_append]
      simp
    rw [trimmedPieces, hpieces, List.map_cons, map_trim_modifyHead hafter,
      (htrimmed piece List.mem_cons_self).trim_append hbefore]
    exact congrArg (piece :: ·) hrest

theorem piecesFrom_of_blank (hs : Separates change sep) (depth : Int) {cs : List Char}
    (h : ∀ c ∈ cs, isBlank c = true) : piecesFrom change sep depth cs = [cs] := by
  induction cs generalizing depth with
  | nil => rfl
  | cons c rest ih =>
    have hblank := h c List.mem_cons_self
    have hne : ¬ (change c = 0 ∧ c = sep ∧ depth = 0) := by
      rintro ⟨_, rfl, _⟩
      simp [hs.blank_sep] at hblank
    rw [piecesFrom_cons hne, ih _ fun d hd ↦ h d (List.mem_cons_of_mem _ hd)]
    rfl

/-- Blanks at the end of a text go to its last piece, at whatever depth that piece ends. -/
theorem exists_piecesFrom_append (hs : Separates change sep) (depth : Int) (cs : List Char)
    {after : List Char} (hafter : ∀ c ∈ after, isBlank c = true) :
    ∃ front last, piecesFrom change sep depth cs = front ++ [last] ∧
      piecesFrom change sep depth (cs ++ after) = front ++ [last ++ after] := by
  induction cs generalizing depth with
  | nil => exact ⟨[], [], rfl, hs.piecesFrom_of_blank depth hafter⟩
  | cons c rest ih =>
    by_cases hsep : change c = 0 ∧ c = sep ∧ depth = 0
    · obtain ⟨hchange, rfl, rfl⟩ := hsep
      obtain ⟨front, last, hrest, happend⟩ := ih 0
      refine ⟨[] :: front, last, ?_, ?_⟩
      · rw [piecesFrom_sep hchange, hrest, List.cons_append]
      · rw [List.cons_append, piecesFrom_sep hchange, happend, List.cons_append]
    · obtain ⟨front, last, hrest, happend⟩ := ih (depth + change c)
      rw [List.cons_append, piecesFrom_cons hsep, piecesFrom_cons hsep, hrest, happend]
      cases front with
      | nil => exact ⟨[], c :: last, rfl, rfl⟩
      | cons first others => exact ⟨(c :: first) :: others, last, rfl, rfl⟩

/-- Blanks at the ends of a text do not matter for its trimmed pieces. -/
theorem trimmedPieces_trim (hs : Separates change sep) (cs : List Char) :
    trimmedPieces change sep (trim cs) = trimmedPieces change sep cs := by
  obtain ⟨before, after, hbefore, hafter, hcs⟩ := exists_blanks_trim cs
  obtain ⟨front, last, htrim, happend⟩ := hs.exists_piecesFrom_append 0 (trim cs) hafter
  have hpieces : trimmedPieces change sep cs =
      (piecesFrom change sep 0 (trim cs ++ after)).map trim := by
    conv_lhs => rw [hcs]
    rw [trimmedPieces, (hs.whole_of_blank hbefore).piecesFrom_append, map_trim_modifyHead hbefore]
  rw [hpieces, happend, trimmedPieces, htrim]
  simp [trim_append_right hafter]

/-- A joined text is whole for another separator if its pieces are. -/
theorem whole_of_spaced {other : Char} (hs : Separates change sep) (ho : Separates change other)
    (hne : sep ≠ other) {pieces : List (List Char)} {text : List Char}
    (htext : Spaced sep pieces text) (hwhole : ∀ piece ∈ pieces, Whole change other piece) :
    Whole change other text := by
  induction htext with
  | nil => exact whole_of_forall (by simp)
  | single piece => exact hwhole piece List.mem_cons_self
  | @cons piece before after next text pieces hbefore hafter _ ih =>
    have hpiece := hwhole piece List.mem_cons_self
    have hseparator : Whole change other [sep] :=
      whole_of_forall (by simpa using ⟨hs.change_sep, hne⟩)
    have hrest := ih fun p hp ↦ hwhole p (List.mem_cons_of_mem _ hp)
    exact (hpiece.append (ho.whole_of_blank hbefore)).append
      (hseparator.append ((ho.whole_of_blank hafter).append hrest))

end Separates

theorem Spaced.ne_nil {piece text : List Char} {pieces : List (List Char)}
    (h : Spaced sep (piece :: pieces) text) (hpiece : piece ≠ []) : text ≠ [] := by
  cases h with
  | single => exact hpiece
  | cons => simp

/-- A joined text has no blanks at its ends if its pieces have none and none of them is empty. -/
theorem Spaced.trimmed {pieces : List (List Char)} {text : List Char} (h : Spaced sep pieces text)
    (hne : ∀ piece ∈ pieces, piece ≠ []) (htrimmed : ∀ piece ∈ pieces, Trimmed piece) :
    Trimmed text := by
  induction h with
  | nil => exact trimmed_of_forall (by simp)
  | single piece => exact htrimmed piece List.mem_cons_self
  | @cons piece before after next text pieces _ _ hnext ih =>
    have hrest : Trimmed text := ih (fun p hp ↦ hne p (List.mem_cons_of_mem _ hp))
      fun p hp ↦ htrimmed p (List.mem_cons_of_mem _ hp)
    have hrest_ne : text ≠ [] := hnext.ne_nil (hne next (by simp))
    have hends := (htrimmed piece List.mem_cons_self).append hrest (hne piece List.mem_cons_self)
      hrest_ne (before ++ sep :: after)
    simpa using hends

end ApiAtlas.Text

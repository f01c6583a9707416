import ApiAtlas.Route.Template
import ApiAtlas.Proofs.Splitting

/-!
# Path templates in normal form

A path is written with slashes between its segments, and a placeholder has seven ways to be written.
The reader of a path never looks beyond a slash outside of braces, so a segment is normalized on its
own, whatever comes before and after it (`Normalizes`). Joining and splitting then carry laws of
segments over to paths: all ways to write a placeholder have the same normal form, the normal form
is left as it is, and its names are those that were written.
-/

namespace ApiAtlas.Text

theorem splitWhere_eq_splitOnP {α : Type} (p : α → Bool) (l : List α) :
    splitWhere p l = l.splitOnP p := by
  induction l with
  | nil => rw [splitWhere, List.splitOnP_nil]
  | cons a rest ih =>
    rw [splitWhere, List.splitOnP_cons_eq_if_modifyHead, ih]
    split
    · rfl
    · cases hrest : rest.splitOnP p with
      | nil => exact absurd hrest (List.splitOnP_ne_nil p rest)
      | cons piece pieces => rfl

/-- Pieces without the separator come apart again. -/
theorem splitOn_joinWith {sep : Char} {pieces : List (List Char)} (hne : pieces ≠ [])
    (h : ∀ piece ∈ pieces, sep ∉ piece) : splitOn sep (joinWith [sep] pieces) = pieces := by
  rw [splitOn, splitWhere_eq_splitOnP, ← List.splitOn_eq_splitOnP, joinWith]
  exact List.splitOn_intercalate sep h hne

end ApiAtlas.Text

namespace ApiAtlas.Template

open Text

/-! ## Names -/

/-- The characters that mean something in a path or in a placeholder. -/
def marks : List Char :=
  ['/', '\x7b', '\x7d', '<', '>', ':', '*', '.']

/-- A name of a placeholder: letters, digits, underscores, or whatever else is neither a blank nor a
mark. -/
structure IsName (name : List Char) : Prop where
  ne_nil : name ≠ []
  isBlank_eq : ∀ c ∈ name, isBlank c = false
  notMem_marks : ∀ c ∈ name, c ∉ marks

-- The characters are checked along the name, not all characters that there are.
instance (name : List Char) : Decidable (IsName name) :=
  decidable_of_iff (name ≠ [] ∧ name.all (fun c ↦ !isBlank c) ∧ name.all fun c ↦ c ∉ marks)
    ⟨fun ⟨hne, hblank, hmarks⟩ ↦ ⟨hne, by simpa using hblank, by simpa using hmarks⟩,
      fun h ↦ ⟨h.ne_nil, by simpa using h.isBlank_eq, by simpa using h.notMem_marks⟩⟩

namespace IsName

variable {name : List Char}

theorem notMem (h : IsName name) {mark : Char} (hmark : mark ∈ marks) : mark ∉ name :=
  fun hmem ↦ h.notMem_marks mark hmem hmark

theorem dropDots_reverse (h : IsName name) : dropDots name.reverse = name.reverse := by
  cases hlist : name.reverse with
  | nil => rfl
  | cons c rest =>
    have hdot : c ≠ '.' := by
      rintro rfl
      exact h.notMem (by decide) (List.mem_reverse.1 (hlist ▸ List.mem_cons_self))
    rw [dropDots]
    intro _ hpair
    exact absurd (List.cons.inj hpair).1 hdot

theorem takeWhile_append (h : IsName name) (after : List Char) :
    ((name ++ after).takeWhile fun c ↦ c != ':') =
      name ++ after.takeWhile fun c ↦ c != ':' := by
  apply List.takeWhile_append_of_pos
  intro c hc
  have hcolon : ':' ∉ name := h.notMem (by decide)
  simpa using fun heq : c = ':' ↦ hcolon (heq ▸ hc)

theorem trimLead_append (h : IsName name) {stars : List Char} (hstars : ∀ c ∈ stars, c = '*')
    (after : List Char) : trimLead '*' (stars ++ (name ++ after)) = name ++ after := by
  rw [trimLead, List.dropWhile_append_of_pos (by simpa using hstars)]
  cases hname : name with
  | nil => exact absurd hname h.ne_nil
  | cons c rest =>
    have hstar : c ≠ '*' := by
      rintro rfl
      exact h.notMem (by decide) (hname ▸ List.mem_cons_self)
    simp [hstar]

/-- Stars in front of a name are dropped, and so is what the search for a colon and for points
leaves behind it. -/
theorem placeholderName_eq (h : IsName name) {stars after : List Char}
    (hstars : ∀ c ∈ stars, c = '*')
    (hafter : dropDots (name ++ after.takeWhile fun c ↦ c != ':').reverse = name.reverse) :
    placeholderName (stars ++ (name ++ after)) = name := by
  have htrimmed : Trimmed name := trimmed_of_forall h.isBlank_eq
  simp only [placeholderName, h.trimLead_append hstars, h.takeWhile_append, hafter,
    List.reverse_reverse, htrimmed.trim_eq]

end IsName

/-! ## Parts of a path -/

theorem normalizeFrom_slash (isStart : Bool) (rest : List Char) :
    normalizeFrom (.text isStart) ('/' :: rest) = '/' :: normalizeFrom (.text true) rest := by
  simp [normalizeFrom]

/-- Plain text inside a segment is kept. -/
theorem normalizeFrom_text {cs : List Char} (h : ∀ c ∈ cs, c ∉ ['/', '\x7b', '<'])
    {isStart : Bool} (hstart : isStart = true → ∀ c ∈ cs.head?, c ∉ [':', '*'])
    (rest : List Char) :
    normalizeFrom (.text isStart) (cs ++ rest) =
      cs ++ normalizeFrom (.text (isStart && cs.isEmpty)) rest := by
  induction cs generalizing isStart with
  | nil => simp
  | cons c cs ih =>
    have hc := h c List.mem_cons_self
    have hrest :
        normalizeFrom (.text false) (cs ++ rest) = cs ++ normalizeFrom (.text false) rest :=
      ih (fun d hd ↦ h d (List.mem_cons_of_mem _ hd)) (by simp)
    simp only [List.mem_cons, not_or] at hc
    have hmark : (isStart && (c == ':' || c == '*')) = false := by
      cases isStart with
      | false => rfl
      | true => simpa using hstart rfl c rfl
    have hslash : (c == '/') = false := by simpa using hc.1
    rw [List.cons_append, normalizeFrom, hmark, hslash]
    simp [hc, hrest]

/-- How a character changes the number of open braces. -/
def braceChange (c : Char) : Int :=
  if c = '\x7b' then 1 else if c = '\x7d' then -1 else 0

/-- A text with balanced braces is read to its end inside braces. -/
theorem normalizeFrom_brace {depth : Nat} {cs : List Char}
    (h : balancedFrom braceChange depth cs = true) (seen rest : List Char) :
    normalizeFrom (.brace depth seen) (cs ++ rest) =
      normalizeFrom (.brace 0 (cs.reverse ++ seen)) rest := by
  induction cs generalizing depth seen with
  | nil =>
    have hdepth : depth = 0 := by simpa [balancedFrom] using h
    simp [hdepth]
  | cons c cs ih =>
    simp only [balancedFrom, Bool.and_eq_true, decide_eq_true_eq] at h
    rw [List.cons_append, List.reverse_cons, List.append_assoc, List.singleton_append]
    by_cases hopening : c = '\x7b'
    · have hstep : normalizeFrom (.brace depth seen) (c :: (cs ++ rest)) =
          normalizeFrom (.brace (depth + 1) (c :: seen)) (cs ++ rest) := by
        simp [normalizeFrom, hopening]
      rw [hstep]
      exact ih (by simpa [braceChange, hopening] using h.2) (c :: seen)
    · by_cases hclosing : c = '\x7d'
      · have hchange : braceChange c = -1 := by simp [hclosing, braceChange]
        rw [hchange] at h
        cases depth with
        | zero => exact absurd h.1 (by decide)
        | succ depth =>
          have hstep : normalizeFrom (.brace (depth + 1) seen) (c :: (cs ++ rest)) =
              normalizeFrom (.brace depth (c :: seen)) (cs ++ rest) := by
            simp [normalizeFrom, hclosing]
          rw [hstep]
          exact ih (by simpa [Int.add_assoc] using h.2) (c :: seen)
      · have hstep : normalizeFrom (.brace depth seen) (c :: (cs ++ rest)) =
            normalizeFrom (.brace depth (c :: seen)) (cs ++ rest) := by
          simp [normalizeFrom, hopening, hclosing]
        rw [hstep]
        exact ih (by simpa [braceChange, hopening, hclosing] using h.2) (c :: seen)

theorem normalizeFrom_angle {cs : List Char} (h : '>' ∉ cs) (seen rest : List Char) :
    normalizeFrom (.angle seen) (cs ++ '>' :: rest) =
      placeholder (seen.reverse ++ cs) ++ normalizeFrom (.text false) rest := by
  induction cs generalizing seen with
  | nil => simp [normalizeFrom]
  | cons c cs ih =>
    simp only [List.mem_cons, not_or] at h
    have hc : c ≠ '>' := fun hc ↦ h.1 hc.symm
    simpa [normalizeFrom, hc] using ih h.2 (c :: seen)

/-- What may follow a segment: nothing, or a slash and further segments. -/
def IsTail (rest : List Char) : Prop :=
  ∀ c ∈ rest.head?, c = '/'

theorem isTail_nil : IsTail [] := by
  simp [IsTail]

theorem isTail_slash (rest : List Char) : IsTail ('/' :: rest) := by
  simp [IsTail]

/-- Before the end of a segment it does not matter whether its start was seen. -/
theorem IsTail.normalizeFrom_eq {rest : List Char} (h : IsTail rest) (isStart other : Bool) :
    normalizeFrom (.text isStart) rest = normalizeFrom (.text other) rest := by
  cases rest with
  | nil => simp [normalizeFrom]
  | cons c rest =>
    obtain rfl := h c rfl
    rw [normalizeFrom_slash, normalizeFrom_slash]

theorem normalizeFrom_segment {cs rest : List Char} (h : '/' ∉ cs) (hrest : IsTail rest)
    (seen : List Char) :
    normalizeFrom (.segment seen) (cs ++ rest) =
      placeholder (seen.reverse ++ cs) ++ normalizeFrom (.text false) rest := by
  induction cs generalizing seen with
  | nil =>
    cases rest with
    | nil => simp [normalizeFrom]
    | cons c rest =>
      obtain rfl := hrest c rfl
      simp [normalizeFrom]
  | cons c cs ih =>
    simp only [List.mem_cons, not_or] at h
    have hc : c ≠ '/' := fun hc ↦ h.1 hc.symm
    simpa [normalizeFrom, hc] using ih h.2 (c :: seen)

/-- A placeholder between braces is normalized wherever it stands. -/
theorem normalizeFrom_braces (isStart : Bool) {cs : List Char}
    (h : balancedFrom braceChange 0 cs = true) (rest : List Char) :
    normalizeFrom (.text isStart) ('\x7b' :: (cs ++ '\x7d' :: rest)) =
      placeholder cs ++ normalizeFrom (.text false) rest :=
  calc
    _ = normalizeFrom (.brace 0 []) (cs ++ '\x7d' :: rest) := by simp [normalizeFrom]
    _ = normalizeFrom (.brace 0 (cs.reverse ++ [])) ('\x7d' :: rest) :=
      normalizeFrom_brace h [] _
    _ = _ := by simp [normalizeFrom]

/-! ## Segments -/

/-- A text is normalized to another one wherever it stands as a segment. -/
def Normalizes (cs normal : List Char) : Prop :=
  ∀ rest, IsTail rest →
    normalizeFrom (.text true) (cs ++ rest) = normal ++ normalizeFrom (.text true) rest

/-- Segments are normalized one by one. -/
theorem normalizeFrom_joinWith {α : Type} {text normal : α → List Char} {segments : List α}
    (h : ∀ s ∈ segments, Normalizes (text s) (normal s)) :
    normalizeFrom (.text true) (joinWith ['/'] (segments.map text)) =
      joinWith ['/'] (segments.map normal) := by
  unfold joinWith
  induction segments with
  | nil => simp [normalizeFrom]
  | cons s segments ih =>
    have hs := h s List.mem_cons_self
    have hrest := ih fun other hother ↦ h other (List.mem_cons_of_mem _ hother)
    cases segments with
    | nil => simpa [normalizeFrom] using hs [] isTail_nil
    | cons next segments =>
      simp only [List.map_cons, List.intercalate_cons_cons, List.append_assoc,
        List.singleton_append] at hrest ⊢
      rw [hs _ (isTail_slash _), normalizeFrom_slash, hrest]

/-- A slash is put in front of a path unless it starts with one. -/
theorem normalizeChars_eq (cs : List Char) :
    normalizeChars cs = '/' :: normalizeFrom (.text true) cs ∨
      normalizeChars cs = normalizeFrom (.text true) cs := by
  unfold normalizeChars
  split
  · exact .inr rfl
  · exact .inl rfl

/-- The first placeholder of a segment is looked for behind text without braces. -/
theorem segmentParam?_append {cs : List Char} (h : '\x7b' ∉ cs) (rest : List Char) :
    segmentParam? (cs ++ rest) = segmentParam? rest := by
  unfold segmentParam?
  rw [List.dropWhile_append_of_pos]
  intro c hc
  have hbrace : c ≠ '\x7b' := fun heq ↦ h (heq ▸ hc)
  simpa using hbrace

theorem segmentParam?_of_notMem {cs : List Char} (h : '\x7b' ∉ cs) : segmentParam? cs = none := by
  have happend := segmentParam?_append h []
  rw [List.append_nil] at happend
  exact happend

theorem segmentParam?_braces {name : List Char} (h : '\x7d' ∉ name) (rest : List Char) :
    segmentParam? ('\x7b' :: (name ++ '\x7d' :: rest)) = some name := by
  have hname : ∀ c ∈ name, (c != '\x7d') = true := by
    intro c hc
    have hbrace : c ≠ '\x7d' := fun heq ↦ h (heq ▸ hc)
    simpa using hbrace
  simp [segmentParam?, List.takeWhile_append_of_pos hname]

/-- The names of joined segments are those of the segments, and a slash in front adds none. -/
theorem params_joinWith {pieces : List (List Char)} (h : ∀ piece ∈ pieces, '/' ∉ piece) :
    params (String.ofList (joinWith ['/'] pieces)) =
        (pieces.filterMap segmentParam?).map String.ofList ∧
      params (String.ofList ('/' :: joinWith ['/'] pieces)) =
        (pieces.filterMap segmentParam?).map String.ofList := by
  have hnames : (splitOn '/' (joinWith ['/'] pieces)).filterMap segmentParam? =
      pieces.filterMap segmentParam? := by
    cases pieces with
    | nil => rfl
    | cons piece pieces => rw [splitOn_joinWith (List.cons_ne_nil _ _) h]
  simp only [params, String.toList_ofList]
  exact ⟨congrArg _ hnames, congrArg _ hnames⟩

/-! ## Ways to write a placeholder -/

/-- The ways to write a placeholder. -/
inductive Style
  /-- `:id` -/
  | colon
  /-- `*rest` -/
  | star
  /-- `<id>` -/
  | angle
  /-- `<rest..>` -/
  | angleRest
  /-- `{id}` -/
  | brace
  /-- `{*rest}` -/
  | braceRest
  /-- `{id:[0-9]+}` -/
  | pattern (expression : List Char)
  deriving DecidableEq

/-- A segment of a path: literal text or one placeholder. -/
inductive Segment
  | literal (text : List Char)
  | placeholder (style : Style) (name : List Char)
  deriving DecidableEq

/-- A placeholder as it is written. -/
def Style.write (name : List Char) : Style → List Char
  | .colon => ':' :: name
  | .star => '*' :: name
  | .angle => '<' :: (name ++ ['>'])
  | .angleRest => '<' :: (name ++ ['.', '.', '>'])
  | .brace => '\x7b' :: (name ++ ['\x7d'])
  | .braceRest => '\x7b' :: '*' :: (name ++ ['\x7d'])
  | .pattern expression => '\x7b' :: (name ++ ':' :: (expression ++ ['\x7d']))

/-- Whether the braces of a pattern are balanced. -/
def Style.isBalanced : Style → Bool
  | .pattern expression => balancedFrom braceChange 0 expression
  | _ => true

namespace Segment

/-- A segment as it is written. -/
def text : Segment → List Char
  | .literal text => text
  | .placeholder style name => style.write name

/-- A segment with its placeholder between braces. -/
def normal : Segment → Segment
  | .literal text => .literal text
  | .placeholder _ name => .placeholder .brace name

/-- The name of the placeholder that a segment is. -/
def name? : Segment → Option (List Char)
  | .literal _ => none
  | .placeholder _ name => some name

/-- Literal text has no slash and starts no placeholder; a pattern has balanced braces. -/
def Regular : Segment → Prop
  | .literal text => (∀ c ∈ text, c ∉ ['/', '\x7b', '<']) ∧ ∀ c ∈ text.head?, c ∉ [':', '*']
  | .placeholder style name => IsName name ∧ style.isBalanced = true

instance : (s : Segment) → Decidable s.Regular
  | .literal text => decidable_of_iff
      (text.all (fun c ↦ c ∉ ['/', '\x7b', '<']) ∧ text.head?.all fun c ↦ c ∉ [':', '*'])
      (by simp [Regular, Option.all_eq_true])
  | .placeholder style name => inferInstanceAs (Decidable (IsName name ∧ style.isBalanced = true))

end Segment

namespace IsName

variable {name : List Char}

theorem balancedFrom_eq (h : IsName name) : balancedFrom braceChange 0 name = true := by
  have hwhole : Whole braceChange '/' name := by
    apply whole_of_forall
    intro c hc
    have hmarks := h.notMem_marks c hc
    simp only [marks, List.mem_cons, not_or] at hmarks
    simp [braceChange, hmarks]
  exact hwhole.balanced

/-- Of a placeholder with points or a pattern the name is kept. -/
theorem placeholder_eq (h : IsName name) {stars : List Char} (hstars : ∀ c ∈ stars, c = '*')
    {after : List Char} (hafter : after = [] ∨ after = ['.', '.'] ∨ after.head? = some ':') :
    placeholder (stars ++ (name ++ after)) = Style.brace.write name := by
  have hname : dropDots (name ++ after.takeWhile fun c ↦ c != ':').reverse = name.reverse := by
    rcases hafter with rfl | rfl | hcolon
    · simpa using h.dropDots_reverse
    · simpa [dropDots] using h.dropDots_reverse
    · cases after with
      | nil => simp at hcolon
      | cons c after =>
        obtain rfl : c = ':' := by simpa using hcolon
        simpa using h.dropDots_reverse
  rw [placeholder, h.placeholderName_eq hstars hname]
  rfl

/-- A placeholder takes up its whole segment, however it is written. -/
theorem normalizes_write (h : IsName name) {style : Style} (hstyle : style.isBalanced = true) :
    Normalizes (style.write name) (Style.brace.write name) := by
  intro rest hrest
  rw [hrest.normalizeFrom_eq true false]
  have hslash : '/' ∉ name := h.notMem (by decide)
  have hangle : '>' ∉ name := h.notMem (by decide)
  have hself : placeholder name = Style.brace.write name := by
    simpa using h.placeholder_eq (List.forall_mem_nil _) (.inl rfl)
  cases style with
  | colon =>
    calc
      _ = normalizeFrom (.segment []) (name ++ rest) := by simp [Style.write, normalizeFrom]
      _ = placeholder name ++ normalizeFrom (.text false) rest :=
        normalizeFrom_segment hslash hrest []
      _ = _ := by rw [hself]
  | star =>
    calc
      _ = normalizeFrom (.segment []) (name ++ rest) := by simp [Style.write, normalizeFrom]
      _ = placeholder name ++ normalizeFrom (.text false) rest :=
        normalizeFrom_segment hslash hrest []
      _ = _ := by rw [hself]
  | angle =>
    calc
      _ = normalizeFrom (.angle []) (name ++ '>' :: rest) := by simp [Style.write, normalizeFrom]
      _ = placeholder name ++ normalizeFrom (.text false) rest :=
        normalizeFrom_angle hangle [] rest
      _ = _ := by rw [hself]
  | angleRest =>
    have hdots : '>' ∉ name ++ ['.', '.'] := by simp [hangle]
    calc
      _ = normalizeFrom (.angle []) (name ++ ['.', '.'] ++ '>' :: rest) := by
        simp [Style.write, normalizeFrom]
      _ = placeholder (name ++ ['.', '.']) ++ normalizeFrom (.text false) rest :=
        normalizeFrom_angle hdots [] rest
      _ = _ := by
        rw [← h.placeholder_eq (List.forall_mem_nil _) (.inr (.inl rfl)), List.nil_append]
  | brace =>
    calc
      _ = normalizeFrom (.text true) ('\x7b' :: (name ++ '\x7d' :: rest)) := by simp [Style.write]
      _ = placeholder name ++ normalizeFrom (.text false) rest :=
        normalizeFrom_braces true h.balancedFrom_eq rest
      _ = _ := by rw [hself]
  | braceRest =>
    have hbalanced : balancedFrom braceChange 0 ('*' :: name) = true := by
      simpa [balancedFrom, braceChange] using h.balancedFrom_eq
    calc
      _ = normalizeFrom (.text true) ('\x7b' :: ('*' :: name ++ '\x7d' :: rest)) := by
        simp [Style.write]
      _ = placeholder ('*' :: name) ++ normalizeFrom (.text false) rest :=
        normalizeFrom_braces true hbalanced rest
      _ = _ := by
        have hstar := h.placeholder_eq (List.forall_mem_singleton.2 rfl) (.inl rfl)
        rw [List.append_nil] at hstar
        rw [← hstar, List.singleton_append]
  | pattern expression =>
    have hbalanced : balancedFrom braceChange 0 (name ++ ':' :: expression) = true := by
      apply balancedFrom_append Int.le_rfl h.balancedFrom_eq
      simpa [balancedFrom, braceChange, Style.isBalanced] using hstyle
    calc
      _ = normalizeFrom (.text true)
          ('\x7b' :: (name ++ ':' :: expression ++ '\x7d' :: rest)) := by simp [Style.write]
      _ = placeholder (name ++ ':' :: expression) ++ normalizeFrom (.text false) rest :=
        normalizeFrom_braces true hbalanced rest
      _ = _ := by
        have hcolon : (':' :: expression).head? = some ':' := rfl
        rw [← h.placeholder_eq (List.forall_mem_nil _) (.inr (.inr hcolon)), List.nil_append]

end IsName

namespace Segment.Regular

variable {s : Segment}

theorem normalizes (h : s.Regular) : Normalizes s.text s.normal.text := by
  cases s with
  | literal text =>
    intro rest hrest
    rw [Segment.text, normalizeFrom_text h.1 fun _ ↦ h.2, hrest.normalizeFrom_eq _ true]
    rfl
  | placeholder style name => exact h.1.normalizes_write h.2

theorem normal (h : s.Regular) : s.normal.Regular := by
  cases s with
  | literal text => exact h
  | placeholder style name => exact ⟨h.1, rfl⟩

theorem notMem_slash (h : s.Regular) : '/' ∉ s.normal.text := by
  cases s with
  | literal text => exact fun hmem ↦ h.1 '/' hmem (by decide)
  | placeholder style name =>
    have hname : '/' ∉ name := h.1.notMem (by decide)
    simp [Segment.normal, Segment.text, Style.write, hname]

theorem segmentParam?_eq (h : s.Regular) : segmentParam? s.normal.text = s.name? := by
  cases s with
  | literal text => exact segmentParam?_of_notMem fun hmem ↦ h.1 _ hmem (by decide)
  | placeholder style name => exact segmentParam?_braces (h.1.notMem (by decide)) []

end Segment.Regular

/-! ## Paths -/

/-- Segments joined with slashes. -/
def pathOf (segments : List Segment) : List Char :=
  joinWith ['/'] (segments.map Segment.text)

/-- A path of segments, with or without a slash in front. -/
def written (hasSlash : Bool) (segments : List Segment) : String :=
  String.ofList ((if hasSlash then ['/'] else []) ++ pathOf segments)

/-- The template that a path of segments stands for. -/
def templateOf (segments : List Segment) : String :=
  written true (segments.map Segment.normal)

theorem Segment.Regular.head?_ne {s : Segment} (h : s.Regular) : s.text.head? ≠ some '/' := by
  cases s with
  | literal text =>
    intro hhead
    exact h.1 '/' (List.mem_of_mem_head? hhead) (by decide)
  | placeholder style name => cases style <;> simp [Segment.text, Style.write]

theorem head?_pathOf {s : Segment} (hs : s.Regular) (hne : s.text ≠ [])
    (segments : List Segment) : (pathOf (s :: segments)).head? ≠ some '/' := by
  unfold pathOf joinWith
  cases segments with
  | nil => simpa using hs.head?_ne
  | cons next segments =>
    rw [List.map_cons, List.map_cons, List.intercalate_cons_cons, List.append_assoc,
      List.head?_append_of_ne_nil _ hne]
    exact hs.head?_ne

/-- A written path is normalized to its template. -/
theorem normalize_written {segments : List Segment} (h : ∀ s ∈ segments, s.Regular)
    {hasSlash : Bool} (hslash : hasSlash = true ∨ ∃ s ∈ segments.head?, s.text ≠ []) :
    normalize (written hasSlash segments) = templateOf segments := by
  have hpath : normalizeFrom (.text true) (pathOf segments) =
      pathOf (segments.map Segment.normal) := by
    unfold pathOf
    rw [normalizeFrom_joinWith fun s hs ↦ (h s hs).normalizes, List.map_map]
    rfl
  have hchars : normalizeChars ((if hasSlash then ['/'] else []) ++ pathOf segments) =
      '/' :: normalizeFrom (.text true) (pathOf segments) := by
    cases hasSlash with
    | true => simp [normalizeChars, normalizeFrom_slash]
    | false =>
      obtain ⟨s, hs, hne⟩ := hslash.resolve_left (by decide)
      cases segments with
      | nil => simp at hs
      | cons first rest =>
        obtain rfl : first = s := by simpa using hs
        have hhead := head?_pathOf (h first List.mem_cons_self) hne rest
        simp [normalizeChars, hhead]
  rw [normalize, written, String.toList_ofList, hchars, hpath]
  rfl

/-- The names of a template are those of its placeholders. -/
theorem params_templateOf {segments : List Segment} (h : ∀ s ∈ segments, s.Regular) :
    params (templateOf segments) = (segments.filterMap Segment.name?).map String.ofList := by
  have hpieces : ∀ piece ∈ (segments.map Segment.normal).map Segment.text, '/' ∉ piece := by
    simpa using fun s hs ↦ (h s hs).notMem_slash
  calc
    _ = (((segments.map Segment.normal).map Segment.text).filterMap segmentParam?).map
        String.ofList := (params_joinWith hpieces).2
    _ = (segments.filterMap fun s ↦ segmentParam? s.normal.text).map String.ofList := by
      rw [List.filterMap_map, List.filterMap_map]
      rfl
    _ = _ := by
      congr 1
      apply List.filterMap_congr
      intro s hs
      exact (h s hs).segmentParam?_eq

/-- However the placeholders of a path are written, and whether or not a slash stands in front, its
normal form is the template with the names between braces. The names of the template are those that
were written, in their order, and normalizing it again changes nothing. -/
theorem normal_form_of_written (segments : List Segment) (h : ∀ s ∈ segments, s.Regular)
    (hasSlash : Bool) (hslash : hasSlash = true ∨ ∃ s ∈ segments.head?, s.text ≠ []) :
    normalize (written hasSlash segments) = templateOf segments ∧
      params (normalize (written hasSlash segments)) =
        (segments.filterMap Segment.name?).map String.ofList ∧
      normalize (normalize (written hasSlash segments)) = normalize (written hasSlash segments) := by
  have hnormal := normalize_written h hslash
  have hagain : normalize (templateOf segments) = templateOf segments := by
    have hregular : ∀ s ∈ segments.map Segment.normal, s.Regular := by
      simpa using fun s hs ↦ (h s hs).normal
    have htwice :
        (segments.map Segment.normal).map Segment.normal = segments.map Segment.normal := by
      rw [List.map_map]
      apply List.map_congr_left
      intro s _
      cases s <;> rfl
    have hwritten := normalize_written hregular (.inl rfl : true = true ∨ _)
    rw [templateOf, htwice] at hwritten
    exact hwritten
  rw [hnormal]
  exact ⟨rfl, params_templateOf h, hagain⟩

/-- The segments of `users/{id:[0-9]{1,3}/:}/b:c/<rest..>`, whose pattern has braces, a slash and a
colon of its own. -/
def userPath : List Segment :=
  [.literal "users".toList, .placeholder (.pattern "[0-9]\x7b1,3\x7d/:".toList) "id".toList,
    .literal "b:c".toList, .placeholder .angleRest "rest".toList]

theorem normal_form_of_userPath :
    (∀ s ∈ userPath, s.Regular) ∧
      written false userPath = "users/\x7bid:[0-9]\x7b1,3\x7d/:\x7d/b:c/<rest..>" ∧
      normalize (written false userPath) = "/users/\x7bid\x7d/b:c/\x7brest\x7d" ∧
      params (normalize (written false userPath)) = ["id", "rest"] ∧
      normalize (normalize (written false userPath)) = normalize (written false userPath) := by
  have hregular : ∀ s ∈ userPath, s.Regular := by decide
  obtain ⟨hnormal, hparams, hagain⟩ :=
    normal_form_of_written userPath hregular false (.inr ⟨_, rfl, by decide⟩)
  exact ⟨hregular, by decide, hnormal.trans (by decide), hparams.trans (by decide), hagain⟩

end ApiAtlas.Template

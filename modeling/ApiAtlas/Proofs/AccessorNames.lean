import ApiAtlas.Proofs.CompanionText
import Mathlib.Data.List.Nodup

/-!
# Names in a companion file

A companion file declares three methods and a variant for each alternative of a union, all named
after a label that the type of the alternative asks for. Labels that are asked for twice are kept
apart by the position of the alternative. This leaves names that clash: a label may be spelled like
the method that looks for the held alternative, like a keyword, or like another method with its
first word, and two labels may give one variant. A file declares each name once exactly if nothing
of this kind happens.
-/

namespace ApiAtlas.TypeExpr

open Accessors Text

mutual

/-- The names in a type expression. -/
def names : TypeExpr → List String
  | .named name => [name]
  | .optional inner => inner.names
  | .sequence element => element.names
  | .map key value => key.names ++ value.names
  | .generic base args => base :: argNames args

/-- The names in an argument list. -/
def argNames : List TypeExpr → List String
  | [] => []
  | a :: rest => a.names ++ argNames rest

end

mutual

theorem isTypeText_render {t : TypeExpr} (h : ∀ name ∈ t.names, IsNameText name) :
    IsTypeText t.render := by
  have hclose : IsTypeText ">" := by decide
  cases t with
  | named name =>
    rw [render]
    exact isTypeText_of_isNameText (h name List.mem_cons_self)
  | optional inner =>
    have hopen : IsTypeText "Option<" := by decide
    rw [render]
    exact (hopen.append (isTypeText_render (t := inner) h)).append hclose
  | sequence element =>
    have hopen : IsTypeText "Vec<" := by decide
    rw [render]
    exact (hopen.append (isTypeText_render (t := element) h)).append hclose
  | map key value =>
    have hopen : IsTypeText "HashMap<" := by decide
    have hcomma : IsTypeText ", " := by decide
    have hnames := List.forall_mem_append.1 h
    rw [render]
    exact (((hopen.append (isTypeText_render hnames.1)).append hcomma).append
      (isTypeText_render hnames.2)).append hclose
  | generic base args =>
    have hopen : IsTypeText "<" := by decide
    have hnames := List.forall_mem_cons.1 h
    rw [render]
    exact (((isTypeText_of_isNameText hnames.1).append hopen).append
      (isTypeText_renderArgs hnames.2)).append hclose

theorem isTypeText_renderArgs {args : List TypeExpr}
    (h : ∀ name ∈ argNames args, IsNameText name) : IsTypeText (renderArgs args) := by
  match args with
  | [] => exact List.forall_mem_nil _
  | [a] =>
    rw [renderArgs]
    exact isTypeText_render (List.forall_mem_append.1 h).1
  | a :: b :: rest =>
    have hcomma : IsTypeText ", " := by decide
    have hnames := List.forall_mem_append.1 h
    rw [renderArgs]
    · exact ((isTypeText_render hnames.1).append hcomma).append (isTypeText_renderArgs hnames.2)
    · simp

end

end ApiAtlas.TypeExpr

namespace ApiAtlas.Naming
open Text

/-! ## Variants of labels -/

/-- A label with one underscore before each word that starts with a letter and with no others.
`starts` tells whether a word starts at the first character. -/
def markedFrom (starts : Bool) : List Char → List Char
  | [] => []
  | c :: rest =>
    if c = '_' then markedFrom true rest
    else (if starts && c.isLower then ['_', c] else [c]) ++ markedFrom false rest

/-- A label with one underscore before each word that starts with a letter and with no others:
`card3` and `card_3` have the same one. -/
def marked (label : String) : String :=
  String.ofList (markedFrom true label.toList)

/-- A name with capitals as a label with the words marked. -/
def unjoined (cs : List Char) : List Char :=
  cs.flatMap fun c ↦ if c.isUpper then ['_', c.toLower] else [c]

theorem unjoined_joined (starts : Bool) {cs : List Char} (h : ∀ c ∈ cs, isFieldChar c = true) :
    unjoined (joined starts cs) = markedFrom starts cs := by
  induction cs generalizing starts with
  | nil => rfl
  | cons c rest ih =>
    rw [List.forall_mem_cons] at h
    have hchar := forall_of_isFieldChar (P := fun c ↦ c ≠ '_' →
      (if c.toUpper.isUpper then ['_', c.toUpper.toLower] else [c.toUpper]) =
        (if c.isLower then ['_', c] else [c]) ∧
      (if c.isUpper then ['_', c.toLower] else [c]) = [c]) (by decide) h.1
    rw [joined, markedFrom]
    split
    case isTrue hc => exact ih true h.2
    case isFalse hc =>
      rw [unjoined, List.flatMap_cons, ← unjoined, ih false h.2]
      cases starts with
      | true => exact congrArg (· ++ markedFrom false rest) (hchar hc).1
      | false => exact congrArg (· ++ markedFrom false rest) (hchar hc).2

theorem joined_markedFrom (starts : Bool) {cs : List Char} (h : ∀ c ∈ cs, isFieldChar c = true) :
    joined false (markedFrom starts cs) = joined starts cs := by
  induction cs generalizing starts with
  | nil => rfl
  | cons c rest ih =>
    rw [List.forall_mem_cons] at h
    have hchar := forall_of_isFieldChar (P := fun c ↦ c.isLower = false → c.toUpper = c)
      (by decide) h.1
    rw [joined, markedFrom]
    split
    case isTrue hc => exact ih true h.2
    case isFalse hc =>
      cases starts <;> cases hlower : c.isLower <;>
        simp [joined, hc, ih false h.2, hchar, hlower]

theorem pascal_eq_iff {label other : String} (hlabel : ∀ c ∈ label.toList, isFieldChar c = true)
    (hother : ∀ c ∈ other.toList, isFieldChar c = true) :
    pascal label = pascal other ↔ marked label = marked other := by
  have hpascal {s : String} (hs : ∀ c ∈ s.toList, isFieldChar c = true) :
      pascal s = String.ofList (joined true s.toList) := by
    rw [pascal, pascalChars, snakeChars, snakeFrom_of_isFieldChar none false hs,
      flatMap_capitalized_splitOn fun c hc ↦ toNat_lt_of_isFieldChar (hs c hc)]
  rw [hpascal hlabel, hpascal hother, marked, marked, String.ofList_inj, String.ofList_inj]
  constructor
  · intro h
    rw [← unjoined_joined true hlabel, h, unjoined_joined true hother]
  · intro h
    rw [← joined_markedFrom true hlabel, h, joined_markedFrom true hother]

end ApiAtlas.Naming

namespace ApiAtlas.Accessors

open Naming Source.Lexer Text TypeExpr

/-! ## Characters of labels -/

mutual

theorem label?_of_bareLabel? {t : TypeExpr} {label : String} (h : bareLabel? t = some label) :
    label? t = some label := by
  cases t with
  | named | sequence | map => exact h
  | optional => simp [bareLabel?] at h
  | generic base args =>
    rw [bareLabel?] at h
    rw [label?]
    by_cases hbase : wrappers.contains base = true
    · rw [if_pos hbase] at h ⊢
      exact soleLabel?_of_soleBareLabel? h
    · rw [if_neg hbase] at h
      exact absurd h (by simp)

theorem soleLabel?_of_soleBareLabel? {args : List TypeExpr} {label : String}
    (h : soleBareLabel? args = some label) : soleLabel? args = some label := by
  match args with
  | [] => simp [soleBareLabel?] at h
  | [a] => exact label?_of_bareLabel? h
  | a :: b :: rest => simp [soleBareLabel?] at h

end

-- Labels add to the spelling of a name only what is spelled like a field.
mutual

theorem forall_mem_label? {p : Char → Prop} (hp : ∀ c, isFieldChar c = true → p c) {t : TypeExpr}
    {label : String} (hnames : ∀ name ∈ t.names, ∀ c ∈ (snake name).toList, p c)
    (h : label? t = some label) : ∀ c ∈ label.toList, p c := by
  have hlist : ∀ c ∈ "_list".toList, isFieldChar c = true := List.all_eq_true.1 (by decide)
  have hmap : ∀ c ∈ "_map".toList, isFieldChar c = true := List.all_eq_true.1 (by decide)
  cases t with
  | named name =>
    cases h
    exact hnames name List.mem_cons_self
  | optional inner => exact forall_mem_label? hp (t := inner) hnames (label?_of_bareLabel? h)
  | sequence element =>
    obtain ⟨first, hfirst, rfl⟩ := Option.map_eq_some_iff.1 h
    rw [String.toList_append]
    exact List.forall_mem_append.2
      ⟨forall_mem_label? hp (t := element) hnames hfirst, fun c hc ↦ hp c (hlist c hc)⟩
  | map key value =>
    obtain ⟨first, hfirst, rfl⟩ := Option.map_eq_some_iff.1 h
    rw [String.toList_append]
    exact List.forall_mem_append.2
      ⟨forall_mem_label? hp (List.forall_mem_append.1 hnames).2 hfirst,
        fun c hc ↦ hp c (hmap c hc)⟩
  | generic base args =>
    rw [label?] at h
    by_cases hbase : wrappers.contains base = true
    · rw [if_pos hbase] at h
      exact forall_mem_soleLabel? hp (List.forall_mem_cons.1 hnames).2 h
    · rw [if_neg hbase] at h
      exact absurd h (by simp)

theorem forall_mem_soleLabel? {p : Char → Prop} (hp : ∀ c, isFieldChar c = true → p c)
    {args : List TypeExpr} {label : String}
    (hnames : ∀ name ∈ argNames args, ∀ c ∈ (snake name).toList, p c)
    (h : soleLabel? args = some label) : ∀ c ∈ label.toList, p c := by
  match args with
  | [] => simp [soleLabel?] at h
  | [a] => exact forall_mem_label? hp (List.forall_mem_append.1 hnames).1 h
  | a :: b :: rest => simp [soleLabel?] at h

end

/-- The label that the type of the alternative at a position asks for. -/
def wanted (position : Nat) (t : TypeExpr) : String :=
  (label? t).getD ("alternative_" ++ decimal position)

theorem freshLabel_eq (seen : List String) (position : Nat) (t : TypeExpr) :
    freshLabel seen position t = if wanted position t ∈ seen then
      wanted position t ++ "_" ++ decimal position else wanted position t :=
  if_congr List.contains_iff_mem rfl rfl

theorem isFieldChar_of_mem_decimal {n : Nat} : ∀ c ∈ (decimal n).toList, isFieldChar c = true := by
  intro c hc
  rw [decimal, Nat.toString_eq_ofList_toDigits, String.toList_ofList] at hc
  have hdigit : c.isDigit = true := Nat.isDigit_of_mem_toDigits (by decide) (by decide) hc
  simp [isFieldChar, hdigit]

theorem forall_mem_freshLabel {p : Char → Prop} (hp : ∀ c, isFieldChar c = true → p c)
    {t : TypeExpr} (hnames : ∀ name ∈ t.names, ∀ c ∈ (snake name).toList, p c)
    (seen : List String) (position : Nat) : ∀ c ∈ (freshLabel seen position t).toList, p c := by
  have hdecimal : ∀ c ∈ (decimal position).toList, p c :=
    fun c hc ↦ hp c (isFieldChar_of_mem_decimal c hc)
  have hstart : ∀ c ∈ "alternative_".toList, isFieldChar c = true :=
    List.all_eq_true.1 (by decide)
  have hwanted : ∀ c ∈ (wanted position t).toList, p c := by
    rw [wanted]
    cases hlabel : label? t with
    | some label => exact forall_mem_label? hp hnames hlabel
    | none =>
      rw [Option.getD_none, String.toList_append]
      exact List.forall_mem_append.2 ⟨fun c hc ↦ hp c (hstart c hc), hdecimal⟩
  rw [freshLabel_eq]
  split
  · simp only [String.toList_append, List.forall_mem_append]
    exact ⟨⟨hwanted, List.forall_mem_singleton.2 (hp '_' (by decide))⟩, hdecimal⟩
  · exact hwanted

/-- Each alternative comes from a type and its slot. -/
theorem exists_of_mem_alternativesFrom {seen : List String} {position : Nat}
    {l : List (TypeExpr × String)} {a : Alternative} (h : a ∈ alternativesFrom seen position l) :
    ∃ seen position t slot, (t, slot) ∈ l ∧ a = ⟨freshLabel seen position t,
      pascal (freshLabel seen position t), t.render, slot⟩ := by
  induction l generalizing seen position with
  | nil => simp [alternativesFrom] at h
  | cons entry l ih =>
    obtain ⟨t, slot⟩ := entry
    rcases List.mem_cons.1 h with rfl | h
    · exact ⟨seen, position, t, slot, List.mem_cons_self, rfl⟩
    · obtain ⟨seen, position, t, slot, hmem, ha⟩ := ih h
      exact ⟨seen, position, t, slot, List.mem_cons_of_mem _ hmem, ha⟩

section

variable {types : List TypeExpr}

theorem exists_of_mem_alternatives {a : Alternative} (h : a ∈ alternatives types) :
    ∃ seen position, ∃ t ∈ types, ∃ slot ∈ slots, a = ⟨freshLabel seen position t,
      pascal (freshLabel seen position t), t.render, slot⟩ := by
  obtain ⟨seen, position, t, slot, hmem, ha⟩ := exists_of_mem_alternativesFrom h
  exact ⟨seen, position, t, (List.of_mem_zip hmem).1, slot, (List.of_mem_zip hmem).2, ha⟩

/-- The labels of the alternatives of a union. -/
def labels (types : List TypeExpr) : List String :=
  (alternatives types).map Alternative.label

theorem map_variant_alternatives (types : List TypeExpr) :
    (alternatives types).map Alternative.variant = (labels types).map pascal := by
  rw [labels, List.map_map]
  apply List.map_congr_left
  intro a ha
  obtain ⟨_, _, _, _, _, _, rfl⟩ := exists_of_mem_alternatives ha
  rfl

theorem forall_mem_labels {p : Char → Prop} (hp : ∀ c, isFieldChar c = true → p c)
    (hnames : ∀ t ∈ types, ∀ name ∈ t.names, ∀ c ∈ (snake name).toList, p c) :
    ∀ label ∈ labels types, ∀ c ∈ label.toList, p c := by
  rw [labels, List.forall_mem_map]
  intro a ha
  obtain ⟨seen, position, t, ht, _, _, rfl⟩ := exists_of_mem_alternatives ha
  exact forall_mem_freshLabel hp (hnames t ht) seen position

/-- The alternatives of types with plain names are plain. -/
theorem isPlain_of_mem_alternatives (h : ∀ t ∈ types, ∀ name ∈ t.names, IsNameText name) :
    ∀ a ∈ alternatives types, a.IsPlain := by
  intro a ha
  obtain ⟨seen, position, t, ht, slot, hslot, rfl⟩ := exists_of_mem_alternatives ha
  have hlabel : IsNameText (freshLabel seen position t) :=
    forall_mem_freshLabel (fun _ ↦ isNameChar_of_isFieldChar)
      (fun name hname ↦ isNameText_snake (h t ht name hname)) seen position
  exact ⟨hlabel, isNameText_pascal hlabel, isTypeText_render (h t ht), hslot⟩

end

/-! ## Distinct labels -/

theorem eq_of_numbered_eq {s t : String} {i j : Nat}
    (h : s ++ "_" ++ decimal i = t ++ "_" ++ decimal j) : i = j := by
  have hdigits (n : Nat) : (decimal n).toList = Nat.toDigits 10 n := by
    rw [decimal, Nat.toString_eq_ofList_toDigits, String.toList_ofList]
  have hmark (n : Nat) : '_' ∉ (Nat.toDigits 10 n).reverse := by
    rw [List.mem_reverse]
    intro hmem
    exact absurd (Nat.isDigit_of_mem_toDigits (by decide) (by decide) hmem) (by decide)
  have hchars := congrArg (fun text ↦ text.toList.reverse.takeWhile fun c ↦ c != '_') h
  simp only [String.toList_append, hdigits, List.reverse_append] at hchars
  have hreverse (n : Nat) (s : String) :
      ((Nat.toDigits 10 n).reverse ++ ("_".toList.reverse ++ s.toList.reverse)).takeWhile
        (fun c ↦ c != '_') = (Nat.toDigits 10 n).reverse :=
    takeWhile_append_cons (hmark n) _
  rw [hreverse, hreverse, List.reverse_inj] at hchars
  rw [← Nat.ofDigitChars_ten_toDigits (n := i), hchars, Nat.ofDigitChars_ten_toDigits]

theorem alternativesFrom_cons (seen : List String) (position : Nat) (t : TypeExpr) (slot : String)
    (l : List (TypeExpr × String)) :
    alternativesFrom seen position ((t, slot) :: l) =
      ⟨freshLabel seen position t, Naming.pascal (freshLabel seen position t), t.render, slot⟩ ::
        alternativesFrom (wanted position t :: freshLabel seen position t :: seen)
          (position + 1) l :=
  rfl

theorem length_alternativesFrom (seen : List String) (position : Nat)
    (l : List (TypeExpr × String)) : (alternativesFrom seen position l).length = l.length := by
  induction l generalizing seen position with
  | nil => rfl
  | cons entry l ih => rw [alternativesFrom_cons, List.length_cons, ih, List.length_cons]

theorem length_labels {types : List TypeExpr} (hcount : types.length ≤ 4) :
    (labels types).length = types.length := by
  have hslots : slots.length = 4 := rfl
  rw [labels, List.length_map, alternatives, length_alternativesFrom, List.length_zip, hslots]
  exact min_eq_left hcount

/-- An alternative whose label was changed does not take what an earlier one asks for. -/
def KeepsClear (earlier later : String × String) : Prop :=
  later.2 ≠ later.1 → later.2 ≠ earlier.1

/-- What holds of the labels that were asked for and given up to a position. -/
structure Labelled (entries : List (String × String)) (position : Nat) : Prop where
  asked : ∀ entry ∈ entries, entry.1 ∈ entries.map Prod.snd
  given : ∀ entry ∈ entries,
    entry.2 = entry.1 ∨ ∃ i < position, entry.2 = entry.1 ++ "_" ++ decimal i
  nodup_iff : (entries.map Prod.snd).Nodup ↔ entries.Pairwise KeepsClear

namespace Labelled

variable {entries : List (String × String)} {position : Nat}

/-- The label that is given to one that asks for a label. -/
def next (entries : List (String × String)) (position : Nat) (label : String) : String :=
  if label ∈ entries.map Prod.snd then label ++ "_" ++ decimal position else label

theorem next_notMem_iff (h : Labelled entries position) (label : String) :
    next entries position label ∉ entries.map Prod.snd ↔
      ∀ entry ∈ entries, KeepsClear entry (label, next entries position label) := by
  by_cases hlabel : label ∈ entries.map Prod.snd
  · have hchanged : label ++ "_" ++ decimal position ≠ label := by
      intro heq
      have hlength := congrArg String.length heq
      have hmark : "_".length = 1 := rfl
      simp only [String.length_append] at hlength
      omega
    simp only [next, if_pos hlabel, KeepsClear]
    constructor
    · intro hnew entry hentry _ heq
      exact hnew (heq ▸ h.asked entry hentry)
    · intro hclear hmem
      obtain ⟨entry, hentry, heq⟩ := List.mem_map.1 hmem
      rcases h.given entry hentry with hsame | ⟨i, hi, hnumbered⟩
      · exact hclear entry hentry hchanged (heq ▸ hsame)
      · exact absurd (eq_of_numbered_eq (hnumbered.symm.trans heq)) hi.ne
  · simp [next, KeepsClear, hlabel]

theorem mem_next (entries : List (String × String)) (position : Nat) (label : String) :
    label ∈ entries.map Prod.snd ++ [next entries position label] := by
  by_cases hlabel : label ∈ entries.map Prod.snd
  · exact List.mem_append_left _ hlabel
  · simp [next, hlabel]

theorem step (h : Labelled entries position) (label : String) :
    Labelled (entries ++ [(label, next entries position label)]) (position + 1) where
  asked := by
    rw [List.map_append, List.forall_mem_append, List.forall_mem_singleton]
    exact ⟨fun entry hentry ↦ List.mem_append_left _ (h.asked entry hentry),
      mem_next entries position label⟩
  given := by
    rw [List.forall_mem_append, List.forall_mem_singleton]
    constructor
    · intro entry hentry
      refine (h.given entry hentry).imp_right ?_
      rintro ⟨i, hi, hnumbered⟩
      exact ⟨i, hi.trans position.lt_succ_self, hnumbered⟩
    · by_cases hlabel : label ∈ entries.map Prod.snd
      · exact Or.inr ⟨position, position.lt_succ_self, if_pos hlabel⟩
      · exact Or.inl (if_neg hlabel)
  nodup_iff := by
    rw [List.map_append, List.map_singleton, ← List.concat_eq_append, List.nodup_concat,
      h.nodup_iff, h.next_notMem_iff, List.pairwise_append]
    simp [and_comm]

/-- Labels stay as they should along the alternatives of a union. -/
theorem run (h : Labelled entries position) {seen : List String}
    (hseen : ∀ label, label ∈ seen ↔ label ∈ entries.map Prod.snd) (l : List (TypeExpr × String)) :
    Labelled (entries ++ ((l.map Prod.fst).mapIdx fun i t ↦ wanted (position + i) t).zip
      ((alternativesFrom seen position l).map Alternative.label))
      (position + l.length) := by
  induction l generalizing entries position seen with
  | nil => simpa using h
  | cons entry l ih =>
    obtain ⟨t, slot⟩ := entry
    have hnext : freshLabel seen position t = next entries position (wanted position t) := by
      rw [freshLabel_eq, next, if_congr (hseen _) rfl rfl]
    have hseen' (label : String) : label ∈ wanted position t :: freshLabel seen position t :: seen ↔
        label ∈ (entries ++ [(wanted position t, freshLabel seen position t)]).map Prod.snd := by
      have hwanted := mem_next entries position (wanted position t)
      rw [← hnext, List.mem_append, ← hseen] at hwanted
      rw [List.map_append, List.mem_append, ← hseen]
      simp only [List.mem_cons, List.map_cons, List.map_nil, List.not_mem_nil, or_false]
        at hwanted ⊢
      grind
    have hrest := ih (hnext ▸ h.step (wanted position t)) hseen'
    have hshift : (fun i t ↦ wanted (position + 1 + i) t) =
        fun i t ↦ wanted (position + (i + 1)) t := by
      funext i t
      rw [Nat.add_assoc, Nat.add_comm 1]
    rw [hshift, List.append_assoc] at hrest
    rw [List.length_cons, ← Nat.add_assoc, Nat.add_right_comm]
    simpa [alternativesFrom_cons, List.mapIdx_cons] using hrest

end Labelled

/-- The labels that the types of a union ask for. -/
def wantedLabels (types : List TypeExpr) : List String :=
  types.mapIdx fun i t ↦ wanted (i + 1) t

/-- The labels of a union are distinct unless one that was changed is what an earlier alternative
asks for. -/
theorem nodup_labels_iff {types : List TypeExpr} (hcount : types.length ≤ 4) :
    (labels types).Nodup ↔ ((wantedLabels types).zip (labels types)).Pairwise KeepsClear := by
  have hnil : Labelled [] 1 := ⟨List.forall_mem_nil _, List.forall_mem_nil _, by simp⟩
  have hseen (label : String) : label ∈ ([] : List String) ↔
      label ∈ ([] : List (String × String)).map Prod.snd := Iff.rfl
  have hall := (hnil.run hseen (types.zip slots)).nodup_iff
  have htypes : (types.zip slots).map Prod.fst = types := List.map_fst_zip hcount
  have hwanted : (fun i t ↦ wanted (1 + i) t) = fun i t ↦ wanted (i + 1) t := by
    funext i t
    rw [Nat.add_comm]
  have hlength : (labels types).length ≤ (wantedLabels types).length := by
    rw [length_labels hcount, wantedLabels, List.length_mapIdx]
  rw [List.nil_append, htypes, hwanted] at hall
  calc
    _ ↔ (((wantedLabels types).zip (labels types)).map Prod.snd).Nodup := by
      rw [List.map_snd_zip hlength]
    _ ↔ _ := hall

/-! ## Distinct names -/

/-- A label that is no method of another one, whose first word it would then have. -/
def Spares (label other : String) : Prop :=
  label ≠ "is_" ++ other ∧ label ≠ "set_" ++ other

/-- Labels that are no keywords, no methods of others, and not the method that looks for the held
alternative. -/
def IsClear (labels : List String) : Prop :=
  ∀ label ∈ labels, label ≠ "value" ∧ label ∉ Source.keywords ∧ ∀ other ∈ labels, Spares label other

instance (label other : String) : Decidable (Spares label other) :=
  inferInstanceAs (Decidable (_ ∧ _))

instance (labels : List String) : Decidable (IsClear labels) :=
  inferInstanceAs (Decidable (∀ label ∈ labels, _))

/-- A companion file declares no method and no variant twice and no method like a keyword. -/
def DeclaresOnce (owner text : String) : Prop :=
  (traitMethods owner text).Nodup ∧ (∀ method ∈ traitMethods owner text, method ∉ Source.keywords) ∧
    (enumVariants owner text).Nodup

theorem is_ne_set (label other : String) : "is_" ++ label ≠ "set_" ++ other := by
  simp [← String.toList_inj]

theorem spares_self (label : String) : Spares label label := by
  have hlonger (lead : String) (hlead : 0 < lead.length) : label ≠ lead ++ label := by
    intro heq
    have hlength := congrArg String.length heq
    rw [String.length_append] at hlength
    omega
  exact ⟨hlonger "is_" (by decide), hlonger "set_" (by decide)⟩

theorem nodup_methodNames (label : String) : (methodNames label).Nodup := by
  have hown := spares_self label
  simp [methodNames, hown.1.symm, hown.2]

/-- The methods of two labels keep apart if neither label is the other or a method of it. -/
theorem disjoint_methodNames_iff {label other : String} :
    (methodNames label).Disjoint (methodNames other) ↔
      label ≠ other ∧ Spares label other ∧ Spares other label := by
  simp only [methodNames, Spares, List.disjoint_cons_left, List.disjoint_nil_left, List.mem_cons,
    List.not_mem_nil, or_false, not_or]
  grind [String.append_right_inj, is_ne_set]

theorem nodup_flatMap_methodNames_iff (labels : List String) :
    (labels.flatMap methodNames).Nodup ↔
      labels.Nodup ∧ ∀ label ∈ labels, ∀ other ∈ labels, Spares label other := by
  have hpairs : labels.Pairwise Spares ∧ labels.Pairwise (flip Spares) ↔
      ∀ label ∈ labels, ∀ other ∈ labels, Spares label other := by
    constructor
    · intro h
      exact h.1.forall_of_forall_of_flip (fun label _ ↦ spares_self label) h.2
    · intro h
      exact ⟨List.pairwise_of_forall_mem_list h,
        List.pairwise_of_forall_mem_list fun label hlabel other hother ↦
          h other hother label hlabel⟩
  calc
    _ ↔ labels.Pairwise fun label other ↦
        label ≠ other ∧ Spares label other ∧ Spares other label := by
      rw [List.nodup_flatMap, and_iff_right fun label _ ↦ nodup_methodNames label]
      exact List.Pairwise.iff fun label other ↦ disjoint_methodNames_iff
    _ ↔ labels.Nodup ∧ labels.Pairwise Spares ∧ labels.Pairwise (flip Spares) := by
      rw [List.pairwise_and_iff, List.pairwise_and_iff]
      rfl
    _ ↔ _ := and_congr_right fun _ ↦ hpairs

theorem append_notMem_keywords (label : String) :
    "is_" ++ label ∉ Source.keywords ∧ "set_" ++ label ∉ Source.keywords := by
  have hlead {lead : String}
      (h : ∀ word ∈ Source.keywords, dropLead? lead.toList word.toList = none) :
      lead ++ label ∉ Source.keywords := by
    intro hmem
    have hnone := h _ hmem
    rw [String.toList_append, dropLead?_append_self] at hnone
    exact absurd hnone (by simp)
  exact ⟨hlead (by decide), hlead (by decide)⟩

/-- The methods of labels are distinct and no keywords if the labels are distinct and clear. -/
theorem methods_distinct_iff (labels : List String) :
    (labels.flatMap methodNames ++ ["value"]).Nodup ∧
        (∀ method ∈ labels.flatMap methodNames ++ ["value"], method ∉ Source.keywords) ↔
      labels.Nodup ∧ IsClear labels := by
  have hvalue : "value" ∉ labels.flatMap methodNames ↔ ∀ label ∈ labels, label ≠ "value" := by
    have hleads (label : String) : "value" ≠ "is_" ++ label ∧ "value" ≠ "set_" ++ label := by
      simp [← String.toList_inj]
    have hmem : "value" ∈ labels.flatMap methodNames ↔ "value" ∈ labels := by
      simp [methodNames, hleads]
    rw [hmem]
    exact List.forall_mem_ne'.symm
  have hkeywords : (∀ method ∈ labels.flatMap methodNames ++ ["value"],
      method ∉ Source.keywords) ↔ ∀ label ∈ labels, label ∉ Source.keywords := by
    have hword : "value" ∉ Source.keywords := by decide
    have hown (label : String) : (∀ method ∈ methodNames label, method ∉ Source.keywords) ↔
        label ∉ Source.keywords := by
      simp [methodNames, append_notMem_keywords]
    rw [List.forall_mem_append, List.forall_mem_singleton, and_iff_left hword,
      List.forall_mem_flatMap]
    exact forall₂_congr fun label _ ↦ hown label
  rw [← List.concat_eq_append, List.nodup_concat, nodup_flatMap_methodNames_iff, hvalue,
    List.concat_eq_append, hkeywords]
  constructor
  · rintro ⟨⟨hvalue, hnodup, hspares⟩, hkeywords⟩
    exact ⟨hnodup, fun label hlabel ↦
      ⟨hvalue label hlabel, hkeywords label hlabel, hspares label hlabel⟩⟩
  · rintro ⟨hnodup, hclear⟩
    exact ⟨⟨fun label hlabel ↦ (hclear label hlabel).1, hnodup,
      fun label hlabel ↦ (hclear label hlabel).2.2⟩, fun label hlabel ↦ (hclear label hlabel).2.1⟩

/-- For types with plain names, a companion file declares each name once exactly if its labels are
clear and give distinct variants. -/
theorem declaresOnce_contents_iff {owner : String} (howner : IsNameText owner)
    {types : List TypeExpr} (hnames : ∀ t ∈ types, ∀ name ∈ t.names, IsNameText name) :
    DeclaresOnce owner (contents owner (alternatives types)) ↔
      ((labels types).map pascal).Nodup ∧ IsClear (labels types) := by
  have hall := isPlain_of_mem_alternatives hnames
  rw [DeclaresOnce, traitMethods_contents howner hall, enumVariants_contents howner hall,
    map_variant_alternatives, ← labels, ← and_assoc, methods_distinct_iff]
  constructor
  · rintro ⟨⟨-, hclear⟩, hvariants⟩
    exact ⟨hvariants, hclear⟩
  · rintro ⟨hvariants, hclear⟩
    exact ⟨⟨hvariants.of_map pascal, hclear⟩, hvariants⟩

theorem nodup_map_pascal_iff {types : List TypeExpr}
    (hnames : ∀ t ∈ types, ∀ name ∈ t.names, ∀ c ∈ name.toList,
      (c.isAlphanum || c == '_') = true) :
    ((labels types).map pascal).Nodup ↔ ((labels types).map marked).Nodup := by
  have hlabels := forall_mem_labels (fun _ h ↦ h)
    fun t ht name hname ↦ isFieldChar_of_mem_snake (hnames t ht name hname)
  simp only [List.Nodup, List.pairwise_map]
  exact List.Pairwise.iff_of_mem fun hlabel hother ↦
    not_congr (pascal_eq_iff (hlabels _ hlabel) (hlabels _ hother))

/-- The companion file of a union of identifiers declares the three methods and the variant of each
label. It declares each of these names once, and no method like a keyword, exactly if no label is
`value`, a keyword or a method of another label and the variants of the labels differ. Labels are
distinct unless one that was changed is what an earlier alternative asks for, and variants of ASCII
names differ if the labels do after their words are marked anew. -/
theorem accessor_names_declared_once_iff {d : Definition} {u : Union} (hunion : d.union = some u)
    (hcount : u.alternatives.length ≤ 4) (hname : IsIdentifier d.name)
    (hnames : ∀ t ∈ u.alternatives, ∀ name ∈ t.names, IsIdentifier name) :
    let all := labels u.alternatives
    ∃ file, companion? d = some file ∧ all.length = u.alternatives.length ∧
      traitMethods d.name file.contents =
        all.flatMap (fun label ↦ ["is_" ++ label, label, "set_" ++ label]) ++ ["value"] ∧
      enumVariants d.name file.contents = all.map pascal ∧
      (DeclaresOnce d.name file.contents ↔ (all.map pascal).Nodup ∧ IsClear all) ∧
      (all.Nodup ↔ ((wantedLabels u.alternatives).zip all).Pairwise KeepsClear) ∧
      ((∀ t ∈ u.alternatives, ∀ name ∈ t.names, ∀ c ∈ name.toList,
          (c.isAlphanum || c == '_') = true) →
        (DeclaresOnce d.name file.contents ↔ (all.map marked).Nodup ∧ IsClear all)) := by
  have howner := hname.isNameText
  have htypes : ∀ t ∈ u.alternatives, ∀ name ∈ t.names, IsNameText name :=
    fun t ht name hmem ↦ (hnames t ht name hmem).isNameText
  have hall := isPlain_of_mem_alternatives htypes
  have honce := declaresOnce_contents_iff howner htypes
  intro all
  refine ⟨⟨companionPath d.origin.file d.name, d.name,
    contents d.name (alternatives u.alternatives)⟩, ?_, length_labels hcount,
    traitMethods_contents howner hall, ?_, honce, nodup_labels_iff hcount, ?_⟩
  · rw [companion?, hunion, Option.map_some]
  · rw [enumVariants_contents howner hall, map_variant_alternatives]
  · intro hascii
    rw [honce, nodup_map_pascal_iff hascii]

/-- A union of four means of payment, two of them of one type. -/
def fourPayments : Definition where
  name := "Payment"
  kind := .union
  union := some ⟨4, [.named "Card", .named "BankTransfer", .sequence (.named "Card"),
    .named "Card"], none, false⟩
  origin := { file := "src/billing.rs" }

theorem accessor_names_of_four_payments : ∃ file, companion? fourPayments = some file ∧
    traitMethods "Payment" file.contents =
      ["is_card", "card", "set_card", "is_bank_transfer", "bank_transfer", "set_bank_transfer",
        "is_card_list", "card_list", "set_card_list", "is_card_4", "card_4", "set_card_4",
        "value"] ∧
    enumVariants "Payment" file.contents = ["Card", "BankTransfer", "CardList", "Card4"] ∧
    DeclaresOnce "Payment" file.contents := by
  obtain ⟨file, hfile, -, hmethods, hvariants, honce, -, -⟩ :=
    accessor_names_declared_once_iff (d := fourPayments) rfl (by decide) (by decide) (by decide)
  exact ⟨file, hfile, hmethods.trans (by decide), hvariants.trans (by decide),
    honce.2 (by decide)⟩

/-- A union with an alternative whose label is the name of the method for the held one. -/
def valueOrCard : Definition where
  name := "Payment"
  kind := .union
  union := some ⟨2, [.named "Value", .named "Card"], none, false⟩
  origin := { file := "src/billing.rs" }

/-- A method may be declared twice, although all names are identifiers. -/
theorem value_declared_twice :
    (∀ name ∈ ["Payment", "Value", "Card"], IsIdentifier name) ∧
      ∃ file, companion? valueOrCard = some file ∧
        traitMethods "Payment" file.contents =
          ["is_value", "value", "set_value", "is_card", "card", "set_card", "value"] ∧
        ¬ (traitMethods "Payment" file.contents).Nodup := by
  have hall : ∀ a ∈ alternatives [.named "Value", .named "Card"], a.IsPlain :=
    isPlain_of_mem_alternatives (by decide)
  have hmethods : traitMethods "Payment"
      (contents "Payment" (alternatives [.named "Value", .named "Card"])) =
      ["is_value", "value", "set_value", "is_card", "card", "set_card", "value"] :=
    (traitMethods_contents (by decide) hall).trans (by decide)
  have htwice : ¬ (traitMethods "Payment"
      (contents "Payment" (alternatives [.named "Value", .named "Card"]))).Nodup := by
    rw [hmethods]
    decide
  exact ⟨by decide, _, rfl, hmethods, htwice⟩

end ApiAtlas.Accessors

import ApiAtlas.Extraction.Found
import ApiAtlas.Proofs.Template

/-!
# Names as a serializer writes them

The rule that renames the fields or variants of a type is read by two programs: the one that
documents the type, and the serializer that writes its values. The serializer goes over a name
character by character, while `snakeChars` looks for words first and all other spellings start from
it. For names of fields the two always agree. For names of variants they agree exactly if a capital
after a capital starts a word, and an acronym such as `HTTP` is renamed differently.
-/

namespace ApiAtlas.Text

/-! ## Letter case in the ASCII range -/

/-- A property of all ASCII characters is checked code by code. -/
theorem forall_of_ascii {P : Char → Prop} (h : ∀ n : Fin 128, P (Char.ofNat n)) {c : Char}
    (hc : c.toNat < 128) : P c := by
  have hcode := h ⟨c.toNat, hc⟩
  rwa [Char.ofNat_toNat] at hcode

theorem toNat_lt_of_isAlphanum {c : Char} (h : c.isAlphanum = true) : c.toNat < 128 := by
  have hcases : (c.isUpper || c.isLower || c.isDigit) = true := h
  rw [Bool.or_eq_true, Bool.or_eq_true] at hcases
  have hcode : c.toNat ≤ 122 := by
    rcases hcases with (hupper | hlower) | hdigit
    · exact (of_decide_eq_true hupper).2.trans (by decide)
    · exact (of_decide_eq_true (Bool.and_eq_true_iff.1 hlower).2)
    · exact (of_decide_eq_true (Bool.and_eq_true_iff.1 hdigit).2).trans (by decide)
  omega

/-- A property of all letters and digits is checked code by code. -/
theorem forall_of_isAlphanum {P : Char → Prop}
    (h : ∀ n : Fin 128, (Char.ofNat n).isAlphanum = true → P (Char.ofNat n)) {c : Char}
    (hc : c.isAlphanum = true) : P c :=
  forall_of_ascii (P := fun c ↦ c.isAlphanum = true → P c) h (toNat_lt_of_isAlphanum hc) hc

theorem isUppercase_of_ascii {c : Char} (hc : c.toNat < 128) : isUppercase c = c.isUpper :=
  if_pos hc

theorem isLowercase_of_ascii {c : Char} (hc : c.toNat < 128) : isLowercase c = c.isLower :=
  if_pos hc

theorem lowerChar_of_ascii {c : Char} (hc : c.toNat < 128) : lowerChar c = [c.toLower] :=
  if_pos hc

theorem upperChar_of_ascii {c : Char} (hc : c.toNat < 128) : upperChar c = [c.toUpper] :=
  if_pos hc

theorem lowerFrom_of_ascii {cs : List Char} (before : List Char) (h : ∀ c ∈ cs, c.toNat < 128) :
    lowerFrom before cs = cs.map Char.toLower := by
  induction cs generalizing before with
  | nil => rfl
  | cons c rest ih =>
    have hc : c.toNat < 128 := h c List.mem_cons_self
    have hsigma : (c == 'Σ') = false := by
      apply beq_false_of_ne
      rintro rfl
      exact absurd hc (by decide)
    rw [lowerFrom, hsigma, lowerChar_of_ascii hc, List.map_cons,
      ih (c :: before) fun d hd ↦ h d (List.mem_cons_of_mem c hd)]
    rfl

theorem lower_of_ascii {cs : List Char} (h : ∀ c ∈ cs, c.toNat < 128) :
    lower cs = cs.map Char.toLower :=
  lowerFrom_of_ascii [] h

theorem upper_of_ascii {cs : List Char} (h : ∀ c ∈ cs, c.toNat < 128) :
    upper cs = cs.map Char.toUpper := by
  rw [upper, List.map_eq_flatMap]
  apply List.flatMap_congr
  intro c hc
  exact upperChar_of_ascii (h c hc)

theorem splitOn_cons (sep c : Char) (cs : List Char) :
    splitOn sep (c :: cs) =
      if c == sep then [] :: splitOn sep cs else (splitOn sep cs).modifyHead (c :: ·) := by
  simp only [splitOn, splitWhere_eq_splitOnP, List.splitOnP_cons_eq_if_modifyHead]

end ApiAtlas.Text

namespace ApiAtlas.Naming

open Text

/-! ## The spellings of a serializer -/

/-- A name in lower case, with an underscore before every capital. -/
def separated (cs : List Char) : List Char :=
  cs.flatMap fun c ↦ if c.isUpper then ['_', c.toLower] else [c.toLower]

/-- A name in lower case, with an underscore before every capital but the first character. -/
def separatedInside : List Char → List Char
  | [] => []
  | c :: rest => c.toLower :: separated rest

/-- A name with its first character in lower case. -/
def firstLower : List Char → List Char
  | [] => []
  | c :: rest => c.toLower :: rest

/-- A name without underscores, with each character after one as a capital; `capital` tells whether
the first character becomes one too. -/
def joined (capital : Bool) : List Char → List Char
  | [] => []
  | c :: rest =>
    if c = '_' then joined true rest
    else (if capital then c.toUpper else c) :: joined false rest

namespace RenameRule

/-- How a serializer renames a variant. -/
def variantChars (rule : RenameRule) (cs : List Char) : List Char :=
  match rule with
  | .lower => cs.map Char.toLower
  | .upper => cs.map Char.toUpper
  | .pascal => cs
  | .camel => firstLower cs
  | .snake => separatedInside cs
  | .screamingSnake => (separatedInside cs).map Char.toUpper
  | .kebab => hyphenated (separatedInside cs)
  | .screamingKebab => hyphenated ((separatedInside cs).map Char.toUpper)

/-- How a serializer renames a variant. -/
def variantName (rule : RenameRule) (ident : String) : String :=
  String.ofList (rule.variantChars ident.toList)

/-- How a serializer renames a field. -/
def fieldChars (rule : RenameRule) (cs : List Char) : List Char :=
  match rule with
  | .lower => cs
  | .upper => cs.map Char.toUpper
  | .pascal => joined true cs
  | .camel => firstLower (joined true cs)
  | .snake => cs
  | .screamingSnake => cs.map Char.toUpper
  | .kebab => hyphenated cs
  | .screamingKebab => hyphenated (cs.map Char.toUpper)

/-- How a serializer renames a field. -/
def fieldName (rule : RenameRule) (ident : String) : String :=
  String.ofList (rule.fieldChars ident.toList)

theorem ofName?_name (rule : RenameRule) : ofName? rule.name = some rule := by
  cases rule <;> decide

theorem renameBy_name (rule : RenameRule) (ident : String) :
    renameBy rule.name ident = String.ofList (rule.applyChars ident.toList) := by
  rw [renameBy, ofName?_name]
  rfl

end RenameRule

theorem RenameRule.upper_hyphenated {cs : List Char} (h : ∀ c ∈ cs, c.toNat < 128) :
    Text.upper (hyphenated cs) = hyphenated (cs.map Char.toUpper) := by
  rw [Text.upper, hyphenated, hyphenated, List.map_map, List.flatMap_map, List.map_eq_flatMap]
  apply List.flatMap_congr
  intro c hc
  exact forall_of_ascii
    (P := fun c ↦ upperChar (if c == '_' then '-' else c) =
      [if c.toUpper == '_' then '-' else c.toUpper]) (by decide) (h c hc)

/-! ## Joining words -/

theorem camelChars_eq_firstLower {cs : List Char} (h : ∀ c ∈ pascalChars cs, c.toNat < 128) :
    camelChars cs = firstLower (pascalChars cs) := by
  rw [camelChars]
  cases hpascal : pascalChars cs with
  | nil => rfl
  | cons c rest =>
    have hc : c.toNat < 128 := h c (hpascal ▸ List.mem_cons_self)
    simp only [lowerChar_of_ascii hc, List.singleton_append, firstLower]

theorem joined_ascii {capital : Bool} {cs : List Char} (h : ∀ c ∈ cs, c.toNat < 128) :
    ∀ c ∈ joined capital cs, c.toNat < 128 := by
  induction cs generalizing capital with
  | nil => exact List.forall_mem_nil _
  | cons c rest ih =>
    have hrest : ∀ d ∈ rest, d.toNat < 128 := fun d hd ↦ h d (List.mem_cons_of_mem c hd)
    have hupper : c.toUpper.toNat < 128 :=
      forall_of_ascii (P := fun c ↦ c.toUpper.toNat < 128) (by decide) (h c List.mem_cons_self)
    rw [joined]
    split
    · exact ih hrest
    · apply List.forall_mem_cons.2 ⟨?_, ih hrest⟩
      cases capital
      · exact h c List.mem_cons_self
      · exact hupper

/-- Going over the pieces between underscores is going over the characters. -/
theorem joined_eq_of_splitOn {cs piece : List Char} {pieces : List (List Char)}
    (h : ∀ c ∈ cs, c.toNat < 128) (hsplit : splitOn '_' cs = piece :: pieces) :
    joined true cs = capitalized piece ++ pieces.flatMap capitalized ∧
      joined false cs = piece ++ pieces.flatMap capitalized := by
  induction cs generalizing piece pieces with
  | nil =>
    obtain ⟨rfl, rfl⟩ := List.cons.inj hsplit
    exact ⟨rfl, rfl⟩
  | cons c rest ih =>
    have hrest : ∀ d ∈ rest, d.toNat < 128 := fun d hd ↦ h d (List.mem_cons_of_mem c hd)
    cases hpieces : splitOn '_' rest with
    | nil =>
      rw [splitOn, splitWhere_eq_splitOnP] at hpieces
      exact absurd hpieces (List.splitOnP_ne_nil _ rest)
    | cons first others =>
      have hjoined := ih hrest hpieces
      rw [splitOn_cons, hpieces] at hsplit
      by_cases hc : c = '_'
      · rw [if_pos (beq_iff_eq.2 hc)] at hsplit
        obtain ⟨rfl, rfl⟩ := List.cons.inj hsplit
        simp only [joined, if_pos hc, hjoined.1]
        exact ⟨rfl, rfl⟩
      · rw [if_neg (by simpa using hc)] at hsplit
        obtain ⟨rfl, rfl⟩ := List.cons.inj hsplit
        simp only [joined, if_neg hc, hjoined.2, capitalized,
          upperChar_of_ascii (h c List.mem_cons_self)]
        exact ⟨rfl, rfl⟩

theorem flatMap_capitalized_splitOn {cs : List Char} (h : ∀ c ∈ cs, c.toNat < 128) :
    (splitOn '_' cs).flatMap capitalized = joined true cs := by
  cases hsplit : splitOn '_' cs with
  | nil =>
    rw [splitOn, splitWhere_eq_splitOnP] at hsplit
    exact absurd hsplit (List.splitOnP_ne_nil _ cs)
  | cons piece pieces => exact (joined_eq_of_splitOn h hsplit).1.symm

/-! ## Names of fields -/

/-- The characters of a field's name. -/
def isFieldChar (c : Char) : Bool :=
  c.isLower || c.isDigit || c == '_'

/-- A name of a field: ASCII small letters, digits and underscores, but not underscores alone. -/
structure IsFieldName (cs : List Char) : Prop where
  chars : ∀ c ∈ cs, isFieldChar c = true
  named : ∃ c ∈ cs, c ≠ '_'

instance (cs : List Char) : Decidable (IsFieldName cs) :=
  decidable_of_iff (cs.all isFieldChar = true ∧ (cs.any fun c ↦ c != '_') = true)
    ⟨fun ⟨hchars, hnamed⟩ ↦ ⟨by simpa using hchars, by simpa using hnamed⟩,
      fun h ↦ ⟨by simpa using h.chars, by simpa using h.named⟩⟩

theorem toNat_lt_of_isFieldChar {c : Char} (h : isFieldChar c = true) : c.toNat < 128 := by
  rw [isFieldChar, Bool.or_eq_true, Bool.or_eq_true, beq_iff_eq] at h
  rcases h with (hlower | hdigit) | rfl
  · exact toNat_lt_of_isAlphanum (Bool.or_eq_true_iff.2 (Or.inl (Bool.or_eq_true_iff.2
      (Or.inr hlower))))
  · exact toNat_lt_of_isAlphanum (Bool.or_eq_true_iff.2 (Or.inr hdigit))
  · decide

theorem forall_of_isFieldChar {P : Char → Prop}
    (h : ∀ n : Fin 128, isFieldChar (Char.ofNat n) = true → P (Char.ofNat n)) {c : Char}
    (hc : isFieldChar c = true) : P c :=
  forall_of_ascii (P := fun c ↦ isFieldChar c = true → P c) h (toNat_lt_of_isFieldChar hc) hc

theorem not_blank_of_isFieldChar {c : Char} (h : isFieldChar c = true) :
    (c == '-' || c == ' ') = false :=
  forall_of_isFieldChar (P := fun c ↦ (c == '-' || c == ' ') = false) (by decide) h

theorem isUpper_of_isFieldChar {c : Char} (h : isFieldChar c = true) : c.isUpper = false :=
  forall_of_isFieldChar (P := fun c ↦ c.isUpper = false) (by decide) h

theorem toLower_of_isFieldChar {c : Char} (h : isFieldChar c = true) : c.toLower = c :=
  forall_of_isFieldChar (P := fun c ↦ c.toLower = c) (by decide) h

/-- Without capitals, blanks and hyphens there is nothing to mark. -/
theorem snakeFrom_eq_self {cs : List Char} (before : Option Char) (marked : Bool)
    (h : ∀ c ∈ cs, isUppercase c = false ∧ c ≠ '-' ∧ c ≠ ' ') :
    snakeFrom before marked cs = cs := by
  induction cs generalizing before marked with
  | nil => rfl
  | cons c rest ih =>
    rw [List.forall_mem_cons] at h
    obtain ⟨⟨hupper, hhyphen, hblank⟩, hrest⟩ := h
    simp [snakeFrom, hupper, hhyphen, hblank, ih (some c) (c == '_') hrest]

theorem snakeFrom_of_isFieldChar {cs : List Char} (before : Option Char) (marked : Bool)
    (h : ∀ c ∈ cs, isFieldChar c = true) : snakeFrom before marked cs = cs := by
  refine snakeFrom_eq_self before marked fun c hc ↦ ⟨?_, ?_⟩
  · rw [isUppercase_of_ascii (toNat_lt_of_isFieldChar (h c hc)), isUpper_of_isFieldChar (h c hc)]
  · simpa using not_blank_of_isFieldChar (h c hc)

namespace IsFieldName

variable {cs : List Char}

theorem ascii (h : IsFieldName cs) : ∀ c ∈ cs, c.toNat < 128 :=
  fun c hc ↦ toNat_lt_of_isFieldChar (h.chars c hc)

theorem snakeChars_eq (h : IsFieldName cs) : snakeChars cs = cs :=
  snakeFrom_of_isFieldChar none false h.chars

theorem lower_eq (h : IsFieldName cs) : lower cs = cs := by
  calc
    _ = cs.map Char.toLower := lower_of_ascii h.ascii
    _ = cs.map id := List.map_congr_left fun c hc ↦ toLower_of_isFieldChar (h.chars c hc)
    _ = cs := List.map_id cs

theorem pascalChars_eq (h : IsFieldName cs) : pascalChars cs = joined true cs := by
  rw [pascalChars, h.snakeChars_eq, flatMap_capitalized_splitOn h.ascii]

theorem camelChars_eq (h : IsFieldName cs) : camelChars cs = firstLower (joined true cs) := by
  have hascii : ∀ c ∈ pascalChars cs, c.toNat < 128 := by
    rw [h.pascalChars_eq]
    exact joined_ascii h.ascii
  rw [camelChars_eq_firstLower hascii, h.pascalChars_eq]

theorem applyChars_eq (h : IsFieldName cs) (rule : RenameRule) :
    rule.applyChars cs = rule.fieldChars cs := by
  cases rule with
  | lower => exact h.lower_eq
  | upper => exact upper_of_ascii h.ascii
  | pascal => exact h.pascalChars_eq
  | camel => exact h.camelChars_eq
  | snake => exact h.snakeChars_eq
  | screamingSnake =>
    rw [RenameRule.applyChars, h.snakeChars_eq]
    exact upper_of_ascii h.ascii
  | kebab => rw [RenameRule.applyChars, h.snakeChars_eq, RenameRule.fieldChars]
  | screamingKebab =>
    rw [RenameRule.applyChars, h.snakeChars_eq]
    exact RenameRule.upper_hyphenated h.ascii

end IsFieldName

/-! ## Names of variants -/

/-- A name of a variant: ASCII letters and digits, the first one a capital. -/
structure IsVariantName (cs : List Char) : Prop where
  capital : cs.head?.any Char.isUpper = true
  chars : ∀ c ∈ cs, c.isAlphanum = true

instance (cs : List Char) : Decidable (IsVariantName cs) :=
  decidable_of_iff (cs.head?.any Char.isUpper = true ∧ cs.all Char.isAlphanum = true)
    ⟨fun ⟨hcapital, hchars⟩ ↦ ⟨hcapital, by simpa using hchars⟩,
      fun h ↦ ⟨h.capital, by simpa using h.chars⟩⟩

/-- Wherever a capital follows a capital it starts a word: a small letter comes next. -/
def CapitalsStartWords (cs : List Char) : Prop :=
  ∀ a b rest, a :: b :: rest <:+ cs → a.isUpper = true → b.isUpper = true →
    rest.head?.any Char.isLower = true

theorem capitalsStartWords_singleton (c : Char) : CapitalsStartWords [c] := by
  intro a b rest hsuffix
  have hlength := hsuffix.length_le
  simp at hlength

theorem capitalsStartWords_cons_cons (a b : Char) (rest : List Char) :
    CapitalsStartWords (a :: b :: rest) ↔
      (a.isUpper = true → b.isUpper = true → rest.head?.any Char.isLower = true) ∧
        CapitalsStartWords (b :: rest) := by
  constructor
  · intro h
    exact ⟨h a b rest List.suffix_rfl,
      fun x y tail hsuffix ↦ h x y tail (hsuffix.trans (List.suffix_cons a _))⟩
  · intro h x y tail hsuffix
    rcases List.suffix_cons_iff.1 hsuffix with heq | hinside
    · obtain ⟨rfl, htail⟩ := List.cons.inj heq
      obtain ⟨rfl, rfl⟩ := List.cons.inj htail
      exact h.1
    · exact h.2 x y tail hinside

instance decidableCapitalsStartWords : (cs : List Char) → Decidable (CapitalsStartWords cs)
  | [] => isTrue fun _ _ _ hsuffix ↦ absurd hsuffix.length_le (by simp)
  | [c] => isTrue (capitalsStartWords_singleton c)
  | a :: b :: rest =>
    have := decidableCapitalsStartWords (b :: rest)
    decidable_of_iff _ (capitalsStartWords_cons_cons a b rest).symm

/-! Letters and digits as the spellings see them. -/

theorem not_blank_of_isAlphanum {c : Char} (h : c.isAlphanum = true) :
    (c == '-' || c == ' ') = false :=
  forall_of_isAlphanum (P := fun c ↦ (c == '-' || c == ' ') = false) (by decide) h

theorem ne_underscore_of_isAlphanum {c : Char} (h : c.isAlphanum = true) : c ≠ '_' := by
  rintro rfl
  exact absurd h (by decide)

theorem isAlphanum_toLower {c : Char} (h : c.isAlphanum = true) : c.toLower.isAlphanum = true :=
  forall_of_isAlphanum (P := fun c ↦ c.toLower.isAlphanum = true) (by decide) h

/-- A letter or digit is a capital, or counts as a small character before a capital. -/
theorem isLowercase_or_isDigit {c : Char} (h : c.isAlphanum = true) :
    (isLowercase c || c.isDigit) = !c.isUpper :=
  forall_of_isAlphanum (P := fun c ↦ (isLowercase c || c.isDigit) = !c.isUpper) (by decide) h

theorem toUpper_toLower {c : Char} (h : c.isAlphanum = true) (hupper : c.isUpper = true) :
    c.toLower.toUpper = c :=
  forall_of_isAlphanum (P := fun c ↦ c.isUpper = true → c.toLower.toUpper = c) (by decide) h hupper

theorem toLower_ne {c : Char} (h : c.isAlphanum = true) (hupper : c.isUpper = true) :
    c.toLower ≠ c :=
  forall_of_isAlphanum (P := fun c ↦ c.isUpper = true → c.toLower ≠ c) (by decide) h hupper

theorem toLower_of_small {c : Char} (h : c.isAlphanum = true) (hupper : c.isUpper = false) :
    c.toLower = c :=
  forall_of_isAlphanum (P := fun c ↦ c.isUpper = false → c.toLower = c) (by decide) h hupper

/-- A capital starts a word unless it stands in a run of capitals that goes on. -/
theorem startsWord_iff {p : Char} {rest : List Char} (hp : p.isAlphanum = true)
    (hrest : ∀ c ∈ rest, c.isAlphanum = true) :
    startsWord (some p) rest.head? = true ↔
      (p.isUpper = true → rest.head?.any Char.isLower = true) := by
  have hnext : (rest.head?.map isLowercase).getD false = rest.head?.any Char.isLower := by
    cases rest with
    | nil => rfl
    | cons c rest =>
      exact isLowercase_of_ascii (toNat_lt_of_isAlphanum (hrest c List.mem_cons_self))
  simp only [startsWord, isLowercase_or_isDigit hp, hnext,
    isUppercase_of_ascii (toNat_lt_of_isAlphanum hp)]
  cases p.isUpper <;> simp

theorem capitalsStartWords_capital {p c : Char} {rest : List Char} (hp : p.isAlphanum = true)
    (hupper : c.isUpper = true) (hrest : ∀ d ∈ rest, d.isAlphanum = true) :
    CapitalsStartWords (p :: c :: rest) ↔
      startsWord (some p) rest.head? = true ∧ CapitalsStartWords (c :: rest) := by
  rw [capitalsStartWords_cons_cons, startsWord_iff hp hrest]
  simp [hupper]

theorem capitalsStartWords_small (p : Char) {c : Char} (rest : List Char)
    (hupper : c.isUpper = false) :
    CapitalsStartWords (p :: c :: rest) ↔ CapitalsStartWords (c :: rest) := by
  rw [capitalsStartWords_cons_cons]
  simp [hupper]

theorem snakeFrom_capital {before : Option Char} {c : Char} {rest : List Char}
    (hc : c.isAlphanum = true) (hupper : c.isUpper = true) :
    snakeFrom before false (c :: rest) =
      (if startsWord before rest.head? then ['_'] else []) ++
        c.toLower :: snakeFrom (some c) false rest := by
  have hascii := toNat_lt_of_isAlphanum hc
  rw [snakeFrom, not_blank_of_isAlphanum hc, isUppercase_of_ascii hascii, hupper,
    lowerChar_of_ascii hascii]
  simp

theorem snakeFrom_small {before : Option Char} {c : Char} {rest : List Char}
    (hc : c.isAlphanum = true) (hupper : c.isUpper = false) :
    snakeFrom before false (c :: rest) = c :: snakeFrom (some c) false rest := by
  rw [snakeFrom, not_blank_of_isAlphanum hc, isUppercase_of_ascii (toNat_lt_of_isAlphanum hc),
    hupper, beq_false_of_ne (ne_underscore_of_isAlphanum hc)]
  rfl

/-- Marking the starts of words is marking all capitals exactly if capitals start words. The result
may still be mapped, as long as no letter or digit becomes what the underscore becomes. -/
theorem map_snakeFrom_eq_iff {f : Char → Char} (hf : ∀ c, c.isAlphanum = true → f c ≠ f '_')
    {p : Char} {cs : List Char} (hp : p.isAlphanum = true)
    (hcs : ∀ c ∈ cs, c.isAlphanum = true) :
    (snakeFrom (some p) false cs).map f = (separated cs).map f ↔ CapitalsStartWords (p :: cs) := by
  induction cs generalizing p with
  | nil => exact iff_of_true rfl (capitalsStartWords_singleton p)
  | cons c rest ih =>
    have hc := hcs c List.mem_cons_self
    have hrest : ∀ d ∈ rest, d.isAlphanum = true := fun d hd ↦ hcs d (List.mem_cons_of_mem c hd)
    rw [separated, List.flatMap_cons, ← separated]
    cases hupper : c.isUpper with
    | false =>
      rw [snakeFrom_small hc hupper, capitalsStartWords_small p rest hupper]
      simp [toLower_of_small hc hupper, ih hc hrest]
    | true =>
      rw [snakeFrom_capital hc hupper, capitalsStartWords_capital hp hupper hrest]
      cases startsWord (some p) rest.head? with
      | false =>
        -- There is an underscore on one side and a letter on the other.
        simp [hf c.toLower (isAlphanum_toLower hc)]
      | true => simp [ih hc hrest]

/-- Joining the words of a name gives the name back exactly if capitals start words. -/
theorem joined_snakeFrom_eq_iff {p : Char} {cs : List Char} (hp : p.isAlphanum = true)
    (hcs : ∀ c ∈ cs, c.isAlphanum = true) :
    joined false (snakeFrom (some p) false cs) = cs ↔ CapitalsStartWords (p :: cs) := by
  induction cs generalizing p with
  | nil => exact iff_of_true rfl (capitalsStartWords_singleton p)
  | cons c rest ih =>
    have hc := hcs c List.mem_cons_self
    have hrest : ∀ d ∈ rest, d.isAlphanum = true := fun d hd ↦ hcs d (List.mem_cons_of_mem c hd)
    have hmark : c ≠ '_' := ne_underscore_of_isAlphanum hc
    have hlowerMark : c.toLower ≠ '_' := ne_underscore_of_isAlphanum (isAlphanum_toLower hc)
    cases hupper : c.isUpper with
    | false =>
      rw [snakeFrom_small hc hupper, capitalsStartWords_small p rest hupper]
      simp [joined, hmark, ih hc hrest]
    | true =>
      rw [snakeFrom_capital hc hupper, capitalsStartWords_capital hp hupper hrest]
      cases startsWord (some p) rest.head? with
      | false => simp [joined, hlowerMark, toLower_ne hc hupper]
      | true => simp [joined, hlowerMark, toUpper_toLower hc hupper, ih hc hrest]

theorem snakeFrom_ascii {before : Option Char} {cs : List Char}
    (h : ∀ c ∈ cs, c.isAlphanum = true) : ∀ c ∈ snakeFrom before false cs, c.toNat < 128 := by
  induction cs generalizing before with
  | nil => exact List.forall_mem_nil _
  | cons c rest ih =>
    have hc := h c List.mem_cons_self
    have hrest : ∀ d ∈ rest, d.isAlphanum = true := fun d hd ↦ h d (List.mem_cons_of_mem c hd)
    have hlower := toNat_lt_of_isAlphanum (isAlphanum_toLower hc)
    cases hupper : c.isUpper with
    | false =>
      rw [snakeFrom_small hc hupper]
      exact List.forall_mem_cons.2 ⟨toNat_lt_of_isAlphanum hc, ih hrest⟩
    | true =>
      rw [snakeFrom_capital hc hupper]
      cases startsWord before rest.head? with
      | false => exact List.forall_mem_cons.2 ⟨hlower, ih hrest⟩
      | true =>
        exact List.forall_mem_cons.2
          ⟨by decide, List.forall_mem_cons.2 ⟨hlower, ih hrest⟩⟩

namespace IsVariantName

variable {c : Char} {rest : List Char}

theorem rest_isAlphanum (h : IsVariantName (c :: rest)) : ∀ d ∈ rest, d.isAlphanum = true :=
  fun d hd ↦ h.chars d (List.mem_cons_of_mem c hd)

theorem snakeChars_eq (h : IsVariantName (c :: rest)) :
    snakeChars (c :: rest) = c.toLower :: snakeFrom (some c) false rest :=
  snakeFrom_capital (h.chars c List.mem_cons_self) h.capital

theorem pascalChars_eq (h : IsVariantName (c :: rest)) :
    pascalChars (c :: rest) = c :: joined false (snakeFrom (some c) false rest) := by
  have hc := h.chars c List.mem_cons_self
  have hmark : c.toLower ≠ '_' := ne_underscore_of_isAlphanum (isAlphanum_toLower hc)
  have hback : c.toLower.toUpper = c := toUpper_toLower hc h.capital
  have hascii : ∀ d ∈ snakeChars (c :: rest), d.toNat < 128 := snakeFrom_ascii h.chars
  rw [pascalChars, flatMap_capitalized_splitOn hascii, h.snakeChars_eq, joined, if_neg hmark,
    if_pos rfl, hback]

theorem camelChars_eq (h : IsVariantName (c :: rest)) :
    camelChars (c :: rest) = c.toLower :: joined false (snakeFrom (some c) false rest) := by
  have hc := toNat_lt_of_isAlphanum (h.chars c List.mem_cons_self)
  rw [camelChars, h.pascalChars_eq]
  simp only [lowerChar_of_ascii hc, List.singleton_append]

theorem map_snakeChars_eq_iff (h : IsVariantName (c :: rest)) {f : Char → Char}
    (hf : ∀ c, c.isAlphanum = true → f c ≠ f '_') :
    (snakeChars (c :: rest)).map f = (separatedInside (c :: rest)).map f ↔
      CapitalsStartWords (c :: rest) := by
  rw [h.snakeChars_eq, separatedInside, List.map_cons, List.map_cons, List.cons_inj_right]
  exact map_snakeFrom_eq_iff hf (h.chars c List.mem_cons_self) h.rest_isAlphanum

/-- The rules that look at words agree with the serializer exactly if capitals start words. -/
theorem applyChars_eq_iff_of_ne (h : IsVariantName (c :: rest)) {rule : RenameRule}
    (hlower : rule ≠ .lower) (hupper : rule ≠ .upper) :
    rule.applyChars (c :: rest) = rule.variantChars (c :: rest) ↔
      CapitalsStartWords (c :: rest) := by
  have hsnake : ∀ d ∈ snakeChars (c :: rest), d.toNat < 128 := snakeFrom_ascii h.chars
  have hjoined := joined_snakeFrom_eq_iff (h.chars c List.mem_cons_self) h.rest_isAlphanum
  -- No map that finishes a spelling takes a letter or digit to the image of the underscore.
  have hkeeps {f : Char → Char} (hf : ∀ n : Fin 128, (Char.ofNat n).isAlphanum = true →
      f (Char.ofNat n) ≠ f '_') : ∀ d, d.isAlphanum = true → f d ≠ f '_' :=
    fun _ hd ↦ forall_of_isAlphanum (P := fun d ↦ f d ≠ f '_') hf hd
  cases rule with
  | lower => exact absurd rfl hlower
  | upper => exact absurd rfl hupper
  | pascal =>
    rw [RenameRule.applyChars, RenameRule.variantChars, h.pascalChars_eq, List.cons_inj_right,
      hjoined]
  | camel =>
    rw [RenameRule.applyChars, RenameRule.variantChars, h.camelChars_eq, firstLower,
      List.cons_inj_right, hjoined]
  | snake =>
    rw [RenameRule.applyChars, RenameRule.variantChars,
      ← h.map_snakeChars_eq_iff (hkeeps (f := id) (by decide)), List.map_id, List.map_id]
  | screamingSnake =>
    rw [RenameRule.applyChars, RenameRule.variantChars, upper_of_ascii hsnake,
      h.map_snakeChars_eq_iff (hkeeps (by decide))]
  | kebab =>
    rw [RenameRule.applyChars, RenameRule.variantChars, RenameRule.hyphenated,
      RenameRule.hyphenated, h.map_snakeChars_eq_iff (hkeeps (by decide))]
  | screamingKebab =>
    rw [RenameRule.applyChars, RenameRule.variantChars, RenameRule.upper_hyphenated hsnake,
      RenameRule.hyphenated, RenameRule.hyphenated, List.map_map, List.map_map,
      h.map_snakeChars_eq_iff (hkeeps (by decide))]

theorem applyChars_eq_iff (h : IsVariantName (c :: rest)) (rule : RenameRule) :
    rule.applyChars (c :: rest) = rule.variantChars (c :: rest) ↔
      rule = .lower ∨ rule = .upper ∨ CapitalsStartWords (c :: rest) := by
  have hascii : ∀ d ∈ c :: rest, d.toNat < 128 := fun d hd ↦ toNat_lt_of_isAlphanum (h.chars d hd)
  by_cases hlower : rule = .lower
  · subst hlower
    exact iff_of_true (lower_of_ascii hascii) (Or.inl rfl)
  by_cases hupper : rule = .upper
  · subst hupper
    exact iff_of_true (upper_of_ascii hascii) (Or.inr (Or.inl rfl))
  rw [h.applyChars_eq_iff_of_ne hlower hupper, or_iff_right hlower, or_iff_right hupper]

end IsVariantName

end ApiAtlas.Naming

namespace ApiAtlas.Extraction

open Naming

/-! ## Names on the wire -/

/-- Attributes that leave the name of a field or a variant to the rule of its type. -/
structure FieldNotes.LeavesName (notes : FieldNotes) : Prop where
  wireName : notes.wireName = none
  serializedName : notes.serializedName = none
  isSkipped : notes.isSkipped = false
  isFlattened : notes.isFlattened = false

theorem plainName_of_isFieldName {ident : String} (h : IsFieldName ident.toList) :
    plainName ident = ident := by
  unfold plainName
  split
  · next rest heq =>
    have hmark := h.chars '#' (by simp [heq])
    exact absurd hmark (by decide)
  · exact String.ofList_toList

/-- The name of a field on the wire is the one that the serializer writes: every rule renames an
identifier as the serializer does, and a field whose attributes leave the name to the rule gets that
name. -/
theorem field_names_agree (rule : RenameRule) (ident : String) (h : IsFieldName ident.toList) :
    renameBy rule.name ident = rule.fieldName ident ∧
      ∀ (attributeName : String) (f : Source.Field), f.name = some ident →
        (FieldNotes.ofAttributes attributeName f.attributes).LeavesName →
        (fieldOf attributeName (some rule.name) f).wireName = rule.fieldName ident := by
  have hrename : renameBy rule.name ident = rule.fieldName ident := by
    rw [rule.renameBy_name, h.applyChars_eq rule, RenameRule.fieldName]
  refine ⟨hrename, ?_⟩
  intro attributeName f hname hnotes
  have hplain : plainName (f.name.getD "") = ident := by
    rw [hname]
    exact plainName_of_isFieldName h
  simp only [fieldOf, hplain, hnotes.wireName, hnotes.serializedName, hnotes.isSkipped,
    hnotes.isFlattened]
  exact hrename

/-- A field without attributes, declared as a string. -/
def bareField (name : String) : Source.Field :=
  ⟨[], [], some name, .path none [.plain "String"]⟩

theorem field_names_of_second_id :
    IsFieldName "__user_2nd__id_".toList ∧
      renameBy "camelCase" "__user_2nd__id_" = "user2ndId" ∧
      (fieldOf "api" (some "camelCase") (bareField "__user_2nd__id_")).wireName = "user2ndId" := by
  have hname : IsFieldName "__user_2nd__id_".toList := by decide
  have hcamel : RenameRule.camel.fieldName "__user_2nd__id_" = "user2ndId" := by decide
  obtain ⟨hrename, hwire⟩ := field_names_agree .camel "__user_2nd__id_" hname
  exact ⟨hname, hrename.trans hcamel,
    (hwire "api" (bareField "__user_2nd__id_") rfl ⟨rfl, rfl, rfl, rfl⟩).trans hcamel⟩

/-- The name of a variant on the wire is the one that the serializer writes exactly if the rule only
changes the case of the whole name, or every capital after a capital starts a word. -/
theorem variant_names_agree_iff (rule : RenameRule) (ident : String)
    (h : IsVariantName ident.toList) :
    (renameBy rule.name ident = rule.variantName ident ↔
        rule = .lower ∨ rule = .upper ∨ CapitalsStartWords ident.toList) ∧
      ∀ (attributeName : String) (v : Source.Variant), v.name = ident →
        (FieldNotes.ofAttributes attributeName v.attributes).LeavesName →
        (variantValue? attributeName (some rule.name) v = some (.string (rule.variantName ident)) ↔
          rule = .lower ∨ rule = .upper ∨ CapitalsStartWords ident.toList) := by
  have hrename : renameBy rule.name ident = rule.variantName ident ↔
      rule = .lower ∨ rule = .upper ∨ CapitalsStartWords ident.toList := by
    rw [rule.renameBy_name, RenameRule.variantName, String.ofList_inj]
    cases hchars : ident.toList with
    | nil =>
      rw [hchars] at h
      exact absurd h.capital (by decide)
    | cons c rest =>
      rw [hchars] at h
      exact h.applyChars_eq_iff rule
  refine ⟨hrename, ?_⟩
  intro attributeName v hname hnotes
  have hvalue : variantValue? attributeName (some rule.name) v =
      some (.string (renameBy rule.name ident)) := by
    simp [variantValue?, hnotes.wireName, hnotes.serializedName, hnotes.isSkipped, hname]
  rw [hvalue, ← hrename]
  simp

/-- A variant without attributes and data. -/
def bareVariant (name : String) : Source.Variant :=
  ⟨[], [], name, .unit, none⟩

theorem variant_names_of_x_axis :
    IsVariantName "XAxis2D".toList ∧ CapitalsStartWords "XAxis2D".toList ∧
      renameBy "SCREAMING-KEBAB-CASE" "XAxis2D" = "X-AXIS2-D" ∧
      variantValue? "api" (some "SCREAMING-KEBAB-CASE") (bareVariant "XAxis2D") =
        some (.string "X-AXIS2-D") := by
  have hname : IsVariantName "XAxis2D".toList := by decide
  have hwords : CapitalsStartWords "XAxis2D".toList := by decide
  have hkebab : RenameRule.screamingKebab.variantName "XAxis2D" = "X-AXIS2-D" := by decide
  obtain ⟨hrename, hvalue⟩ := variant_names_agree_iff .screamingKebab "XAxis2D" hname
  refine ⟨hname, hwords, (hrename.2 (Or.inr (Or.inr hwords))).trans hkebab, ?_⟩
  rw [← hkebab]
  exact (hvalue "api" (bareVariant "XAxis2D") rfl ⟨rfl, rfl, rfl, rfl⟩).2 (Or.inr (Or.inr hwords))

/-- An acronym is one word here, and to the serializer each of its letters is one. -/
theorem acronym_renamed_differently :
    IsVariantName "HTTPRequest".toList ∧
      renameBy "snake_case" "HTTPRequest" = "http_request" ∧
      RenameRule.snake.variantName "HTTPRequest" = "h_t_t_p_request" ∧
      renameBy "PascalCase" "HTTPRequest" = "HttpRequest" ∧
      RenameRule.pascal.variantName "HTTPRequest" = "HTTPRequest" ∧
      variantValue? "api" (some "snake_case") (bareVariant "HTTPRequest") =
        some (.string "http_request") := by
  have hsnake : renameBy "snake_case" "HTTPRequest" = "http_request" := by decide
  refine ⟨by decide, hsnake, by decide, by decide, by decide, ?_⟩
  exact congrArg (fun name ↦ some (Json.string name)) hsnake

end ApiAtlas.Extraction

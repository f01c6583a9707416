import ApiAtlas.Proofs.NameCharacters

/-!
# Snake case keeps the letters

Spelling an ASCII name in snake case changes nothing but letter case and separators. Where an
underscore is put depends on the characters before and after a capital and on the output so far,
but it is an underscore in any case: without underscores the spelling is the name in lower case
without its separators. Nothing is left in it that would be spelled differently, so a name and its
snake case have the same spellings.
-/

namespace ApiAtlas.Naming

open Text

/-! ## Characters -/

/-- The characters that separate words. -/
def separators : List Char :=
  ['_', '-', ' ']

theorem toLower_of_not_isUppercase {c : Char} (hc : c.toNat < 128) (h : isUppercase c = false) :
    c.toLower = c := by
  rw [isUppercase_of_ascii hc] at h
  exact forall_of_ascii (P := fun c ↦ c.isUpper = false → c.toLower = c) (by decide) hc h

theorem toLower_notMem_separators {c : Char} (hc : c.toNat < 128) (h : isUppercase c = true) :
    c.toLower ∉ separators := by
  rw [isUppercase_of_ascii hc] at h
  exact forall_of_ascii (P := fun c ↦ c.isUpper = true → c.toLower ∉ separators) (by decide) hc h

theorem isUppercase_toLower {c : Char} (hc : c.toNat < 128) : isUppercase c.toLower = false :=
  forall_of_ascii (P := fun c ↦ isUppercase c.toLower = false) (by decide) hc

/-- Snake case has neither capitals nor hyphens and spaces. -/
theorem of_mem_snakeChars {cs : List Char} (h : ∀ c ∈ cs, c.toNat < 128) :
    ∀ c ∈ snakeChars cs, isUppercase c = false ∧ c ≠ '-' ∧ c ≠ ' ' := by
  refine forall_mem_snakeFrom (by decide) none false (fun c hc hupper ↦ ?_)
    fun c _ hupper hhyphen hblank ↦ ⟨hupper, hhyphen, hblank⟩
  have hletter := toLower_notMem_separators (h c hc) hupper
  rw [lowerChar_of_ascii (h c hc), List.forall_mem_singleton]
  refine ⟨isUppercase_toLower (h c hc), ?_, ?_⟩
  · intro hhyphen
    exact hletter (hhyphen ▸ by decide)
  · intro hblank
    exact hletter (hblank ▸ by decide)

/-! ## Contents -/

/-- A text without its separators. -/
def withoutSeparators (cs : List Char) : List Char :=
  cs.filter fun c ↦ c ∉ separators

theorem filter_marks {marks : List Char} (h : ∀ c ∈ marks, c = '_') (cs : List Char) :
    (marks ++ cs).filter (· != '_') = cs.filter (· != '_') := by
  have hnone : marks.filter (· != '_') = [] := by simpa [List.filter_eq_nil_iff] using h
  rw [List.filter_append, hnone, List.nil_append]

/-- Underscores apart, the rest of a name is spelled as its characters in lower case, whatever has
come before. -/
theorem filter_snakeFrom {cs : List Char} (before : Option Char) (marked : Bool)
    (h : ∀ c ∈ cs, c.toNat < 128) :
    (snakeFrom before marked cs).filter (· != '_') = withoutSeparators (cs.map Char.toLower) := by
  induction cs generalizing before marked with
  | nil => rfl
  | cons c rest ih =>
    rw [List.forall_mem_cons] at h
    have hrest (marked : Bool) := ih (some c) marked h.2
    rw [snakeFrom, List.map_cons, withoutSeparators, List.filter_cons, ← withoutSeparators]
    split
    case isTrue hseparator =>
      have hdropped : c.toLower ∈ separators := by
        rcases Bool.or_eq_true_iff.1 hseparator with hc | hc <;> rw [beq_iff_eq.1 hc] <;> decide
      rw [filter_marks (by split <;> simp), hrest, if_neg (by simpa using hdropped)]
    case isFalse hkept =>
      split
      case isTrue hupper =>
        have hletter := toLower_notMem_separators h.1 hupper
        have hmark : c.toLower ≠ '_' := fun hmark ↦ hletter (hmark ▸ by decide)
        rw [filter_marks (by split <;> simp), lowerChar_of_ascii h.1,
          if_pos (by simpa using hletter), ← hrest false]
        simp [hmark]
      case isFalse hupper =>
        rw [toLower_of_not_isUppercase h.1 (by simpa using hupper), ← hrest (c == '_')]
        by_cases hmark : c = '_'
        · simp [hmark, separators]
        · have hletter : c ∉ separators := by simp_all [separators]
          simp [hmark, hletter]

/-! ## Spellings -/

theorem snakeChars_snakeChars {cs : List Char} (h : ∀ c ∈ cs, c.toNat < 128) :
    snakeChars (snakeChars cs) = snakeChars cs :=
  snakeFrom_eq_self none false (of_mem_snakeChars h)

/-- An ASCII name in snake case has no capital, hyphen or space. Without underscores it is the name
in lower case without its separators, so no other character is lost, added or moved. Spelling it in
snake case again changes nothing, and it has the same Pascal and camel case as the name. -/
theorem snake_keeps_letters {s : String} (h : ∀ c ∈ s.toList, c.toNat < 128) :
    (∀ c ∈ (snake s).toList, isUppercase c = false ∧ c ≠ '-' ∧ c ≠ ' ') ∧
    (snake s).toList.filter (· != '_') = withoutSeparators (lower s.toList) ∧
    snake (snake s) = snake s ∧ pascal (snake s) = pascal s ∧ camel (snake s) = camel s := by
  have hagain := snakeChars_snakeChars h
  have hpascal : pascalChars (snakeChars s.toList) = pascalChars s.toList := by
    rw [pascalChars, hagain, ← pascalChars]
  refine ⟨?_, ?_, ?_, ?_, ?_⟩
  · rw [snake, String.toList_ofList]
    exact of_mem_snakeChars h
  · rw [snake, String.toList_ofList, lower_of_ascii h]
    exact filter_snakeFrom none false h
  · rw [snake, snake, String.toList_ofList, hagain]
  · rw [pascal, snake, String.toList_ofList, hpascal, ← pascal]
  · rw [camel, snake, String.toList_ofList, camelChars, hpascal, ← camelChars, ← camel]

/-- Capitals, a digit, underscores and separators of all kinds side by side. -/
def mixedName : String :=
  "_HTTPServer2Go -X__y"

theorem snake_keeps_letters_mixedName :
    (∀ c ∈ mixedName.toList, c.toNat < 128) ∧ snake mixedName = "_http_server2_go_x__y" ∧
      (∀ c ∈ (snake mixedName).toList, isUppercase c = false ∧ c ≠ '-' ∧ c ≠ ' ') ∧
      (snake mixedName).toList.filter (· != '_') = "httpserver2goxy".toList ∧
      snake (snake mixedName) = snake mixedName ∧ pascal (snake mixedName) = pascal mixedName ∧
      camel (snake mixedName) = camel mixedName := by
  have hascii : ∀ c ∈ mixedName.toList, c.toNat < 128 := List.forall_mem_iff_getElem.2 (by decide)
  have hletters : withoutSeparators (lower mixedName.toList) = "httpserver2goxy".toList := by decide
  obtain ⟨hchars, hfilter, hsame⟩ := snake_keeps_letters hascii
  exact ⟨hascii, by decide, hchars, hfilter.trans hletters, hsame⟩

end ApiAtlas.Naming

import ApiAtlas.Proofs.WireNames
import ApiAtlas.Source.Lexer

/-!
# The characters of names

Names are made of letters, digits, underscores and characters beyond ASCII, and raw identifiers have
a sharp sign. The other spellings of a name are made of such characters too, since the case mappings
lead to no others: this is checked row by row in their tables. So a name keeps clear of the signs
that separate it from its surroundings, whatever is done to its letters.
-/

namespace ApiAtlas.Text

/-- Whether a character may stand in a name. -/
def isNameChar (c : Char) : Bool :=
  128 ≤ c.toNat || c.isAlphanum || c == '_' || c == '#'

/-- A text that is made of the characters of names. -/
def IsNameText (s : String) : Prop :=
  ∀ c ∈ s.toList, isNameChar c = true

instance (s : String) : Decidable (IsNameText s) :=
  List.decidableBAll (fun c ↦ isNameChar c = true) s.toList

theorem IsNameText.append {s t : String} (hs : IsNameText s) (ht : IsNameText t) :
    IsNameText (s ++ t) := by
  rw [IsNameText, String.toList_append]
  exact List.forall_mem_append.2 ⟨hs, ht⟩

theorem IsNameText.notMem {s : String} (h : IsNameText s) {sign : Char}
    (hsign : isNameChar sign = false) : sign ∉ s.toList := by
  intro hmem
  rw [h sign hmem] at hsign
  exact absurd hsign (by decide)

/-! ## Case mappings -/

theorem isNameChar_ofNat {code : Nat} (hcode : 128 ≤ code) (hvalid : code.isValidChar) :
    isNameChar (Char.ofNat code) = true := by
  have htoNat : (Char.ofNat code).toNat = code := by
    rw [Char.ofNat, dif_pos hvalid]
    rfl
  simp [isNameChar, htoNat, hcode]

/-- Whether a row moves code points beyond ASCII to such code points. A row with a single code point
may also lead back to a letter. -/
def isClosedRow (row : CodeTable.ShiftRow) : Bool :=
  let first := ((row.1 : Int) + row.2.2.2).toNat
  let last := ((row.2.1 : Int) + row.2.2.2).toNat
  128 ≤ first && (last < 0xD800 || 0xE000 ≤ first && last < 0x110000) ||
    row.1 == row.2.1 && isNameChar (Char.ofNat first)

theorem isNameChar_shift {row : CodeTable.ShiftRow} (hrow : isClosedRow row = true) {code : Nat}
    (hholds : CodeTable.Row.holds (row.1, row.2.1, row.2.2.1) code = true) :
    isNameChar (Char.ofNat ((code : Int) + row.2.2.2).toNat) = true := by
  simp only [CodeTable.Row.holds, Bool.and_eq_true, decide_eq_true_eq] at hholds
  simp only [isClosedRow, Bool.or_eq_true, Bool.and_eq_true, decide_eq_true_eq, beq_iff_eq] at hrow
  rcases hrow with ⟨hfirst, hlast⟩ | ⟨hone, hfirst⟩
  · apply isNameChar_ofNat
    · omega
    · simp only [Nat.isValidChar]
      omega
  · have hcode : code = row.1 := by omega
    rw [hcode]
    exact hfirst

theorem isNameChar_of_mem_mapByTable {shifts : List CodeTable.ShiftRow}
    {many : List (Nat × List Nat)} (hshifts : ∀ row ∈ shifts, isClosedRow row = true)
    (hmany : ∀ entry ∈ many, ∀ code ∈ entry.2, isNameChar (Char.ofNat code) = true) {c : Char}
    (hc : isNameChar c = true) : ∀ d ∈ mapByTable shifts many c, isNameChar d = true := by
  intro d hd
  rw [mapByTable] at hd
  cases hlookup : many.lookup c.toNat with
  | some codes =>
    rw [hlookup] at hd
    obtain ⟨code, hcode, rfl⟩ := List.mem_map.1 hd
    obtain ⟨before, after, rfl, -⟩ := List.lookup_eq_some_iff.1 hlookup
    exact hmany (c.toNat, codes) (by simp) code hcode
  | none =>
    rw [hlookup, List.mem_singleton] at hd
    cases hshift : CodeTable.shift? shifts c.toNat with
    | none =>
      rw [hd, hshift]
      exact hc
    | some code =>
      rw [hd, hshift]
      obtain ⟨row, hrow, rfl⟩ := Option.map_eq_some_iff.1 hshift
      exact isNameChar_shift (hshifts row (List.mem_of_find?_eq_some hrow))
        (by simpa using List.find?_some hrow)

theorem isClosedRow_toLower : ∀ row ∈ LetterTable.toLower, isClosedRow row = true :=
  List.all_eq_true.1 (by decide +kernel)

theorem isClosedRow_toUpper : ∀ row ∈ LetterTable.toUpper, isClosedRow row = true :=
  List.all_eq_true.1 (by decide +kernel)

theorem isNameChar_toLowerMany : ∀ entry ∈ LetterTable.toLowerMany, ∀ code ∈ entry.2,
    isNameChar (Char.ofNat code) = true := by
  decide +kernel

theorem isNameChar_toUpperMany : ∀ entry ∈ LetterTable.toUpperMany, ∀ code ∈ entry.2,
    isNameChar (Char.ofNat code) = true := by
  decide +kernel

theorem isNameChar_of_mem_lowerChar {c : Char} (hc : isNameChar c = true) :
    ∀ d ∈ lowerChar c, isNameChar d = true := by
  by_cases hascii : c.toNat < 128
  · rw [lowerChar_of_ascii hascii, List.forall_mem_singleton]
    exact forall_of_ascii (P := fun c ↦ isNameChar c = true → isNameChar c.toLower = true)
      (by decide) hascii hc
  · rw [lowerChar, if_neg hascii]
    exact isNameChar_of_mem_mapByTable isClosedRow_toLower isNameChar_toLowerMany hc

theorem isNameChar_of_mem_upperChar {c : Char} (hc : isNameChar c = true) :
    ∀ d ∈ upperChar c, isNameChar d = true := by
  by_cases hascii : c.toNat < 128
  · rw [upperChar_of_ascii hascii, List.forall_mem_singleton]
    exact forall_of_ascii (P := fun c ↦ isNameChar c = true → isNameChar c.toUpper = true)
      (by decide) hascii hc
  · rw [upperChar, if_neg hascii]
    exact isNameChar_of_mem_mapByTable isClosedRow_toUpper isNameChar_toUpperMany hc

/-! ## Pieces of texts -/

theorem takeWhile_append_cons {α : Type} [DecidableEq α] {stop : α} {front : List α}
    (h : stop ∉ front) (rest : List α) :
    (front ++ stop :: rest).takeWhile (fun c ↦ c != stop) = front := by
  have hfront : ∀ c ∈ front, (c != stop) = true :=
    fun c hc ↦ bne_iff_ne.2 (ne_of_mem_of_not_mem hc h)
  rw [List.takeWhile_append_of_pos hfront]
  simp

theorem splitOn_eq_splitOn (sep : Char) (cs : List Char) : splitOn sep cs = cs.splitOn sep := by
  rw [splitOn, splitWhere_eq_splitOnP, List.splitOn_eq_splitOnP]

theorem of_mem_splitOn {sep c : Char} {cs piece : List Char} (hpiece : piece ∈ splitOn sep cs)
    (hc : c ∈ piece) : c ∈ cs ∧ c ≠ sep := by
  induction cs generalizing piece with
  | nil => simp_all [splitOn, splitWhere]
  | cons d cs ih =>
    have hkept {piece : List Char} (hpiece : piece ∈ splitOn sep cs) (hc : c ∈ piece) :
        c ∈ d :: cs ∧ c ≠ sep :=
      ⟨List.mem_cons_of_mem d (ih hpiece hc).1, (ih hpiece hc).2⟩
    rw [splitOn_cons] at hpiece
    split at hpiece
    · rcases List.mem_cons.1 hpiece with rfl | hpiece
      · exact absurd hc List.not_mem_nil
      · exact hkept hpiece hc
    case isFalse hd =>
      cases hsplit : splitOn sep cs with
      | nil => simp [hsplit] at hpiece
      | cons first others =>
        rw [hsplit] at hpiece hkept
        rcases List.mem_cons.1 hpiece with rfl | hpiece
        · rcases List.mem_cons.1 hc with rfl | hc
          · exact ⟨List.mem_cons_self, by simpa using hd⟩
          · exact hkept List.mem_cons_self hc
        · exact hkept (List.mem_cons_of_mem first hpiece) hc

end ApiAtlas.Text

namespace ApiAtlas.Naming

open Text

/-! ## Spellings -/

/-- What holds of the underscore, of the small forms of all capitals and of the other characters
but hyphens and spaces holds of the whole spelling. -/
theorem forall_mem_snakeFrom {p : Char → Prop} (hmark : p '_') (before : Option Char)
    (marked : Bool) {cs : List Char}
    (hlower : ∀ c ∈ cs, isUppercase c = true → ∀ d ∈ lowerChar c, p d)
    (hother : ∀ c ∈ cs, isUppercase c = false → c ≠ '-' → c ≠ ' ' → p c) :
    ∀ d ∈ snakeFrom before marked cs, p d := by
  induction cs generalizing before marked with
  | nil => exact List.forall_mem_nil _
  | cons c rest ih =>
    rw [List.forall_mem_cons] at hlower hother
    have hrest (marked : Bool) := ih (some c) marked hlower.2 hother.2
    have hmarks (b : Prop) [Decidable b] : ∀ d ∈ (if b then ['_'] else []), p d := by
      split
      · exact List.forall_mem_singleton.2 hmark
      · exact List.forall_mem_nil _
    rw [snakeFrom]
    split
    · cases marked
      · exact List.forall_mem_cons.2 ⟨hmark, hrest true⟩
      · exact hrest true
    case isFalse hkept =>
      split
      case isTrue hupper =>
        exact List.forall_mem_append.2
          ⟨hmarks _, List.forall_mem_append.2 ⟨hlower.1 hupper, hrest false⟩⟩
      case isFalse hupper =>
        exact List.forall_mem_cons.2 ⟨hother.1 (by simpa using hupper) (by simp_all) (by simp_all),
          hrest _⟩

theorem isNameText_snake {s : String} (h : IsNameText s) : IsNameText (snake s) := by
  rw [IsNameText, snake, String.toList_ofList]
  exact forall_mem_snakeFrom (by decide) none false
    (fun c hc _ ↦ isNameChar_of_mem_lowerChar (h c hc)) fun c hc _ _ _ ↦ h c hc

theorem isNameText_pascal {s : String} (h : IsNameText s) : IsNameText (pascal s) := by
  have hsnake : ∀ c ∈ snakeChars s.toList, isNameChar c = true := by
    have hchars := isNameText_snake h
    rwa [IsNameText, snake, String.toList_ofList] at hchars
  rw [IsNameText, pascal, String.toList_ofList, pascalChars, List.forall_mem_flatMap]
  intro word hword
  have hchars : ∀ c ∈ word, isNameChar c = true :=
    fun c hc ↦ hsnake c (of_mem_splitOn hword hc).1
  cases word with
  | nil => exact List.forall_mem_nil _
  | cons c rest =>
    rw [List.forall_mem_cons] at hchars
    exact List.forall_mem_append.2 ⟨isNameChar_of_mem_upperChar hchars.1, hchars.2⟩

theorem isNameChar_of_isFieldChar {c : Char} (h : isFieldChar c = true) : isNameChar c = true :=
  forall_of_isFieldChar (P := fun c ↦ isNameChar c = true) (by decide) h

/-- An ASCII name in snake case is spelled like a field. -/
theorem isFieldChar_of_mem_snake {s : String}
    (h : ∀ c ∈ s.toList, (c.isAlphanum || c == '_') = true) :
    ∀ d ∈ (snake s).toList, isFieldChar d = true := by
  rw [snake, String.toList_ofList]
  have hascii {c : Char} (hc : c ∈ s.toList) : c.toNat < 128 := by
    rcases Bool.or_eq_true_iff.1 (h c hc) with hchar | hchar
    · exact toNat_lt_of_isAlphanum hchar
    · rw [beq_iff_eq.1 hchar]
      decide
  have hspelled {c : Char} (hc : c ∈ s.toList) :
      isFieldChar c.toLower = true ∧ (c.isUpper = false → isFieldChar c = true) :=
    forall_of_ascii (P := fun c ↦ (c.isAlphanum || c == '_') = true →
      isFieldChar c.toLower = true ∧ (c.isUpper = false → isFieldChar c = true)) (by decide)
      (hascii hc) (h c hc)
  refine forall_mem_snakeFrom (by decide) none false (fun c hc _ ↦ ?_) fun c hc hother _ _ ↦ ?_
  · rw [lowerChar_of_ascii (hascii hc), List.forall_mem_singleton]
    exact (hspelled hc).1
  · rw [isUppercase_of_ascii (hascii hc)] at hother
    exact (hspelled hc).2 hother

end ApiAtlas.Naming

namespace ApiAtlas.Source.Lexer

open Text

/-! ## Identifiers -/

/-- A text that is read as one identifier. -/
def IsIdentifier (s : String) : Prop :=
  identifier? s.toList = some (s, [])

instance (s : String) : Decidable (IsIdentifier s) :=
  inferInstanceAs (Decidable (identifier? s.toList = some (s, [])))

theorem isNameChar_of_isIdentifierContinue {c : Char} (h : isIdentifierContinue c = true) :
    isNameChar c = true := by
  by_cases hascii : c.toNat < 128
  · rw [isIdentifierContinue, if_pos hascii] at h
    rcases Bool.or_eq_true_iff.1 h with hchar | hchar <;> simp [isNameChar, hchar]
  · simp [isNameChar, Nat.le_of_not_lt hascii]

theorem isNameChar_of_isIdentifierStart {c : Char} (h : isIdentifierStart c = true) :
    isNameChar c = true := by
  by_cases hascii : c.toNat < 128
  · rw [isIdentifierStart, if_pos hascii] at h
    rcases Bool.or_eq_true_iff.1 h with hchar | hchar <;>
      simp [isNameChar, Char.isAlphanum, hchar]
  · simp [isNameChar, Nat.le_of_not_lt hascii]

theorem isNameChar_of_word? {cs word rest : List Char} (h : word? cs = some (word, rest)) :
    ∀ c ∈ word, isNameChar c = true := by
  cases cs with
  | nil => simp [word?] at h
  | cons c cs =>
    rw [word?] at h
    split at h
    case isTrue hstart =>
      cases h
      refine List.forall_mem_cons.2 ⟨isNameChar_of_isIdentifierStart hstart, fun d hd ↦ ?_⟩
      exact isNameChar_of_isIdentifierContinue (List.mem_takeWhile_imp hd)
    case isFalse => simp at h

theorem isNameText_of_rawWord? {cs rest : List Char} {s : String}
    (h : rawWord? cs = some (s, rest)) : IsNameText s := by
  rw [rawWord?.eq_def] at h
  split at h
  · split at h
    case h_1 word after hword =>
      simp only [] at h
      split at h
      · simp at h
      · have hs : s = "r#" ++ String.ofList word := by simp_all
        rw [hs]
        apply IsNameText.append (by decide)
        rw [IsNameText, String.toList_ofList]
        exact isNameChar_of_word? hword
    · simp at h
  · obtain ⟨⟨word, after⟩, hword, hs⟩ := Option.map_eq_some_iff.1 h
    cases hs
    rw [IsNameText, String.toList_ofList]
    exact isNameChar_of_word? hword

/-- An identifier is made of the characters of names. -/
theorem IsIdentifier.isNameText {s : String} (h : IsIdentifier s) : IsNameText s := by
  rw [IsIdentifier, identifier?] at h
  split at h
  · exact absurd h (by simp)
  · exact isNameText_of_rawWord? h

end ApiAtlas.Source.Lexer

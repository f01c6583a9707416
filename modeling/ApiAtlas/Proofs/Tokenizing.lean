import ApiAtlas.Directive.Apply
import ApiAtlas.Proofs.Splitting

/-!
# Directives are read as they are written

A list of groups of tokens is written by joining tokens with commas and groups with bars. Reading
such a text gives the groups back, token by token. A value may hold equals signs, and commas and
bars inside parentheses: bars are searched first, and neither search sees what the parentheses
enclose. What a directive means is thereby a matter of its tokens alone, which is spelled out for
the two ways in which the groups are used: whether a field is required, and which alternatives a
directive offers.
-/

namespace ApiAtlas.Directive

open Text

/-! ## Tokens -/

theorem parenChange_eq_zero {c : Char} (hopening : c ≠ '(') (hclosing : c ≠ ')') :
    parenChange c = 0 := by
  simp [parenChange, hopening, hclosing]

/-- Commas and bars separate; neither is a blank or a parenthesis. -/
theorem separates_of_mem {sep : Char} (h : sep ∈ [',', '|']) : Separates parenChange sep := by
  have hall : ∀ s ∈ [',', '|'], parenChange s = 0 ∧ isBlank s = false :=
    List.all_iff_forall_prop.1 (by decide)
  refine ⟨(hall sep h).1, (hall sep h).2, fun c hc ↦ ?_⟩
  apply parenChange_eq_zero
  · rintro rfl
    exact absurd hc (by decide)
  · rintro rfl
    exact absurd hc (by decide)

namespace Token

variable {t : Token}

/-- The notation of a token. -/
def text (t : Token) : List Char :=
  match t.value with
  | none => t.name.toList
  | some value => t.name.toList ++ '=' :: value.toList

/-- A token that can be told from its notation: the name has none of the characters with a meaning
of their own, and the value has commas and bars inside balanced parentheses only. -/
structure Regular (t : Token) : Prop where
  name_ne : t.name ≠ ""
  name_trimmed : Trimmed t.name.toList
  name_plain : ∀ c ∈ t.name.toList, c ∉ ['=', ',', '|', '(', ')']
  value_trimmed : ∀ value ∈ t.value, Trimmed value.toList
  value_whole : ∀ value ∈ t.value, ∀ sep ∈ [',', '|'], Whole parenChange sep value.toList

instance (t : Token) : Decidable t.Regular :=
  decidable_of_iff
    (t.name ≠ "" ∧ Trimmed t.name.toList ∧
      (t.name.toList.all fun c ↦ c ∉ ['=', ',', '|', '(', ')']) = true ∧
      (∀ value ∈ t.value, Trimmed value.toList) ∧
      ∀ value ∈ t.value, ([',', '|'].all fun sep ↦ Whole parenChange sep value.toList) = true)
    ⟨fun ⟨hne, htrimmed, hplain, hvalue, hwhole⟩ ↦
        ⟨hne, htrimmed, List.all_iff_forall_prop.1 hplain, hvalue,
          fun value h ↦ List.all_iff_forall_prop.1 (hwhole value h)⟩,
      fun h ↦ ⟨h.name_ne, h.name_trimmed, List.all_iff_forall_prop.2 h.name_plain, h.value_trimmed,
        fun value hvalue ↦ List.all_iff_forall_prop.2 (h.value_whole value hvalue)⟩⟩

namespace Regular

theorem name_toList_ne (h : t.Regular) : t.name.toList ≠ [] := by
  simpa using h.name_ne

theorem text_ne_nil (h : t.Regular) : t.text ≠ [] := by
  unfold text
  split
  · exact h.name_toList_ne
  · simp

theorem trimmed_text (h : t.Regular) : Trimmed t.text := by
  unfold text
  split
  · exact h.name_trimmed
  · next value hvalue =>
    -- Without a value the equals sign is the last character.
    by_cases hempty : value.toList = []
    · have hequals : Trimmed ['='] := by decide
      rw [hempty]
      exact h.name_trimmed.append hequals h.name_toList_ne (by simp) []
    · exact h.name_trimmed.append (h.value_trimmed value hvalue) h.name_toList_ne hempty ['=']

theorem whole_text (h : t.Regular) {sep : Char} (hsep : sep ∈ [',', '|']) :
    Whole parenChange sep t.text := by
  have hname : Whole parenChange sep t.name.toList := by
    apply whole_of_forall
    intro c hc
    have hplain := h.name_plain c hc
    simp only [List.mem_cons, List.not_mem_nil, or_false, not_or] at hplain hsep
    refine ⟨parenChange_eq_zero hplain.2.2.2.1 hplain.2.2.2.2, ?_⟩
    rcases hsep with rfl | rfl
    · exact hplain.2.1
    · exact hplain.2.2.1
  unfold text
  split
  · exact hname
  · next value hvalue =>
    have hequals : Whole parenChange sep ['='] := by
      apply whole_of_forall
      intro c hc
      obtain rfl := List.mem_singleton.1 hc
      refine ⟨rfl, ?_⟩
      rintro rfl
      exact absurd hsep (by decide)
    exact hname.append (hequals.append (h.value_whole value hvalue sep hsep))

/-- A token is read back from its notation. -/
theorem ofChars_text (h : t.Regular) : ofChars t.text = t := by
  have hname : ∀ c ∈ t.name.toList, (c != '=') = true := by
    intro c hc
    have hplain := h.name_plain c hc
    simp only [List.mem_cons, not_or] at hplain
    simpa using hplain.1
  obtain ⟨name, value⟩ := t
  cases value with
  | none =>
    have hrest : name.toList.dropWhile (· != '=') = [] := List.dropWhile_eq_nil_iff.2 hname
    simp [ofChars, text, hrest]
  | some value =>
    have hrest : (name.toList ++ '=' :: value.toList).dropWhile (· != '=') =
        '=' :: value.toList := by
      rw [List.dropWhile_append_of_pos hname]
      simp
    have hfront : (name.toList ++ '=' :: value.toList).takeWhile (· != '=') = name.toList := by
      rw [List.takeWhile_append_of_pos hname]
      simp
    simp [ofChars, text, hrest, hfront, h.name_trimmed.trim_eq,
      (h.value_trimmed value rfl).trim_eq]

end Regular

end Token

/-! ## Groups -/

/-- A joined group is read back token by token. -/
theorem tokens_of_spaced {group : List Token} (hregular : ∀ t ∈ group, t.Regular)
    {text : List Char} (htext : Spaced ',' (group.map Token.text) text) : tokens text = group := by
  cases hgroup : group with
  | nil =>
    subst hgroup
    cases htext
    rfl
  | cons first rest =>
    rw [← hgroup]
    have hpieces : splitOutside ',' text = group.map Token.text := by
      refine (separates_of_mem (by decide)).trimmedPieces_of_spaced htext (by simp [hgroup]) ?_ ?_
      · exact List.forall_mem_map.2 fun t ht ↦ (hregular t ht).trimmed_text
      · exact List.forall_mem_map.2 fun t ht ↦ (hregular t ht).whole_text (by decide)
    have hkept : (group.map Token.text).filter (fun piece ↦ !piece.isEmpty) =
        group.map Token.text := by
      apply List.filter_eq_self.2
      exact List.forall_mem_map.2 fun t ht ↦ by simpa using (hregular t ht).text_ne_nil
    calc
      tokens text = (group.map Token.text).map Token.ofChars := by rw [tokens, hpieces, hkept]
      _ = group.map (Token.ofChars ∘ Token.text) := List.map_map
      _ = group.map id := List.map_congr_left fun t ht ↦ (hregular t ht).ofChars_text
      _ = group := List.map_id group

/-- The text of a group is a piece that the search for bars leaves whole. -/
theorem whole_of_spaced_tokens {group : List Token} (hregular : ∀ t ∈ group, t.Regular)
    {text : List Char} (htext : Spaced ',' (group.map Token.text) text) :
    Trimmed text ∧ Whole parenChange '|' text := by
  constructor
  · apply htext.trimmed
    · exact List.forall_mem_map.2 fun t ht ↦ (hregular t ht).text_ne_nil
    · exact List.forall_mem_map.2 fun t ht ↦ (hregular t ht).trimmed_text
  · have hcomma : Separates parenChange ',' := separates_of_mem (by decide)
    refine hcomma.whole_of_spaced (separates_of_mem (by decide)) (by decide) htext ?_
    exact List.forall_mem_map.2 fun t ht ↦ (hregular t ht).whole_text (by decide)

/-- A directive is written for a list of groups: tokens are joined with commas and groups with bars,
each with any blanks around it. -/
def Written (gs : List (List Token)) (directive : String) : Prop :=
  ∃ texts, List.Forall₂ (fun group text ↦ Spaced ',' (group.map Token.text) text) gs texts ∧
    Spaced '|' texts directive.toList

theorem map_tokens_of_forall₂ {gs : List (List Token)} {texts : List (List Char)}
    (hregular : ∀ group ∈ gs, ∀ t ∈ group, t.Regular)
    (h : List.Forall₂ (fun group text ↦ Spaced ',' (group.map Token.text) text) gs texts) :
    texts.map tokens = gs ∧ ∀ text ∈ texts, Trimmed text ∧ Whole parenChange '|' text := by
  induction h with
  | nil => simp
  | @cons group text gs texts htext _ ih =>
    have hgroup := hregular group List.mem_cons_self
    obtain ⟨htokens, hpieces⟩ := ih fun g hg ↦ hregular g (List.mem_cons_of_mem _ hg)
    constructor
    · rw [List.map_cons, tokens_of_spaced hgroup htext, htokens]
    · exact List.forall_mem_cons.2 ⟨whole_of_spaced_tokens hgroup htext, hpieces⟩

/-- What was written is read back. -/
theorem map_tokens_groups {gs : List (List Token)} {directive : String} (hne : gs ≠ [])
    (hregular : ∀ group ∈ gs, ∀ t ∈ group, t.Regular) (hwritten : Written gs directive) :
    (groups directive.toList).map tokens = gs := by
  obtain ⟨texts, htexts, hdirective⟩ := hwritten
  obtain ⟨htokens, hpieces⟩ := map_tokens_of_forall₂ hregular htexts
  have htexts_ne : texts ≠ [] := by
    rintro rfl
    exact hne htokens.symm
  have hgroups : groups directive.toList = texts := by
    apply (separates_of_mem (by decide)).trimmedPieces_of_spaced hdirective htexts_ne
    · exact fun text htext ↦ (hpieces text htext).1
    · exact fun text htext ↦ (hpieces text htext).2
  rw [hgroups, htokens]

theorem tokens_trim (group : List Char) : tokens (trim group) = tokens group := by
  have hcomma : Separates parenChange ',' := separates_of_mem (by decide)
  rw [tokens, tokens, splitOutside, splitOutside, hcomma.trimmedPieces_trim]

theorem groups_ne_nil (directive : List Char) : groups directive ≠ [] := by
  simpa [groups, splitOutside, trimmedPieces] using piecesFrom_ne_nil parenChange '|' 0 directive

/-- The tokens of a directive with one group are those of its text. -/
theorem tokens_of_groups_eq_singleton {directive group : List Char}
    (h : groups directive = [group]) : tokens group = tokens directive := by
  obtain ⟨piece, hpiece, rfl⟩ := List.map_eq_singleton_iff.1 h
  rw [eq_of_piecesFrom_eq_singleton hpiece, tokens_trim]

/-- Of a text that is read as a token, only blanks are missing in the notation of the token. -/
theorem mem_text_ofChars {cs : List Char} {c : Char} (h : c ∈ cs) :
    isBlank c = true ∨ c ∈ (Token.ofChars cs).text := by
  unfold Token.ofChars
  split
  · simp [Token.text, h]
  · next mark value hrest =>
    have hmark : mark = '=' := by simpa [hrest] using List.head?_dropWhile_not (· != '=') cs
    have hcs : cs = cs.takeWhile (· != '=') ++ mark :: value := by
      rw [← hrest, List.takeWhile_append_dropWhile]
    rw [hcs] at h
    simp only [Token.text, String.toList_ofList]
    rcases List.mem_append.1 h with hname | hvalue
    · exact (mem_trim_of_mem hname).imp_right (List.mem_append_left _)
    · rcases List.mem_cons.1 hvalue with rfl | hvalue
      · simp [hmark]
      · refine (mem_trim_of_mem hvalue).imp_right fun hmem ↦ ?_
        exact List.mem_append_right _ (List.mem_cons_of_mem _ hmem)

/-- Of a group, only blanks and commas are missing in the notation of its tokens. -/
theorem mem_token_of_mem {group : List Char} {c : Char} (h : c ∈ group) :
    c = ',' ∨ isBlank c = true ∨ ∃ t ∈ tokens group, c ∈ t.text := by
  refine (mem_piece_of_mem parenChange ',' 0 h).imp_right ?_
  rintro ⟨piece, hpiece, hc⟩
  rcases mem_trim_of_mem hc with hblank | htrim
  · exact .inl hblank
  · refine (mem_text_ofChars htrim).imp_right fun htext ↦ ?_
    have hkept : trim piece ∈ (splitOutside ',' group).filter fun piece ↦ !piece.isEmpty :=
      List.mem_filter.2 ⟨List.mem_map_of_mem hpiece, by simp [List.ne_nil_of_mem htrim]⟩
    exact ⟨_, List.mem_map_of_mem hkept, htext⟩

/-- A directive whose tokens have no bar is a single group. -/
theorem groups_of_tokens {directive : List Char} (h : ∀ t ∈ tokens directive, '|' ∉ t.text) :
    groups directive = [trim directive] := by
  have hbar : '|' ∉ directive := by
    intro hmem
    rcases mem_token_of_mem hmem with hcomma | hblank | ⟨t, ht, htext⟩
    · exact absurd hcomma (by decide)
    · exact absurd hblank (by decide)
    · exact h t ht htext
  rw [groups, splitOutside, trimmedPieces, piecesFrom_of_notMem 0 hbar]
  rfl

/-! ## What the groups decide -/

theorem isRequired_iff (directive : String) :
    isRequired directive = true ↔
      (∃ group ∈ (groups directive.toList).map tokens, ∃ t ∈ group, t.name = "required") ∧
        ∀ group ∈ (groups directive.toList).map tokens, ∀ t ∈ group, t.name ≠ "omitempty" := by
  have hmem (name : String) :
      name ∈ ((groups directive.toList).flatMap tokens).map Token.name ↔
        ∃ group ∈ (groups directive.toList).map tokens, ∃ t ∈ group, t.name = name := by
    simp only [List.mem_map, List.mem_flatMap, exists_exists_and_eq_and]
    grind
  simp only [isRequired, Bool.and_eq_true, Bool.not_eq_true', List.contains_eq_mem,
    decide_eq_true_eq, decide_eq_false_iff_not, hmem, not_exists, not_and]

theorem anyOf_addPattern (text : String) (schema : Schema) :
    (addPattern text schema).anyOf = schema.anyOf := by
  unfold addPattern
  split <;> rfl

theorem anyOf_edit (edit : Edit) (schema : Schema) : (edit.apply schema).anyOf = schema.anyOf := by
  induction edit generalizing schema with
  | pattern text => exact anyOf_addPattern text schema
  | line text =>
    simp only [Edit.apply, Schema.describe]
    split
    · split <;> rfl
    · rfl
  | both first second ihFirst ihSecond => exact (ihSecond _).trans (ihFirst schema)
  | _ => rfl

/-- The tokens of a single group offer no alternatives. -/
theorem anyOf_applyTokens (custom : List (String × String)) (group : List Token) (wire : WireType)
    (schema : Schema) : (applyTokens custom group wire schema).1.anyOf = schema.anyOf := by
  induction group generalizing wire schema with
  | nil => rfl
  | cons t rest ih =>
    unfold applyTokens
    split
    · split <;> rfl
    · split
      · next edit _ => rw [ih, anyOf_edit]
      · exact ih wire schema

/-- Two groups or more make up the alternatives, one for each of them. -/
theorem anyOf_apply (custom : List (String × String)) (directive : String) (wire : WireType)
    (schema : Schema) :
    (apply custom directive wire schema).1.anyOf =
      if 2 ≤ (groups directive.toList).length then
        some (((groups directive.toList).map tokens).map fun group ↦
          (applyTokens custom group wire .empty).1)
      else schema.anyOf := by
  unfold apply
  split
  · next first second rest hgroups => simp [hgroups]
  · next hfew =>
    have hlength : ¬ 2 ≤ (groups directive.toList).length := by
      intro hlength
      match hgroups : groups directive.toList with
      | [] => simp [hgroups] at hlength
      | [_] => simp [hgroups] at hlength
      | first :: second :: rest => exact hfew first second rest hgroups
    rw [if_neg hlength, anyOf_applyTokens]

/-- A directive says what its groups of tokens say. Its text gives the groups back; it makes a field
required exactly if some token says so and none says otherwise; and it offers alternatives, one for
each group, exactly if there are two groups or more. -/
theorem written_groups_read_back {gs : List (List Token)} {directive : String} (hne : gs ≠ [])
    (hregular : ∀ group ∈ gs, ∀ t ∈ group, t.Regular) (hwritten : Written gs directive) :
    (groups directive.toList).map tokens = gs ∧
      (isRequired directive = true ↔
        (∃ group ∈ gs, ∃ t ∈ group, t.name = "required") ∧
          ∀ group ∈ gs, ∀ t ∈ group, t.name ≠ "omitempty") ∧
      ∀ custom wire schema,
        (apply custom directive wire schema).1.anyOf =
            (if 2 ≤ gs.length then
              some (gs.map fun group ↦ (applyTokens custom group wire .empty).1)
            else schema.anyOf) ∧
          (schema.anyOf = none →
            ((∃ alternatives, (apply custom directive wire schema).1.anyOf = some alternatives ∧
              alternatives.length = gs.length) ↔ 2 ≤ gs.length)) := by
  have hread := map_tokens_groups hne hregular hwritten
  have hlength : (groups directive.toList).length = gs.length := by
    rw [← hread, List.length_map]
  refine ⟨hread, ?_, ?_⟩
  · rw [isRequired_iff, hread]
  · intro custom wire schema
    have hanyOf := anyOf_apply custom directive wire schema
    rw [hread, hlength] at hanyOf
    refine ⟨hanyOf, fun hnone ↦ ?_⟩
    rw [hanyOf, hnone]
    by_cases hgroups : 2 ≤ gs.length
    · simp [hgroups]
    · simp [hgroups]

/-- Three groups: the first has a value that holds all the characters with a meaning of their own,
the second has no token. -/
def colourGroups : List (List Token) :=
  [[⟨"required", none⟩, ⟨"contains", some "(a,b|c)=d"⟩], [], [⟨"omitempty", none⟩]]

/-- The groups with blanks around a comma and around both bars. -/
def colourDirective : String :=
  "required , contains=(a,b|c)=d | |\tomitempty"

theorem written_colourGroups : Written colourGroups colourDirective := by
  have hspace : ∀ c ∈ [' '], isBlank c = true := List.forall_mem_singleton.2 rfl
  have htab : ∀ c ∈ ['\t'], isBlank c = true := List.forall_mem_singleton.2 rfl
  refine ⟨["required , contains=(a,b|c)=d".toList, [], "omitempty".toList], ?_, ?_⟩
  · exact .cons (.cons _ [' '] [' '] hspace hspace (.single _))
      (.cons .nil (.cons (.single _) .nil))
  · exact .cons _ [' '] [' '] hspace hspace
      (.cons _ [] ['\t'] (List.forall_mem_nil _) htab (.single _))

theorem written_groups_of_colour :
    (∀ group ∈ colourGroups, ∀ t ∈ group, t.Regular) ∧ Written colourGroups colourDirective ∧
      (groups colourDirective.toList).map tokens = colourGroups ∧
      isRequired colourDirective = false ∧
      ((apply [] colourDirective .string .empty).1.anyOf.map List.length) = some 3 := by
  have hregular : ∀ group ∈ colourGroups, ∀ t ∈ group, t.Regular := by decide
  obtain ⟨hgroups, hrequired, hanyOf⟩ :=
    written_groups_read_back (by decide) hregular written_colourGroups
  refine ⟨hregular, written_colourGroups, hgroups, ?_, ?_⟩
  · rw [Bool.eq_false_iff, ne_eq, hrequired]
    decide
  · rw [(hanyOf [] .string .empty).1]
    rfl

end ApiAtlas.Directive

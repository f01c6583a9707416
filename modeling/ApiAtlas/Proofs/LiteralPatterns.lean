import ApiAtlas.Proofs.LengthBounds

/-!
# Patterns of literal texts

A value that a string has to contain is written into a pattern, where a backslash takes their
meaning from the characters that have one. A reader of such patterns needs no more than the next
two characters: a backslash and a syntax character stand for that character, and every character
without a meaning stands for itself. Reading finds the value again, and it accepts nothing but
escaped values. So different values have different patterns, also where a token puts more text
around them.
-/

namespace ApiAtlas.Directive

/-! ## Syntax characters -/

/-- The characters with a meaning in regular expressions, in the order of the grammar. -/
def syntaxChars : List Char :=
  ['^', '$', '\\', '.', '*', '+', '?', '(', ')', '[', ']', '\x7b', '\x7d', '|']

/-- The characters that are escaped are those with a meaning. -/
theorem contains_regexSpecials_iff (c : Char) :
    regexSpecials.contains c = true ↔ c ∈ syntaxChars := by
  have hsame : regexSpecials.Perm syntaxChars := by decide
  rw [List.contains_iff_mem, hsame.mem_iff]

/-! ## Reading -/

/-- Reads a pattern in which every character stands for one character of a text; any other pattern
is refused. -/
def readLiteral? : List Char → Option (List Char)
  | [] => some []
  | '\\' :: c :: rest => if c ∈ syntaxChars then (readLiteral? rest).map (c :: ·) else none
  | c :: rest => if c ∈ syntaxChars then none else (readLiteral? rest).map (c :: ·)

theorem regexEscapeChars_cons (c : Char) (cs : List Char) :
    regexEscapeChars (c :: cs) =
      (if c ∈ syntaxChars then ['\\', c] else [c]) ++ regexEscapeChars cs := by
  simp only [regexEscapeChars, List.flatMap_cons, contains_regexSpecials_iff]

/-- One character is read as it was escaped, whatever follows. -/
theorem readLiteral?_escaped (c : Char) (rest : List Char) :
    readLiteral? ((if c ∈ syntaxChars then ['\\', c] else [c]) ++ rest) =
      (readLiteral? rest).map (c :: ·) := by
  by_cases hc : c ∈ syntaxChars
  · simp [readLiteral?, hc]
  · have hbackslash : c ≠ '\\' := by
      rintro rfl
      exact hc (by decide)
    simp [readLiteral?, hc, hbackslash]

theorem readLiteral?_regexEscapeChars (cs : List Char) :
    readLiteral? (regexEscapeChars cs) = some cs := by
  induction cs with
  | nil => rfl
  | cons c cs ih => rw [regexEscapeChars_cons, readLiteral?_escaped, ih, Option.map_some]

theorem eq_regexEscapeChars_of_readLiteral? {pattern cs : List Char}
    (h : readLiteral? pattern = some cs) : pattern = regexEscapeChars cs := by
  fun_induction readLiteral? pattern generalizing cs with
  | case1 =>
    cases h
    rfl
  | case2 c rest hc ih =>
    obtain ⟨text, htext, rfl⟩ := Option.map_eq_some_iff.1 h
    rw [regexEscapeChars_cons, if_pos hc, ih htext]
    rfl
  | case3 => simp at h
  | case4 => simp at h
  | case5 c rest _ hc ih =>
    obtain ⟨text, htext, rfl⟩ := Option.map_eq_some_iff.1 h
    rw [regexEscapeChars_cons, if_neg hc, ih htext]
    rfl

/-- The patterns that can be read are the escaped texts. -/
theorem readLiteral?_eq_some_iff (pattern text : String) :
    readLiteral? pattern.toList = some text.toList ↔ pattern = regexEscape text := by
  rw [regexEscape]
  constructor
  · intro h
    rw [← eq_regexEscapeChars_of_readLiteral? h, String.ofList_toList]
  · rintro rfl
    rw [String.toList_ofList, readLiteral?_regexEscapeChars]

theorem regexEscape_injective : Function.Injective regexEscape := by
  intro u v h
  have hread := (readLiteral?_eq_some_iff (regexEscape u) u).2 rfl
  rw [h, (readLiteral?_eq_some_iff (regexEscape v) v).2 rfl, Option.some_inj] at hread
  exact (String.toList_inj.1 hread).symm

theorem regexEscape_append (u v : String) :
    regexEscape (u ++ v) = regexEscape u ++ regexEscape v := by
  simp [regexEscape, regexEscapeChars]

/-! ## Tokens -/

/-- The tokens that look for a text, each with what it writes before and after the escaped text. -/
def literalTokens : List (String × String × String) :=
  [("contains", "", ""), ("excludes", "^(?!.*", ").*$"), ("startswith", "^", ""),
   ("endswith", "", "$")]

theorem valued_of_literalToken {name front back : String} (h : (name, front, back) ∈ literalTokens)
    (wire : WireType) (value : String) :
    valued wire name value = some (.ok (.pattern (front ++ regexEscape value ++ back))) := by
  simp only [literalTokens, List.mem_cons, Prod.mk.injEq, List.not_mem_nil, or_false] at h
  rcases h with ⟨rfl, rfl, rfl⟩ | ⟨rfl, rfl, rfl⟩ | ⟨rfl, rfl, rfl⟩ | ⟨rfl, rfl, rfl⟩ <;>
    simp [valued]

theorem applyTokens_of_literalToken {name front back : String}
    (h : (name, front, back) ∈ literalTokens) (custom : List (String × String)) (wire : WireType)
    (schema : Schema) {value : String} (hvalue : value ≠ "") :
    applyTokens custom [⟨name, some value⟩] wire schema =
      (addPattern (front ++ regexEscape value ++ back) schema, []) := by
  have hnames : ∀ token ∈ literalTokens, token.1 ∈ valueTokens ∧ token.1 ≠ "dive" := by decide
  obtain ⟨hname, hdive⟩ := hnames _ h
  have hmeaning : meaning custom wire ⟨name, some value⟩ =
      .ok (.pattern (front ++ regexEscape value ++ back)) := by
    rw [meaning_of_valueToken hname rfl (by simpa using hvalue), valued_of_literalToken h]
    rfl
  rw [applyTokens_of_ok hdive hmeaning]
  rfl

/-- Two patterns leave different schemas, whether they are the first ones there or not. -/
theorem addPattern_injective (schema : Schema) :
    Function.Injective fun text ↦ addPattern text schema := by
  intro u v h
  simp only [addPattern] at h
  split at h
  · simpa using congrArg Schema.pattern h
  · simpa using congrArg Schema.allOf h

theorem framed_injective (front back : String) :
    Function.Injective fun value ↦ front ++ regexEscape value ++ back := by
  intro u v h
  exact regexEscape_injective ((String.append_right_inj front).1 ((String.append_left_inj back).1 h))

/-- An escaped value matches only itself: it is read back as that value, and no other pattern is
read so. Escaping is injective and goes over a text piece by piece. Each token that looks for a text
adds one pattern to a schema, with no issue, and different values leave different patterns. -/
theorem escaped_values_read_back :
    (∀ pattern value : String,
      readLiteral? pattern.toList = some value.toList ↔ pattern = regexEscape value) ∧
    Function.Injective regexEscape ∧
    (∀ u v : String, regexEscape (u ++ v) = regexEscape u ++ regexEscape v) ∧
    ∀ name front back : String, (name, front, back) ∈ literalTokens →
      (Function.Injective fun value ↦ front ++ regexEscape value ++ back) ∧
      ∀ (custom : List (String × String)) (wire : WireType) (schema : Schema),
        let result := fun value ↦ applyTokens custom [⟨name, some value⟩] wire schema
        ∀ value ≠ "", result value = (addPattern (front ++ regexEscape value ++ back) schema, []) ∧
          ∀ other ≠ "", other ≠ value → (result other).1 ≠ (result value).1 := by
  refine ⟨readLiteral?_eq_some_iff, regexEscape_injective, regexEscape_append, ?_⟩
  intro name front back hname
  refine ⟨framed_injective front back, ?_⟩
  intro custom wire schema result value hvalue
  have hresult {text : String} (htext : text ≠ "") :
      result text = (addPattern (front ++ regexEscape text ++ back) schema, []) :=
    applyTokens_of_literalToken hname custom wire schema htext
  refine ⟨hresult hvalue, fun other hother hne hsame ↦ hne ?_⟩
  rw [hresult hvalue, hresult hother] at hsame
  exact framed_injective front back (addPattern_injective schema hsame)

/-- A value that is a backslash before a dollar sign is told from the dollar sign alone. -/
theorem excluded_dollar_signs :
    ("excludes", "^(?!.*", ").*$") ∈ literalTokens ∧
      readLiteral? "\\\\\\$".toList = some "\\$".toList ∧
      applyTokens [] [⟨"excludes", some "$"⟩] .string .empty =
        (addPattern "^(?!.*\\$).*$" .empty, []) ∧
      (applyTokens [] [⟨"excludes", some "\\$"⟩] .string .empty).1 ≠
        (applyTokens [] [⟨"excludes", some "$"⟩] .string .empty).1 := by
  obtain ⟨hread, -, -, htokens⟩ := escaped_values_read_back
  have hname : ("excludes", "^(?!.*", ").*$") ∈ literalTokens := by decide
  obtain ⟨hfirst, hothers⟩ := (htokens _ _ _ hname).2 [] .string .empty "$" (by decide)
  exact ⟨hname, (hread _ _).2 (by decide), hfirst, hothers "\\$" (by decide) (by decide)⟩

end ApiAtlas.Directive

import ApiAtlas.Proofs.Tokenizing

/-!
# Faulty tokens

Whether a token of a directive is faulty is decided where it stands: by the wire type of the value
that it constrains, which after `dive` is read off the schema of the elements. A faulty token is
reported and does nothing else. So a group of tokens does what it does without its faulty tokens,
on every level, and its issues are those of the tokens left out. The argument rests on two facts:
an edit leaves the elements of a schema alone, and the issue of a token depends on nothing else.
-/

namespace ApiAtlas.Directive

open Text

variable {custom : List (String × String)}

/-! ## Levels -/

/-- The schema of the elements that `dive` leads to. -/
def element (wire : WireType) (schema : Schema) : Schema :=
  (if wire == .object then schema.additionalProperties else schema.items).getD .empty

/-- The schema with another schema for its elements. -/
def withElement (wire : WireType) (schema inner : Schema) : Schema :=
  if wire == .object then { schema with additionalProperties := some inner }
  else { schema with items := some inner }

theorem applyTokens_dive {token : Token} (h : token.name = "dive") (rest : List Token)
    (wire : WireType) (schema : Schema) :
    applyTokens custom (token :: rest) wire schema =
      (withElement wire schema
        (applyTokens custom rest (.ofSchema (element wire schema)) (element wire schema)).1,
       (applyTokens custom rest (.ofSchema (element wire schema)) (element wire schema)).2) := by
  rw [applyTokens, if_pos (by simp [h])]
  unfold withElement element
  cases wire <;> rfl

theorem applyTokens_of_ok {token : Token} (hdive : token.name ≠ "dive") {wire : WireType}
    {edit : Edit} (h : meaning custom wire token = .ok edit) (rest : List Token)
    (schema : Schema) :
    applyTokens custom (token :: rest) wire schema =
      applyTokens custom rest wire (edit.apply schema) := by
  rw [applyTokens, if_neg (by simpa using hdive), h]

theorem applyTokens_of_error {token : Token} (hdive : token.name ≠ "dive") {wire : WireType}
    {issue : Issue} (h : meaning custom wire token = .error issue) (rest : List Token)
    (schema : Schema) :
    applyTokens custom (token :: rest) wire schema =
      ((applyTokens custom rest wire schema).1,
       issue :: (applyTokens custom rest wire schema).2) := by
  rw [applyTokens, if_neg (by simpa using hdive), h]

/-- Two schemas describe their elements in the same way. -/
structure SameElements (s s' : Schema) : Prop where
  items : s.items = s'.items
  additionalProperties : s.additionalProperties = s'.additionalProperties

theorem SameElements.element_eq {s s' : Schema} (h : SameElements s s') (wire : WireType) :
    element wire s = element wire s' := by
  rw [element, element, h.items, h.additionalProperties]

/-- An edit leaves the elements alone. -/
theorem sameElements_edit (edit : Edit) (schema : Schema) :
    SameElements (edit.apply schema) schema := by
  induction edit generalizing schema with
  | pattern text =>
    simp only [Edit.apply, addPattern]
    split <;> exact ⟨rfl, rfl⟩
  | line text =>
    simp only [Edit.apply, Schema.describe]
    split
    · split <;> exact ⟨rfl, rfl⟩
    · exact ⟨rfl, rfl⟩
  | both first second ihFirst ihSecond =>
    have hfirst := ihFirst schema
    have hsecond := ihSecond (first.apply schema)
    exact ⟨hsecond.items.trans hfirst.items,
      hsecond.additionalProperties.trans hfirst.additionalProperties⟩
  | _ => exact ⟨rfl, rfl⟩

/-! ## Verdicts -/

/-- The issue that a token reports if it is applied alone. -/
def issue? (custom : List (String × String)) (wire : WireType) (schema : Schema) (token : Token) :
    Option Issue :=
  (applyTokens custom [token] wire schema).2.head?

/-- The tokens of a group, each with the issue that it reports alone where it stands. A `dive`
leads down to the elements of the schema, which is taken as it is before any token is applied. -/
def judged (custom : List (String × String)) :
    List Token → WireType → Schema → List (Token × Option Issue)
  | [], _, _ => []
  | token :: rest, wire, schema =>
    (token, issue? custom wire schema token) ::
      if token.name == "dive" then
        judged custom rest (.ofSchema (element wire schema)) (element wire schema)
      else judged custom rest wire schema

/-- The tokens that report nothing. -/
def accepted (verdicts : List (Token × Option Issue)) : List Token :=
  (verdicts.filter fun verdict ↦ verdict.2.isNone).map Prod.fst

/-- What the other tokens report, each one issue. -/
def reported (verdicts : List (Token × Option Issue)) : List Issue :=
  verdicts.filterMap Prod.snd

theorem accepted_cons_none (token : Token) (verdicts : List (Token × Option Issue)) :
    accepted ((token, none) :: verdicts) = token :: accepted verdicts := rfl

theorem accepted_cons_some (token : Token) (issue : Issue)
    (verdicts : List (Token × Option Issue)) :
    accepted ((token, some issue) :: verdicts) = accepted verdicts := rfl

theorem reported_cons_none (token : Token) (verdicts : List (Token × Option Issue)) :
    reported ((token, none) :: verdicts) = reported verdicts := rfl

theorem reported_cons_some (token : Token) (issue : Issue)
    (verdicts : List (Token × Option Issue)) :
    reported ((token, some issue) :: verdicts) = issue :: reported verdicts := rfl

theorem reported_eq_nil_iff (verdicts : List (Token × Option Issue)) :
    reported verdicts = [] ↔ ∀ verdict ∈ verdicts, verdict.2 = none :=
  List.filterMap_eq_nil_iff

theorem issue?_dive {token : Token} (h : token.name = "dive") (wire : WireType)
    (schema : Schema) : issue? custom wire schema token = none := by
  rw [issue?, applyTokens_dive h]
  rfl

theorem issue?_of_ok {token : Token} (hdive : token.name ≠ "dive") {wire : WireType} {edit : Edit}
    (h : meaning custom wire token = .ok edit) (schema : Schema) :
    issue? custom wire schema token = none := by
  rw [issue?, applyTokens_of_ok hdive h]
  rfl

theorem issue?_of_error {token : Token} (hdive : token.name ≠ "dive") {wire : WireType}
    {issue : Issue} (h : meaning custom wire token = .error issue) (schema : Schema) :
    issue? custom wire schema token = some issue := by
  rw [issue?, applyTokens_of_error hdive h]
  rfl

theorem judged_dive {token : Token} (h : token.name = "dive") (rest : List Token)
    (wire : WireType) (schema : Schema) :
    judged custom (token :: rest) wire schema = (token, none) ::
      judged custom rest (.ofSchema (element wire schema)) (element wire schema) := by
  rw [judged, issue?_dive h, if_pos (by simp [h])]

theorem judged_of_ne {token : Token} (h : token.name ≠ "dive") (rest : List Token)
    (wire : WireType) (schema : Schema) :
    judged custom (token :: rest) wire schema =
      (token, issue? custom wire schema token) :: judged custom rest wire schema := by
  rw [judged, if_neg (by simpa using h)]

theorem map_fst_judged (group : List Token) (wire : WireType) (schema : Schema) :
    (judged custom group wire schema).map Prod.fst = group := by
  induction group generalizing wire schema with
  | nil => rfl
  | cons token rest ih =>
    rw [judged, List.map_cons]
    split
    · rw [ih]
    · rw [ih]

/-- Which tokens fail depends on the elements of the schema alone. -/
theorem judged_congr {s s' : Schema} (h : SameElements s s') (group : List Token)
    (wire : WireType) : judged custom group wire s = judged custom group wire s' := by
  induction group with
  | nil => rfl
  | cons token rest ih =>
    by_cases hdive : token.name = "dive"
    · rw [judged_dive hdive, judged_dive hdive, h.element_eq]
    · rw [judged_of_ne hdive, judged_of_ne hdive, ih]
      cases hmeaning : meaning custom wire token with
      | ok edit => rw [issue?_of_ok hdive hmeaning, issue?_of_ok hdive hmeaning]
      | error issue => rw [issue?_of_error hdive hmeaning, issue?_of_error hdive hmeaning]

/-! ## Groups without their faulty tokens -/

/-- The tokens of a group do what the accepted ones among them do, and report what the others
report. -/
theorem applyTokens_eq (group : List Token) (wire : WireType) (schema : Schema) :
    applyTokens custom group wire schema =
      ((applyTokens custom (accepted (judged custom group wire schema)) wire schema).1,
       reported (judged custom group wire schema)) := by
  induction group generalizing wire schema with
  | nil => rfl
  | cons token rest ih =>
    by_cases hdive : token.name = "dive"
    · rw [judged_dive hdive, accepted_cons_none, reported_cons_none, applyTokens_dive hdive,
        applyTokens_dive hdive, ih]
    · rw [judged_of_ne hdive]
      cases hmeaning : meaning custom wire token with
      | ok edit =>
        -- The rest is judged by the schema before the edit, which has the same elements.
        rw [issue?_of_ok hdive hmeaning, accepted_cons_none, reported_cons_none,
          applyTokens_of_ok hdive hmeaning, applyTokens_of_ok hdive hmeaning, ih,
          judged_congr (sameElements_edit edit schema)]
      | error issue =>
        rw [issue?_of_error hdive hmeaning, accepted_cons_some, reported_cons_some,
          applyTokens_of_error hdive hmeaning, ih]

/-- Without the other tokens, the accepted ones are judged as before. -/
theorem judged_accepted (group : List Token) (wire : WireType) (schema : Schema) :
    judged custom (accepted (judged custom group wire schema)) wire schema =
      (judged custom group wire schema).filter fun verdict ↦ verdict.2.isNone := by
  induction group generalizing wire schema with
  | nil => rfl
  | cons token rest ih =>
    by_cases hdive : token.name = "dive"
    · rw [judged_dive hdive, accepted_cons_none, judged_dive hdive, ih]
      rfl
    · rw [judged_of_ne hdive]
      cases hissue : issue? custom wire schema token with
      | none =>
        rw [accepted_cons_none, judged_of_ne hdive, hissue, ih]
        rfl
      | some issue => exact ih wire schema

theorem issues_accepted (group : List Token) (wire : WireType) (schema : Schema) :
    (applyTokens custom (accepted (judged custom group wire schema)) wire schema).2 = [] := by
  rw [applyTokens_eq, judged_accepted, reported_eq_nil_iff]
  intro verdict hverdict
  exact Option.isNone_iff_eq_none.1 (List.mem_filter.1 hverdict).2

/-- A token that reports something leaves the schema as it is. -/
theorem applyTokens_of_issue {token : Token} {wire : WireType} {schema : Schema}
    (h : (applyTokens custom [token] wire schema).2 ≠ []) :
    (applyTokens custom [token] wire schema).1 = schema := by
  cases hissue : issue? custom wire schema token with
  | none => exact absurd (List.head?_eq_none_iff.1 hissue) h
  | some issue =>
    have hverdict : judged custom [token] wire schema = [(token, some issue)] := by
      rw [judged, hissue]
      split <;> rfl
    rw [applyTokens_eq, hverdict]
    rfl

/-! ## Directives -/

/-- The schema that the groups of a directive start from: the given one if there is one group, and
an empty one for each if there are several. -/
def groupStart (directive : String) (schema : Schema) : Schema :=
  if 2 ≤ (groups directive.toList).length then .empty else schema

/-- A directive reports what its groups report, one after the other. -/
theorem issues_apply (directive : String) (wire : WireType) (schema : Schema) :
    (apply custom directive wire schema).2 =
      (groups directive.toList).flatMap fun group ↦
        reported (judged custom (tokens group) wire (groupStart directive schema)) := by
  unfold apply groupStart
  split
  · next first second rest hgroups =>
    rw [hgroups, if_pos (by simp)]
    simp only [List.flatMap_map]
    apply List.flatMap_congr
    intro group _
    rw [applyTokens_eq]
  · next hfew =>
    match hgroups : groups directive.toList with
    | [] => exact absurd hgroups (groups_ne_nil _)
    | [group] =>
      rw [applyTokens_eq, List.flatMap_singleton, tokens_of_groups_eq_singleton hgroups,
        if_neg (by simp)]
    | first :: second :: rest => exact absurd hgroups (hfew first second rest)

/-- Faults on two levels: the first token needs a length, and the token after `dive` a number. -/
example :
    reported (judged [] [⟨"min", some "x"⟩, ⟨"len", some "3"⟩, ⟨"dive", none⟩, ⟨"gt", some "b"⟩]
      .array (Schema.array (Schema.typed "integer"))) = [.notLength "x", .notNumber "b"] := by
  decide

end ApiAtlas.Directive

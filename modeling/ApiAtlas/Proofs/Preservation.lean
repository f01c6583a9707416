import ApiAtlas.Proofs.FaultyTokens

/-!
# What directives leave alone

A directive adds constraints to a schema and does not touch what the schema says about the structure
of a value: its reference, its properties, its alternatives and its flags. Texts and lists that are
there are continued, and the schema of the elements stays in place, where the same holds on every
level. Each edit keeps the members of its own level and the elements as they are; `dive` changes
nothing but the elements. With two groups or more only the alternatives in `anyOf` are new.
-/

namespace ApiAtlas

/-! ## Members that stay -/

/-- What is there stays there and changes only as a relation allows. -/
inductive Stays {α : Type} (r : α → α → Prop) : Option α → Option α → Prop
  | absent (after : Option α) : Stays r none after
  | present {before after : α} (h : r before after) : Stays r (some before) (some after)

namespace Stays

variable {α : Type} {r : α → α → Prop}

theorem refl (hr : ∀ a, r a a) (member : Option α) : Stays r member member := by
  cases member with
  | none => exact .absent none
  | some a => exact .present (hr a)

theorem trans {first second third : Option α} (h : Stays r first second)
    (h' : Stays r second third) (hr : ∀ a b c, r a b → r b c → r a c) : Stays r first third := by
  cases h with
  | absent => exact .absent third
  | present hab =>
    cases h' with
    | present hbc => exact .present (hr _ _ _ hab hbc)

end Stays

namespace Schema

/-- A text goes on after another one. -/
def Continues (text text' : String) : Prop :=
  text.toList <+: text'.toList

/-- What one level of a schema keeps in another one: its structure, its pattern and the marks that
are set; further parts of `allOf` and further lines of the description may follow. -/
structure KeepsMembers (s s' : Schema) : Prop where
  ref : s'.ref = s.ref
  properties : s'.properties = s.properties
  required : s'.required = s.required
  oneOf : s'.oneOf = s.oneOf
  discriminator : s'.discriminator = s.discriminator
  nullable : s'.nullable = s.nullable
  readOnly : s'.readOnly = s.readOnly
  writeOnly : s'.writeOnly = s.writeOnly
  deprecated : s'.deprecated = s.deprecated
  pattern : Stays Eq s.pattern s'.pattern
  allOf : Stays (· <+: ·) s.allOf s'.allOf
  description : Stays Continues s.description s'.description
  uniqueItems : s.uniqueItems = true → s'.uniqueItems = true

/-- A schema survives in another one: the members are kept, and a schema of the elements stays and
survives in its turn. -/
inductive SurvivesIn : Schema → Schema → Prop
  | intro {s s' : Schema} (members : s.KeepsMembers s') (items : Stays SurvivesIn s.items s'.items)
      (additionalProperties : Stays SurvivesIn s.additionalProperties s'.additionalProperties) :
      SurvivesIn s s'

theorem KeepsMembers.refl (s : Schema) : s.KeepsMembers s where
  ref := rfl
  properties := rfl
  required := rfl
  oneOf := rfl
  discriminator := rfl
  nullable := rfl
  readOnly := rfl
  writeOnly := rfl
  deprecated := rfl
  pattern := .refl (fun _ ↦ rfl) _
  allOf := .refl (fun _ ↦ List.prefix_rfl) _
  description := .refl (fun text ↦ List.prefix_refl text.toList) _
  uniqueItems := id

theorem KeepsMembers.trans {s m t : Schema} (h : s.KeepsMembers m) (h' : m.KeepsMembers t) :
    s.KeepsMembers t where
  ref := h'.ref.trans h.ref
  properties := h'.properties.trans h.properties
  required := h'.required.trans h.required
  oneOf := h'.oneOf.trans h.oneOf
  discriminator := h'.discriminator.trans h.discriminator
  nullable := h'.nullable.trans h.nullable
  readOnly := h'.readOnly.trans h.readOnly
  writeOnly := h'.writeOnly.trans h.writeOnly
  deprecated := h'.deprecated.trans h.deprecated
  pattern := h.pattern.trans h'.pattern fun _ _ _ ↦ Eq.trans
  allOf := h.allOf.trans h'.allOf fun _ _ _ ↦ List.IsPrefix.trans
  description := h.description.trans h'.description fun _ _ _ ↦ List.IsPrefix.trans
  uniqueItems := h'.uniqueItems ∘ h.uniqueItems

theorem SurvivesIn.refl (s : Schema) : s.SurvivesIn s := by
  refine .intro (.refl s) ?_ ?_
  · cases hitems : s.items with
    | none => exact .absent none
    | some inner => exact .present (refl inner)
  · cases hvalues : s.additionalProperties with
    | none => exact .absent none
    | some inner => exact .present (refl inner)
termination_by s
decreasing_by
  all_goals
    cases s
    simp_all
    omega

/-- Changes on one level come before changes of the elements. -/
theorem SurvivesIn.of_keepsMembers {s m t : Schema} (hmembers : s.KeepsMembers m)
    (helements : Directive.SameElements m s) (h : m.SurvivesIn t) : s.SurvivesIn t := by
  obtain ⟨hlater, hitems, hvalues⟩ := h
  rw [helements.items] at hitems
  rw [helements.additionalProperties] at hvalues
  exact .intro (hmembers.trans hlater) hitems hvalues

end Schema

namespace Directive

open Schema

variable {custom : List (String × String)}

/-! ## Edits -/

theorem keepsMembers_addPattern (text : String) (s : Schema) :
    s.KeepsMembers (addPattern text s) := by
  unfold addPattern
  split
  · next hnone => exact { KeepsMembers.refl s with pattern := hnone ▸ .absent _ }
  · refine { KeepsMembers.refl s with allOf := ?_ }
    cases hallOf : s.allOf with
    | none => exact .absent _
    | some parts => exact .present (List.prefix_append parts _)

theorem keepsMembers_describe (s : Schema) (line : String) : s.KeepsMembers (s.describe line) := by
  unfold Schema.describe
  split
  · next text htext =>
    split
    · next hempty =>
      refine { KeepsMembers.refl s with description := htext ▸ .present ?_ }
      simp [Continues, String.isEmpty_iff.1 hempty]
    · refine { KeepsMembers.refl s with description := htext ▸ .present ?_ }
      simp [Continues, List.append_assoc]
  · next hnone => exact { KeepsMembers.refl s with description := hnone ▸ .absent _ }

/-- An edit keeps the members of the schema that it edits. -/
theorem keepsMembers_edit (edit : Edit) (s : Schema) : s.KeepsMembers (edit.apply s) := by
  induction edit generalizing s with
  | pattern text => exact keepsMembers_addPattern text s
  | line text => exact keepsMembers_describe s text
  | uniqueItems => exact { KeepsMembers.refl s with uniqueItems := fun _ ↦ rfl }
  | both first second ihFirst ihSecond => exact (ihFirst s).trans (ihSecond (first.apply s))
  | _ => exact { KeepsMembers.refl s with }

/-! ## Groups -/

/-- Going down to the elements changes nothing else. -/
theorem survivesIn_withElement (wire : WireType) {s inner : Schema}
    (h : (element wire s).SurvivesIn inner) : s.SurvivesIn (withElement wire s inner) := by
  obtain ⟨-, hitems, hvalues⟩ := SurvivesIn.refl s
  unfold element at h
  unfold withElement
  split
  · next hobject =>
    rw [if_pos hobject] at h
    refine .intro { KeepsMembers.refl s with } hitems ?_
    cases hmember : s.additionalProperties with
    | none => exact .absent _
    | some before => exact .present (by simpa [hmember] using h)
  · next hobject =>
    rw [if_neg hobject] at h
    refine .intro { KeepsMembers.refl s with } ?_ hvalues
    cases hmember : s.items with
    | none => exact .absent _
    | some before => exact .present (by simpa [hmember] using h)

/-- A schema survives the tokens of a group, whether they are faulty or not. -/
theorem survivesIn_applyTokens (group : List Token) (wire : WireType) (s : Schema) :
    s.SurvivesIn (applyTokens custom group wire s).1 := by
  induction group generalizing wire s with
  | nil => exact .refl s
  | cons token rest ih =>
    by_cases hdive : token.name = "dive"
    · rw [applyTokens_dive hdive]
      exact survivesIn_withElement wire (ih _ _)
    · cases hmeaning : meaning custom wire token with
      | ok edit =>
        rw [applyTokens_of_ok hdive hmeaning]
        exact .of_keepsMembers (keepsMembers_edit edit s) (sameElements_edit edit s) (ih wire _)
      | error issue =>
        rw [applyTokens_of_error hdive hmeaning]
        exact ih wire s

/-! ## Directives -/

theorem apply_of_groups (custom : List (String × String)) {directive : String}
    (h : 2 ≤ (groups directive.toList).length) (wire : WireType) (s : Schema) :
    ∃ alternatives, (apply custom directive wire s).1 = { s with anyOf := some alternatives } := by
  unfold apply
  split
  · exact ⟨_, rfl⟩
  · next hfew =>
    match hgroups : groups directive.toList with
    | [] => simp [hgroups] at h
    | [_] => simp [hgroups] at h
    | first :: second :: rest => exact absurd hgroups (hfew first second rest)

theorem apply_of_group (custom : List (String × String)) {directive : String}
    (h : ¬ 2 ≤ (groups directive.toList).length) (wire : WireType) (s : Schema) :
    apply custom directive wire s = applyTokens custom (tokens directive.toList) wire s := by
  unfold apply
  split
  · next first second rest hgroups => simp [hgroups] at h
  · rfl

/-- Directives leave the structure of a schema alone. Whatever the directive and whether or not it
has issues, the schema survives in the result: on every level that the result shares with it, the
reference, the properties, the required names, the alternatives, the discriminator and the flags are
unchanged, a pattern stays, and what is in `allOf` and in the description is continued. A directive
with several groups changes nothing but `anyOf`. -/
theorem directives_keep_structure (custom : List (String × String)) (directive : String)
    (wire : WireType) (s : Schema) :
    s.SurvivesIn (apply custom directive wire s).1 ∧
      (2 ≤ (groups directive.toList).length →
        ∃ alternatives,
          (apply custom directive wire s).1 = { s with anyOf := some alternatives }) := by
  refine ⟨?_, fun h ↦ apply_of_groups custom h wire s⟩
  by_cases h : 2 ≤ (groups directive.toList).length
  · obtain ⟨alternatives, happly⟩ := apply_of_groups custom h wire s
    rw [happly]
    have hmembers : s.KeepsMembers { s with anyOf := some alternatives } :=
      { KeepsMembers.refl s with }
    exact .of_keepsMembers hmembers ⟨rfl, rfl⟩ (.refl _)
  · rw [apply_of_group custom h]
    exact survivesIn_applyTokens _ wire s

end Directive

end ApiAtlas

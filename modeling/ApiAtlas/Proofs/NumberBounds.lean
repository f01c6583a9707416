import ApiAtlas.Proofs.Levels
import ApiAtlas.Proofs.LengthBounds

/-!
# Bounds on numbers

On numbers a token that compares sets the bound of a side together with the flag that excludes the
bound itself. `latitude` and `longitude` set the bounds of both sides and leave the flags as they
are. So the bound of a side comes from the last token for that side, but its flag from the last
comparison, and the two belong together exactly if no range follows a strict comparison.
-/

namespace ApiAtlas.Directive

variable {custom : List (String × String)} {wire : WireType}

/-! ## Bounds and flags -/

/-- The bound of a schema on a side, and whether the bound itself is excluded. -/
def numberLimit (s : Schema) : Side → Option Json.Number × Bool
  | .lower => (s.minimum, s.exclusiveMinimum)
  | .upper => (s.maximum, s.exclusiveMaximum)

/-- The tokens that stand for a range. -/
def rangeNames : List String :=
  ["latitude", "longitude"]

namespace Side

/-- The tokens that compare on a side. -/
def comparisonNames : Side → List String
  | .lower => ["min", "gte", "gt", "len"]
  | .upper => ["max", "lte", "lt", "len"]

/-- The comparison of a side that excludes its bound. -/
def strictName : Side → String
  | .lower => "gt"
  | .upper => "lt"

/-- The tokens that bound numbers on a side. -/
def boundNames (side : Side) : List String :=
  side.comparisonNames ++ rangeNames

end Side

namespace Edit

/-- The bound that an edit sets on a side. -/
def bound? (side : Side) : Edit → Option Json.Number
  | .minimum bound _ => if side = .lower then some bound else none
  | .maximum bound _ => if side = .upper then some bound else none
  | .range low high => some (.int (if side = .lower then low else high))
  | .both first second => (second.bound? side).or (first.bound? side)
  | _ => none

/-- The flag that an edit sets on a side. -/
def flag? (side : Side) : Edit → Option Bool
  | .minimum _ exclusive => if side = .lower then some exclusive else none
  | .maximum _ exclusive => if side = .upper then some exclusive else none
  | .both first second => (second.flag? side).or (first.flag? side)
  | _ => none

end Edit

/-- The bound of a side as a member of the schema. -/
def boundMember (side : Side) : Member (Option Json.Number) where
  read s := (numberLimit s side).1
  set? edit := (edit.bound? side).map some
  read_apply_simple edit s h := by
    cases edit with
    | pattern | line | both => simp [Edit.isSimple] at h
    | _ => cases side <;> rfl
  set?_text _ := ⟨rfl, rfl⟩
  set?_both _ _ := Option.map_or
  read_other := by
    intros
    cases side <;> rfl

/-- The flag of a side as a member of the schema. -/
def flagMember (side : Side) : Member Bool where
  read s := (numberLimit s side).2
  set? := Edit.flag? side
  read_apply_simple edit s h := by
    cases edit with
    | pattern | line | both => simp [Edit.isSimple] at h
    | _ => cases side <;> rfl
  set?_text _ := ⟨rfl, rfl⟩
  set?_both _ _ := rfl
  read_other := by
    intros
    cases side <;> rfl

/-! ## What the tokens set -/

theorem exists_of_lowerBound (hwire : wire = .integer ∨ wire = .number) {text : String}
    {exclusive : Bool} {edit : Edit} (h : lowerBound wire text exclusive = .ok edit) :
    ∃ x, edit = .minimum x exclusive := by
  have hread : lowerBound wire text exclusive =
      (readNumber text).map fun x ↦ .minimum x exclusive := by
    rcases hwire with rfl | rfl <;> rfl
  obtain ⟨x, _, rfl⟩ := exists_of_map_ok (hread ▸ h)
  exact ⟨x, rfl⟩

theorem exists_of_upperBound (hwire : wire = .integer ∨ wire = .number) {text : String}
    {exclusive : Bool} {edit : Edit} (h : upperBound wire text exclusive = .ok edit) :
    ∃ x, edit = .maximum x exclusive := by
  have hread : upperBound wire text exclusive =
      (readNumber text).map fun x ↦ .maximum x exclusive := by
    rcases hwire with rfl | rfl <;> rfl
  obtain ⟨x, _, rfl⟩ := exists_of_map_ok (hread ▸ h)
  exact ⟨x, rfl⟩

theorem exists_of_exactBound (hwire : wire = .integer ∨ wire = .number) {text : String}
    {edit : Edit} (h : exactBound wire text = .ok edit) :
    ∃ x y, edit = .both (.minimum x false) (.maximum y false) := by
  unfold exactBound at h
  split at h
  · next low high hlow hhigh =>
    obtain ⟨x, rfl⟩ := exists_of_lowerBound hwire hlow
    obtain ⟨y, rfl⟩ := exists_of_upperBound hwire hhigh
    exact ⟨x, y, (Except.ok.inj h).symm⟩
  · simp at h
  · simp at h

theorem bound?_of_isPlain {edit : Edit} (h : edit.isPlain = true) (side : Side) :
    edit.bound? side = none ∧ edit.flag? side = none := by
  cases edit <;> simp_all [Edit.isPlain, Edit.bound?, Edit.flag?]

/-- Which tokens bound numbers on a side, and which of them say whether the bound is excluded. -/
theorem bound?_of_means (hwire : wire = .integer ∨ wire = .number) {t : Token} {edit : Edit}
    (h : Means wire t edit) (side : Side) :
    (edit.bound? side).isSome = decide (t.name ∈ side.boundNames) ∧
      edit.flag? side =
        if t.name ∈ side.comparisonNames then some (t.name == side.strictName) else none := by
  cases h with
  | lower hname h =>
    obtain ⟨x, rfl⟩ := exists_of_lowerBound hwire h
    simp only [List.mem_cons, List.not_mem_nil, or_false] at hname
    rcases hname with hname | hname | hname <;> rw [hname] <;> cases side <;> exact ⟨rfl, rfl⟩
  | upper hname h =>
    obtain ⟨x, rfl⟩ := exists_of_upperBound hwire h
    simp only [List.mem_cons, List.not_mem_nil, or_false] at hname
    rcases hname with hname | hname | hname <;> rw [hname] <;> cases side <;> exact ⟨rfl, rfl⟩
  | exact hname h =>
    obtain ⟨x, y, rfl⟩ := exists_of_exactBound hwire h
    rw [hname]
    cases side <;> exact ⟨rfl, rfl⟩
  | values hname =>
    simp only [List.mem_cons, List.not_mem_nil, or_false] at hname
    rcases hname with hname | hname <;> rw [hname] <;> cases side <;> exact ⟨rfl, rfl⟩
  | range hname low high =>
    simp only [List.mem_cons, List.not_mem_nil, or_false] at hname
    rcases hname with hname | hname <;> rw [hname] <;> cases side <;> exact ⟨rfl, rfl⟩
  | unique hname =>
    rw [hname]
    cases side <;> exact ⟨rfl, rfl⟩
  | boolean hname =>
    rw [hname]
    cases side <;> exact ⟨rfl, rfl⟩
  | plain hname h =>
    have hother : ∀ n ∈ side.boundNames, n ∈ shapingTokens wire := by
      rcases hwire with rfl | rfl <;> cases side <;> decide
    have hbound : t.name ∉ side.boundNames := fun hmem ↦ hname (hother _ hmem)
    have hcomparison : t.name ∉ side.comparisonNames :=
      fun hmem ↦ hbound (List.mem_append_left _ hmem)
    obtain ⟨hnone, hflag⟩ := bound?_of_isPlain h side
    simp [hnone, hflag, hbound, hcomparison]

/-! ## The last tokens -/

/-- The last token of a group with one of the given names. -/
def lastAmong (names : List String) (group : List Token) : Option Token :=
  (group.filter fun t ↦ t.name ∈ names).getLast?

theorem mem_of_mem_lastAmong {names : List String} {group : List Token} {t : Token}
    (h : t ∈ lastAmong names group) : t ∈ group ∧ t.name ∈ names := by
  simpa using List.mem_of_mem_getLast? h

/-- The last token of a wider choice of names is the last one of a narrower choice that has it. -/
theorem lastAmong_of_subset {names wider : List String} (hsubset : names ⊆ wider)
    {group : List Token} {t : Token} (h : lastAmong wider group = some t) (ht : t.name ∈ names) :
    lastAmong names group = some t := by
  obtain ⟨front, hfront⟩ := List.getLast?_eq_some_iff.1 h
  have hfilter : group.filter (fun u ↦ decide (u.name ∈ names)) =
      (group.filter fun u ↦ u.name ∈ wider).filter fun u ↦ u.name ∈ names := by
    rw [List.filter_filter]
    apply List.filter_congr
    intro u _
    simpa using fun hu ↦ hsubset hu
  rw [lastAmong, hfilter, hfront]
  simp [ht]

theorem lastAmong_eq_none_of_subset {names wider : List String} (hsubset : names ⊆ wider)
    {group : List Token} (h : lastAmong wider group = none) : lastAmong names group = none := by
  cases hlast : lastAmong names group with
  | none => rfl
  | some t =>
    obtain ⟨hmem, hname⟩ := mem_of_mem_lastAmong hlast
    have hnone := List.getLast?_eq_none_iff.1 h
    have hkept : t ∈ group.filter fun u ↦ u.name ∈ wider := by simp [hmem, hsubset hname]
    simp [hnone] at hkept

section

variable {group : List Token} (hwire : wire = .integer ∨ wire = .number)
  (hdive : ∀ t ∈ group, t.name ≠ "dive") (hissues : (applyTokens custom group wire .empty).2 = [])
  (side : Side)

include hwire hdive hissues

/-- What the tokens of a group without issues set on a side. -/
theorem setBy?_of_mem {t : Token} (ht : t ∈ group) :
    ((boundMember side).setBy? custom wire t).isSome = decide (t.name ∈ side.boundNames) ∧
      (flagMember side).setBy? custom wire t =
        if t.name ∈ side.comparisonNames then some (t.name == side.strictName) else none := by
  rw [← ownTokens_eq_self hdive] at ht
  obtain ⟨edit, hmeaning⟩ := exists_meaning_of_mem hissues ht
  obtain ⟨hbound, hflag⟩ := bound?_of_means hwire (means_of_meaning hmeaning) side
  rw [Member.setBy?_of_ok _ hmeaning, Member.setBy?_of_ok _ hmeaning, ← hbound]
  exact ⟨Option.isSome_map, hflag⟩

/-- The bound comes from the last token for the side, and the flag from the last comparison. -/
theorem numberLimit_applyTokens :
    numberLimit (applyTokens custom group wire .empty).1 side =
      ((numberLimit (applyTokens custom (lastAmong side.boundNames group).toList wire .empty).1
          side).1,
        (numberLimit
          (applyTokens custom (lastAmong side.comparisonNames group).toList wire .empty).1
          side).2) := by
  have hown := ownTokens_eq_self hdive
  apply Prod.ext
  · have hbound := (boundMember side).read_applyTokens_last
      (fun t ht ↦ (setBy?_of_mem hwire hdive hissues side (hown ▸ ht)).1) .empty
    rwa [hown] at hbound
  · have hflag := (flagMember side).read_applyTokens_last
      (p := fun t ↦ t.name ∈ side.comparisonNames)
      (fun t ht ↦ by
        rw [(setBy?_of_mem hwire hdive hissues side (hown ▸ ht)).2]
        by_cases hname : t.name ∈ side.comparisonNames <;> simp [hname]) .empty
    rwa [hown] at hflag

/-- A token alone excludes its bound exactly if it is the strict comparison. -/
theorem flag_alone {t : Token} (ht : t ∈ group) :
    (numberLimit (applyTokens custom [t] wire .empty).1 side).2 =
      (decide (t.name ∈ side.comparisonNames) && t.name == side.strictName) := by
  have hunset : (flagMember side).read .empty = false := by cases side <;> rfl
  calc
    _ = ((flagMember side).setBy? custom wire t).getD ((flagMember side).read .empty) :=
      (flagMember side).read_applyTokens_singleton (hdive t ht) wire .empty
    _ = _ := by
      rw [(setBy?_of_mem hwire hdive hissues side ht).2, hunset]
      by_cases hname : t.name ∈ side.comparisonNames <;> simp [hname]

/-- The flag of the last comparison is the one of the last token, unless that is a range. -/
theorem flags_agree_iff :
    (numberLimit (applyTokens custom (lastAmong side.comparisonNames group).toList wire .empty).1
        side).2 =
      (numberLimit (applyTokens custom (lastAmong side.boundNames group).toList wire .empty).1
        side).2 ↔
    ¬ ((∃ t ∈ lastAmong side.boundNames group, t.name ∈ rangeNames) ∧
      ∃ t ∈ lastAmong side.comparisonNames group, t.name = side.strictName) := by
  have hsubset : side.comparisonNames ⊆ side.boundNames := List.subset_append_left _ _
  have hdisjoint : ∀ name ∈ side.comparisonNames, name ∉ rangeNames := by cases side <;> decide
  cases hlast : lastAmong side.boundNames group with
  | none => simp [lastAmong_eq_none_of_subset hsubset hlast]
  | some t =>
    obtain ⟨ht, hname⟩ := mem_of_mem_lastAmong hlast
    rcases List.mem_append.1 hname with hcomparison | hrange
    · simp [lastAmong_of_subset hsubset hlast hcomparison, hdisjoint _ hcomparison]
    · -- A range excludes nothing, so the last comparison must not do so either.
      have hnot : t.name ∉ side.comparisonNames := fun hmem ↦ hdisjoint _ hmem hrange
      have halone : (numberLimit (applyTokens custom [t] wire .empty).1 side).2 = false := by
        rw [flag_alone hwire hdive hissues side ht]
        simp [hnot]
      rw [Option.toList_some, halone]
      cases hcompared : lastAmong side.comparisonNames group with
      | none => cases side <;> simp [applyTokens, numberLimit, Schema.empty]
      | some u =>
        obtain ⟨hu, hucomparison⟩ := mem_of_mem_lastAmong hcompared
        rw [Option.toList_some, flag_alone hwire hdive hissues side hu]
        simp [hucomparison, hrange]

end

/-- Bounds of numbers on either side, for tokens without issues. The bound is the one that the last
token for the side sets if it is applied alone, and the flag is the one that the last comparison
sets alone. Both come from the last token exactly if that is not a range after a comparison that
excludes its bound. -/
theorem number_limits_of_last_tokens (custom : List (String × String)) {wire : WireType}
    (hwire : wire = .integer ∨ wire = .number) {group : List Token}
    (hdive : ∀ t ∈ group, t.name ≠ "dive")
    (hissues : (applyTokens custom group wire .empty).2 = []) (side : Side) :
    let result := (applyTokens custom group wire .empty).1
    let alone := fun t : Option Token ↦ (applyTokens custom t.toList wire .empty).1
    let last := lastAmong side.boundNames group
    let lastComparison := lastAmong side.comparisonNames group
    numberLimit result side =
        ((numberLimit (alone last) side).1, (numberLimit (alone lastComparison) side).2) ∧
      (numberLimit result side = numberLimit (alone last) side ↔
        ¬ ((∃ t ∈ last, t.name ∈ rangeNames) ∧
          ∃ t ∈ lastComparison, t.name = side.strictName)) := by
  intro result alone last lastComparison
  have hlimit := numberLimit_applyTokens hwire hdive hissues side
  refine ⟨hlimit, ?_⟩
  rw [← flags_agree_iff hwire hdive hissues side, hlimit, Prod.ext_iff]
  exact and_iff_right rfl

/-- A latitude above a bound of its own: the range comes first. -/
def polarTokens : List Token :=
  [⟨"latitude", none⟩, ⟨"required", none⟩, ⟨"gt", some "66.5"⟩, ⟨"max", some "89"⟩]

theorem number_limits_of_polarTokens :
    (∀ t ∈ polarTokens, t.name ≠ "dive") ∧ (applyTokens [] polarTokens .number .empty).2 = [] ∧
      ∀ side, numberLimit (applyTokens [] polarTokens .number .empty).1 side =
        numberLimit (applyTokens [] (lastAmong side.boundNames polarTokens).toList .number .empty).1
          side := by
  have hdive : ∀ t ∈ polarTokens, t.name ≠ "dive" := by decide
  have hissues : (applyTokens [] polarTokens .number .empty).2 = [] := by decide
  refine ⟨hdive, hissues, fun side ↦ ?_⟩
  rw [(number_limits_of_last_tokens [] (.inr rfl) hdive hissues side).2]
  cases side <;> decide

/-- A range after a strict comparison sets the bound and leaves the flag of the comparison. -/
theorem range_keeps_flag_of_comparison :
    let group : List Token := [⟨"gt", some "5"⟩, ⟨"latitude", none⟩]
    (∀ t ∈ group, t.name ≠ "dive") ∧ (applyTokens [] group .number .empty).2 = [] ∧
      lastAmong Side.lower.boundNames group = some ⟨"latitude", none⟩ ∧
      numberLimit (applyTokens [] group .number .empty).1 .lower = (some (.int (-90)), true) ∧
      numberLimit (applyTokens [] [⟨"latitude", none⟩] .number .empty).1 .lower =
        (some (.int (-90)), false) := by
  decide

end ApiAtlas.Directive

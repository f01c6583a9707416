import ApiAtlas.Proofs.Keyed
import ApiAtlas.Proofs.Preservation
import Mathlib.Logic.Relation

/-!
# Levels of a group

The tokens of a group constrain a value up to the first `dive`, its elements up to the next one, and
so on down. On each level a member of the schema is set by the tokens of that level alone, and of
several tokens that set it the last one counts. What a token can set is said once, by an inversion
of its meaning, from which the members are read off.
-/

namespace ApiAtlas.Directive

open Text

variable {custom : List (String × String)} {wire : WireType}

/-! ## What a token can mean -/

/-- The edits that describe a value without setting bounds, allowed values or a type. -/
def Edit.isPlain : Edit → Bool
  | .nothing | .format _ | .pattern _ | .line _ => true
  | _ => false

/-- The names of the tokens whose edits are not plain. -/
def shapingTokens (wire : WireType) : List String :=
  ["min", "gte", "gt", "max", "lte", "lt", "len", "oneof", "eq", "latitude", "longitude"] ++
    (if wire = .array then ["unique"] else []) ++ if wire = .string then [] else ["boolean"]

/-- The edits that a token can stand for, by the name of the token. -/
inductive Means (wire : WireType) (t : Token) : Edit → Prop
  | lower {text : String} {edit : Edit} (hname : t.name ∈ ["min", "gte", "gt"])
      (h : lowerBound wire text (t.name == "gt") = .ok edit) : Means wire t edit
  | upper {text : String} {edit : Edit} (hname : t.name ∈ ["max", "lte", "lt"])
      (h : upperBound wire text (t.name == "lt") = .ok edit) : Means wire t edit
  | exact {text : String} {edit : Edit} (hname : t.name = "len")
      (h : exactBound wire text = .ok edit) : Means wire t edit
  | values {text : String} {allowed : List Json} (hname : t.name ∈ ["oneof", "eq"])
      (hvalue : t.value = some text) (hne : text.isEmpty = false)
      (h : allowedValues wire (if t.name = "oneof" then listedValues text else [text]) =
        .ok allowed) : Means wire t (.values allowed)
  | range (hname : t.name ∈ ["latitude", "longitude"]) (low high : Int) :
      Means wire t (.range low high)
  | unique (hname : t.name = "unique") : Means wire t .uniqueItems
  | boolean (hname : t.name = "boolean") (hwire : wire ≠ .string) : Means wire t .boolean
  | plain {edit : Edit} (hname : t.name ∉ shapingTokens wire) (h : edit.isPlain = true) :
      Means wire t edit

theorem value_of_needValue {t : Token} {text : String} (h : t.needValue = .ok text) :
    t.value = some text ∧ text.isEmpty = false := by
  unfold Token.needValue at h
  split at h
  · next value hvalue =>
    split at h
    · simp at h
    · next hne =>
      obtain rfl : value = text := by simpa using h
      exact ⟨hvalue, by simpa using hne⟩
  · simp at h

theorem exists_of_map_ok {α β : Type} {result : Except Issue α} {f : α → β} {b : β}
    (h : result.map f = .ok b) : ∃ a, result = .ok a ∧ f a = b := by
  cases result with
  | error issue => simp [Except.map] at h
  | ok a => exact ⟨a, rfl, by simpa [Except.map] using h⟩

/-- A single allowed value is a list of one. -/
theorem allowedValues_singleton (wire : WireType) (text : String) :
    allowedValues wire [text] = (allowedValue wire text).map fun json ↦ [json] := by
  cases h : allowedValue wire text <;> simp [allowedValues, h, Except.map]

theorem valued_lower {name : String} (h : name ∈ ["min", "gte", "gt"]) (text : String) :
    valued wire name text = some (lowerBound wire text (name == "gt")) := by
  simp only [List.mem_cons, List.not_mem_nil, or_false] at h
  rcases h with rfl | rfl | rfl <;> rfl

theorem valued_upper {name : String} (h : name ∈ ["max", "lte", "lt"]) (text : String) :
    valued wire name text = some (upperBound wire text (name == "lt")) := by
  simp only [List.mem_cons, List.not_mem_nil, or_false] at h
  rcases h with rfl | rfl | rfl <;> rfl

/-- The other tokens that need a value describe it, or put it into a pattern. -/
theorem valued_plain {name text : String} {edit : Edit} (hname : name ∈ valueTokens)
    (hplain : name ∉ shapingTokens wire) (h : valued wire name text = some (.ok edit)) :
    edit.isPlain = true := by
  have hrest : ∀ n ∈ valueTokens, n ∉ shapingTokens wire →
      n ∈ ["ne", "contains", "excludes", "startswith", "endswith"] := by cases wire <;> decide
  have hname := hrest name hname hplain
  simp only [List.mem_cons, List.not_mem_nil, or_false] at hname
  rcases hname with rfl | rfl | rfl | rfl | rfl
  all_goals
    obtain rfl := Except.ok.inj (Option.some.inj h)
    rfl

theorem means_of_valued {t : Token} {text : String} {edit : Edit} (hname : t.name ∈ valueTokens)
    (hvalue : t.value = some text) (hne : text.isEmpty = false)
    (h : valued wire t.name text = some (.ok edit)) : Means wire t edit := by
  by_cases hplain : t.name ∉ shapingTokens wire
  · exact .plain hplain (valued_plain hname hplain h)
  have hkinds : ∀ n ∈ valueTokens, n ∈ shapingTokens wire →
      n ∈ ["min", "gte", "gt"] ∨ n ∈ ["max", "lte", "lt"] ∨ n = "len" ∨ n = "oneof" ∨ n = "eq" := by
    cases wire <;> decide
  rcases hkinds t.name hname (not_not.1 hplain) with hlower | hupper | hlen | honeof | heq
  · rw [valued_lower hlower] at h
    exact .lower hlower (Option.some.inj h)
  · rw [valued_upper hupper] at h
    exact .upper hupper (Option.some.inj h)
  · rw [hlen] at h
    exact .exact hlen (Option.some.inj h)
  · rw [honeof] at h
    obtain ⟨allowed, hallowed, rfl⟩ := exists_of_map_ok (Option.some.inj h)
    exact .values (by simp [honeof]) hvalue hne (by rwa [if_pos honeof])
  · rw [heq] at h
    obtain ⟨json, hjson, rfl⟩ := exists_of_map_ok (Option.some.inj h)
    refine .values (by simp [heq]) hvalue hne ?_
    rw [if_neg (by simp [heq]), allowedValues_singleton, hjson]
    rfl

theorem exists_valued (wire : WireType) {name : String} (h : name ∈ valueTokens) (text : String) :
    ∃ result, valued wire name text = some result := by
  simp only [valueTokens, List.mem_cons, List.not_mem_nil, or_false] at h
  rcases h with rfl | rfl | rfl | rfl | rfl | rfl | rfl | rfl | rfl | rfl | rfl | rfl | rfl | rfl
  all_goals exact ⟨_, rfl⟩

theorem described_plain {t : Token} {edit : Edit} (h : described custom t = .ok edit) :
    edit.isPlain = true := by
  unfold described at h
  split at h
  · split at h
    · obtain rfl := Except.ok.inj h
      rfl
    · simp at h
  · split at h
    · obtain rfl := Except.ok.inj h
      rfl
    · obtain rfl := Except.ok.inj h
      rfl

theorem means_of_bare {t : Token} {edit : Edit} (h : bare wire t.name = some edit) :
    Means wire t edit := by
  unfold bare at h
  split at h
  · next hname =>
    obtain rfl := Option.some.inj h
    exact .range (by simp [hname]) _ _
  · next hname =>
    obtain rfl := Option.some.inj h
    exact .range (by simp [hname]) _ _
  · next hname =>
    obtain rfl := Option.some.inj h
    split
    · exact .unique hname
    · next hwire =>
      have hall : ∀ w : WireType, w ≠ .array → "unique" ∉ shapingTokens w := by
        intro w
        cases w <;> decide
      exact .plain (hname ▸ hall wire (by simpa using hwire)) rfl
  · next hname =>
    obtain rfl := Option.some.inj h
    split
    · next hwire =>
      refine .plain ?_ rfl
      obtain rfl : wire = .string := by simpa using hwire
      rw [hname]
      decide
    · next hwire => exact .boolean hname (by simpa using hwire)
  · simp at h

theorem notMem_shapingTokens_of_lookup {table : List (String × String)} {name text : String}
    (htable : ∀ entry ∈ table, entry.1 ∉ shapingTokens wire) (h : table.lookup name = some text) :
    name ∉ shapingTokens wire :=
  htable _ (Keyed.mem_of_get? h)

/-- A token means nothing else than what its name admits. -/
theorem means_of_meaning {t : Token} {edit : Edit} (h : meaning custom wire t = .ok edit) :
    Means wire t edit := by
  unfold meaning at h
  split at h
  · next hpresence =>
    obtain rfl := Except.ok.inj h
    have hall : ∀ n ∈ shapingTokens wire, (n.isEmpty || presenceTokens.contains n) ≠ true := by
      cases wire <;> decide
    exact .plain (fun hmem ↦ hall t.name hmem hpresence) rfl
  split at h
  · next hdatetime =>
    obtain rfl := Except.ok.inj h
    refine .plain ?_ rfl
    rw [beq_iff_eq.1 hdatetime]
    cases wire <;> decide
  split at h
  · next hneeds =>
    have hname : t.name ∈ valueTokens := List.contains_iff_mem.1 hneeds
    split at h
    · simp at h
    · next text hvalue =>
      obtain ⟨hvalue, hne⟩ := value_of_needValue hvalue
      obtain ⟨result, hresult⟩ := exists_valued wire hname text
      rw [hresult, Option.getD_some] at h
      exact means_of_valued hname hvalue hne (h ▸ hresult)
  · next hneeds =>
    split at h
    · next text _ _ hformat =>
      obtain rfl := Except.ok.inj h
      exact .plain (notMem_shapingTokens_of_lookup (by cases wire <;> decide) hformat) rfl
    · next text _ _ hpattern =>
      obtain rfl := Except.ok.inj h
      exact .plain (notMem_shapingTokens_of_lookup (by cases wire <;> decide) hpattern) rfl
    · next hbare =>
      obtain rfl := Except.ok.inj h
      exact means_of_bare hbare
    · next hbare =>
      have hall : ∀ n ∈ shapingTokens wire, valueTokens.contains n ≠ true → bare wire n ≠ none := by
        cases wire <;> decide
      exact .plain (fun hmem ↦ hall t.name hmem hneeds hbare) (described_plain h)

/-! ## The tokens of a level -/

/-- The tokens that constrain the value itself: those before `dive`. -/
def ownTokens (group : List Token) : List Token :=
  group.takeWhile fun t ↦ t.name != "dive"

theorem ownTokens_dive {t : Token} (h : t.name = "dive") (rest : List Token) :
    ownTokens (t :: rest) = [] := by
  simp [ownTokens, h]

theorem ownTokens_cons {t : Token} (h : t.name ≠ "dive") (rest : List Token) :
    ownTokens (t :: rest) = t :: ownTokens rest := by
  simp [ownTokens, h]

theorem ownTokens_eq_self {group : List Token} (h : ∀ t ∈ group, t.name ≠ "dive") :
    ownTokens group = group :=
  List.takeWhile_eq_self_iff.2 fun t ht ↦ by simpa using h t ht

theorem name_ne_of_mem_ownTokens {group : List Token} {t : Token} (h : t ∈ ownTokens group) :
    t.name ≠ "dive" := by
  simpa using List.mem_takeWhile_imp h

/-- Without issues every token of a level has a meaning. -/
theorem exists_meaning_of_mem {group : List Token} {s : Schema}
    (h : (applyTokens custom group wire s).2 = []) {t : Token} (ht : t ∈ ownTokens group) :
    ∃ edit, meaning custom wire t = .ok edit := by
  induction group generalizing s with
  | nil => simp [ownTokens] at ht
  | cons first rest ih =>
    by_cases hdive : first.name = "dive"
    · simp [ownTokens_dive hdive] at ht
    rw [ownTokens_cons hdive] at ht
    cases hmeaning : meaning custom wire first with
    | error issue => simp [applyTokens_of_error hdive hmeaning] at h
    | ok edit =>
      rw [applyTokens_of_ok hdive hmeaning] at h
      rcases List.mem_cons.1 ht with rfl | hlater
      · exact ⟨edit, hmeaning⟩
      · exact ih h hlater

/-! ## Members that tokens set -/

/-- The edits that set members to what they say. -/
def Edit.isSimple : Edit → Bool
  | .pattern _ | .line _ | .both _ _ => false
  | _ => true

/-- A member of a schema that each edit sets as a whole or leaves alone. Patterns, descriptions and
elements, which grow, are no such members. -/
structure Member (α : Type) where
  read : Schema → α
  /-- What an edit sets the member to. -/
  set? : Edit → Option α
  read_apply_simple : ∀ edit s, edit.isSimple = true →
    read (edit.apply s) = (set? edit).getD (read s)
  set?_text : ∀ text, set? (.pattern text) = none ∧ set? (.line text) = none
  set?_both : ∀ first second, set? (.both first second) = (set? second).or (set? first)
  read_other : ∀ (s : Schema) pattern allOf description items additionalProperties,
    read { s with
      pattern := pattern
      allOf := allOf
      description := description
      items := items
      additionalProperties := additionalProperties } = read s

namespace Member

variable {α : Type} (m : Member α)

theorem read_addPattern (text : String) (s : Schema) : m.read (addPattern text s) = m.read s := by
  unfold addPattern
  split
  · exact m.read_other s (some text) s.allOf s.description s.items s.additionalProperties
  · exact m.read_other s s.pattern _ s.description s.items s.additionalProperties

theorem read_describe (s : Schema) (line : String) : m.read (s.describe line) = m.read s := by
  have hread (description : Option String) :=
    m.read_other s s.pattern s.allOf description s.items s.additionalProperties
  unfold Schema.describe
  split
  · split
    · exact hread (some line)
    · exact hread _
  · exact hread (some line)

theorem read_withElement (wire : WireType) (s inner : Schema) :
    m.read (withElement wire s inner) = m.read s := by
  unfold withElement
  split
  · exact m.read_other s s.pattern s.allOf s.description s.items (some inner)
  · exact m.read_other s s.pattern s.allOf s.description (some inner) s.additionalProperties

theorem read_apply (edit : Edit) (s : Schema) :
    m.read (edit.apply s) = (m.set? edit).getD (m.read s) := by
  induction edit generalizing s with
  | pattern text =>
    rw [(m.set?_text text).1]
    exact m.read_addPattern text s
  | line text =>
    rw [(m.set?_text text).2]
    exact m.read_describe s text
  | both first second ihFirst ihSecond =>
    rw [m.set?_both, Option.getD_or, ← ihFirst]
    exact ihSecond (first.apply s)
  | _ => exact m.read_apply_simple _ s rfl

/-- What a token sets a member to. -/
def setBy? (custom : List (String × String)) (wire : WireType) (t : Token) : Option α :=
  match meaning custom wire t with
  | .ok edit => m.set? edit
  | .error _ => none

theorem setBy?_of_ok {t : Token} {edit : Edit} (h : meaning custom wire t = .ok edit) :
    m.setBy? custom wire t = m.set? edit := by
  rw [setBy?, h]

theorem setBy?_of_error {t : Token} {issue : Issue} (h : meaning custom wire t = .error issue) :
    m.setBy? custom wire t = none := by
  rw [setBy?, h]

/-- Of the tokens of a level that set a member, the last one counts. -/
theorem read_applyTokens (group : List Token) (wire : WireType) (s : Schema) :
    m.read (applyTokens custom group wire s).1 =
      ((ownTokens group).filterMap (m.setBy? custom wire)).getLast?.getD (m.read s) := by
  induction group generalizing s with
  | nil => rfl
  | cons t rest ih =>
    by_cases hdive : t.name = "dive"
    · rw [applyTokens_dive hdive, ownTokens_dive hdive, m.read_withElement]
      rfl
    rw [ownTokens_cons hdive]
    cases hmeaning : meaning custom wire t with
    | error issue =>
      rw [applyTokens_of_error hdive hmeaning, ih, List.filterMap_cons_none]
      exact m.setBy?_of_error hmeaning
    | ok edit =>
      rw [applyTokens_of_ok hdive hmeaning, ih, m.read_apply]
      cases hset : m.set? edit with
      | none =>
        rw [List.filterMap_cons_none ((m.setBy?_of_ok hmeaning).trans hset)]
        rfl
      | some a =>
        -- What this token sets stands unless a later token of the level sets it again.
        rw [List.filterMap_cons_some ((m.setBy?_of_ok hmeaning).trans hset), List.getLast?_cons]
        rfl

theorem read_applyTokens_singleton {t : Token} (h : t.name ≠ "dive") (wire : WireType)
    (s : Schema) :
    m.read (applyTokens custom [t] wire s).1 = (m.setBy? custom wire t).getD (m.read s) := by
  rw [m.read_applyTokens, ownTokens_cons h]
  cases hset : m.setBy? custom wire t <;> simp [ownTokens, hset]

/-- If some token of a level sets a member, the member is what a token of the level sets it to. -/
theorem exists_setBy?_eq {group : List Token} {t : Token} (ht : t ∈ ownTokens group)
    (hset : m.setBy? custom wire t ≠ none) (s : Schema) :
    ∃ u ∈ ownTokens group,
      m.setBy? custom wire u = some (m.read (applyTokens custom group wire s).1) := by
  obtain ⟨a, ha⟩ := Option.ne_none_iff_exists'.1 hset
  have hne : (ownTokens group).filterMap (m.setBy? custom wire) ≠ [] :=
    List.ne_nil_of_mem (List.mem_filterMap.2 ⟨t, ht, ha⟩)
  rw [m.read_applyTokens, List.getLast?_eq_some_getLast hne, Option.getD_some]
  exact List.mem_filterMap.1 (List.getLast_mem hne)

/-- A member stays as it is if no token of the level sets it. -/
theorem read_applyTokens_of_none {group : List Token}
    (h : ∀ t ∈ ownTokens group, m.setBy? custom wire t = none) (s : Schema) :
    m.read (applyTokens custom group wire s).1 = m.read s := by
  rw [m.read_applyTokens, List.filterMap_eq_nil_iff.2 h]
  rfl

theorem getLast?_filterMap {β : Type} {f : β → Option α} {p : β → Bool} {l : List β}
    (h : ∀ b ∈ l, (f b).isSome = p b) :
    (l.filterMap f).getLast? = (l.filter p).getLast?.bind f := by
  induction l using List.reverseRecOn with
  | nil => rfl
  | append_singleton front b ih =>
    have hfront := ih fun a ha ↦ h a (List.mem_append_left _ ha)
    have hlast := h b (by simp)
    rw [List.filterMap_append, List.filter_append]
    cases hb : f b with
    | none =>
      rw [hb, Option.isSome_none] at hlast
      simpa [hb, ← hlast] using hfront
    | some a =>
      rw [hb, Option.isSome_some] at hlast
      simp [hb, ← hlast]

/-- A member is what the last token for it sets if it is applied alone. -/
theorem read_applyTokens_last {p : Token → Bool} {group : List Token}
    (hp : ∀ t ∈ ownTokens group, (m.setBy? custom wire t).isSome = p t) (s : Schema) :
    m.read (applyTokens custom group wire s).1 =
      m.read (applyTokens custom ((ownTokens group).filter p).getLast?.toList wire s).1 := by
  have hdive : ∀ t ∈ ((ownTokens group).filter p).getLast?.toList, t.name ≠ "dive" := by
    intro t ht
    have hmem := List.mem_of_mem_getLast? (Option.mem_toList.1 ht)
    exact name_ne_of_mem_ownTokens (List.mem_filter.1 hmem).1
  rw [m.read_applyTokens, m.read_applyTokens, ownTokens_eq_self hdive, getLast?_filterMap hp]
  cases ((ownTokens group).filter p).getLast? with
  | none => rfl
  | some t => cases hset : m.setBy? custom wire t <;> simp [hset]

end Member

/-! ## Down the levels -/

theorem element_withElement (wire : WireType) (s inner : Schema) :
    element wire (withElement wire s inner) = inner := by
  unfold element withElement
  cases wire <;> rfl

/-- The tokens after `dive` do to the elements what they do to a schema of their own. -/
theorem element_applyTokens {front rest : List Token} {dive : Token}
    (hfront : ∀ t ∈ front, t.name ≠ "dive") (hdive : dive.name = "dive") (wire : WireType)
    (s : Schema) :
    element wire (applyTokens custom (front ++ dive :: rest) wire s).1 =
      (applyTokens custom rest (.ofSchema (element wire s)) (element wire s)).1 := by
  induction front generalizing s with
  | nil => rw [List.nil_append, applyTokens_dive hdive, element_withElement]
  | cons t front ih =>
    have ht := hfront t List.mem_cons_self
    have hlater := ih fun u hu ↦ hfront u (List.mem_cons_of_mem _ hu)
    rw [List.cons_append]
    cases hmeaning : meaning custom wire t with
    | error issue => rw [applyTokens_of_error ht hmeaning, hlater]
    | ok edit =>
      rw [applyTokens_of_ok ht hmeaning, hlater, (sameElements_edit edit s).element_eq]

/-- A group of tokens at work on one level: the wire type of the value and its schema before and
after the whole group. -/
structure Stage where
  group : List Token
  wire : WireType
  before : Schema
  after : Schema

namespace Stage

/-- One `dive` leads from a value to its elements. -/
inductive Dives : Stage → Stage → Prop
  | intro {front rest : List Token} {dive : Token} (hfront : ∀ t ∈ front, t.name ≠ "dive")
      (hdive : dive.name = "dive") (wire : WireType) (before after : Schema) :
      Dives ⟨front ++ dive :: rest, wire, before, after⟩
        ⟨rest, .ofSchema (element wire before), element wire before, element wire after⟩

/-- The schema of a level comes about by the tokens of the group, as a directive writes them. -/
structure Arises (custom : List (String × String)) (stage : Stage) : Prop where
  after_eq : stage.after = (applyTokens custom stage.group stage.wire stage.before).1
  trimmed : ∀ t ∈ stage.group, ∀ value ∈ t.value, Trimmed value.toList

theorem Arises.dives {stage below : Stage} (h : stage.Arises custom) (hdives : stage.Dives below) :
    below.Arises custom := by
  obtain @⟨front, rest, dive, hfront, hdive, wire, before, after⟩ := hdives
  constructor
  · rw [← element_applyTokens hfront hdive]
    exact congrArg (element wire) h.after_eq
  · intro t ht
    exact h.trimmed t (List.mem_append_right _ (List.mem_cons_of_mem _ ht))

theorem Arises.descends {stage below : Stage} (h : stage.Arises custom)
    (hpath : Relation.ReflTransGen Dives stage below) : below.Arises custom := by
  induction hpath with
  | refl => exact h
  | tail _ hdives ih => exact ih.dives hdives

end Stage

/-- The groups of a directive at work: one group on the schema itself, and several groups each on an
alternative of their own. -/
def openings (custom : List (String × String)) (directive : String) (wire : WireType) (s : Schema) :
    List Stage :=
  if 2 ≤ (groups directive.toList).length then
    List.zipWith (fun group alternative ↦ ⟨tokens group, wire, .empty, alternative⟩)
      (groups directive.toList) ((apply custom directive wire s).1.anyOf.getD [])
  else [⟨tokens directive.toList, wire, s, (apply custom directive wire s).1⟩]

theorem trimmed_value_of_mem_tokens {group : List Char} {t : Token} (ht : t ∈ tokens group)
    {value : String} (hvalue : value ∈ t.value) : Trimmed value.toList := by
  obtain ⟨piece, _, rfl⟩ := List.mem_map.1 ht
  unfold Token.ofChars at hvalue
  split at hvalue
  · simp at hvalue
  · obtain rfl := Option.some.inj hvalue
    simpa using trimmed_trim _

theorem arises_of_mem_openings {directive : String} {s : Schema} {stage : Stage}
    (h : stage ∈ openings custom directive wire s) : stage.Arises custom := by
  unfold openings at h
  split at h
  · next hgroups =>
    rw [anyOf_apply, if_pos hgroups, Option.getD_some, List.map_map, List.zipWith_map_right,
      List.zipWith_self] at h
    obtain ⟨group, _, rfl⟩ := List.mem_map.1 h
    exact ⟨rfl, fun t ht value ↦ trimmed_value_of_mem_tokens ht⟩
  · next hgroups =>
    obtain rfl := List.mem_singleton.1 h
    refine ⟨?_, fun t ht value ↦ trimmed_value_of_mem_tokens ht⟩
    rw [apply_of_group custom hgroups]

end ApiAtlas.Directive

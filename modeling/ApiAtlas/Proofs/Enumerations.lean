import ApiAtlas.Proofs.LengthBounds
import ApiAtlas.Proofs.Levels

/-!
# Enumerated values

The tokens `oneof` and `eq` list the values that are allowed. Their texts become numbers where the
wire type is numeric and strings everywhere else, so that on a boolean field no listed value is one
of the field. The list of `oneof` is written with blanks between the values and quotes around those
that need them; it is read one value at a time, each round from a shorter text.
-/

namespace ApiAtlas

open Text

/-- Whether a JSON value has a wire type; an integer is any number. -/
def Json.hasWire : Json → WireType → Bool
  | .string _, .string | .number _, .integer | .number _, .number | .bool _, .boolean => true
  | .array _, .array | .object _, .object => true
  | _, _ => false

namespace Directive

variable {custom : List (String × String)} {wire : WireType}

/-! ## Rounds of reading -/

/-- One round of reading a list of values: the first value, and the text that is left. -/
def listedStep : List Char → List Char × List Char
  | [] => ([], [])
  | c :: rest =>
    if c = '\'' then
      (rest.takeWhile (· != '\''), trimStart ((rest.dropWhile (· != '\'')).drop 1))
    else
      ((c :: rest).takeWhile (fun d ↦ !isBlank d),
        trimStart ((c :: rest).dropWhile fun d ↦ !isBlank d))

/-- The text that a round leaves over. -/
def leftOver (cs : List Char) : List Char :=
  (listedStep cs).2

theorem listedFrom_of_ne_nil {cs : List Char} (h : cs ≠ []) :
    listedFrom cs = (listedStep cs).1 :: listedFrom (leftOver cs) := by
  obtain ⟨c, rest, rfl⟩ := List.exists_cons_of_ne_nil h
  rw [leftOver, listedStep]
  by_cases hquote : c = '\''
  · subst hquote
    rw [if_pos rfl, listedFrom]
  · rw [if_neg hquote, listedFrom]
    exact hquote

theorem trimStart_suffix (cs : List Char) : trimStart cs <:+ cs :=
  List.dropWhile_suffix isBlank

/-- A round uses up the first character at least. -/
theorem leftOver_suffix (c : Char) (rest : List Char) : leftOver (c :: rest) <:+ rest := by
  rw [leftOver, listedStep]
  split
  · exact (trimStart_suffix _).trans ((List.drop_suffix 1 _).trans (List.dropWhile_suffix _))
  · by_cases hblank : isBlank c = true
    · have hall : trimStart ((c :: rest).dropWhile fun d ↦ !isBlank d) = trimStart rest := by
        simp [trimStart, hblank]
      exact hall ▸ trimStart_suffix rest
    · rw [List.dropWhile_cons_of_pos (by simpa using hblank)]
      exact (trimStart_suffix _).trans (List.dropWhile_suffix _)

theorem length_leftOver_lt {cs : List Char} (h : cs ≠ []) : (leftOver cs).length < cs.length := by
  obtain ⟨c, rest, rfl⟩ := List.exists_cons_of_ne_nil h
  exact Nat.lt_succ_of_le (leftOver_suffix c rest).length_le

/-- The rounds come to an end, and each of them gives one value. -/
theorem exists_rounds (cs : List Char) :
    ∃ rounds ≤ cs.length, leftOver^[rounds] cs = [] ∧ (∀ k < rounds, leftOver^[k] cs ≠ []) ∧
      listedFrom cs = (List.range rounds).map fun k ↦ (listedStep (leftOver^[k] cs)).1 := by
  by_cases hne : cs = []
  · exact ⟨0, by simp, hne, by simp, by simp [hne, listedFrom]⟩
  have hshorter := length_leftOver_lt hne
  obtain ⟨rounds, hbound, hend, hearlier, hvalues⟩ := exists_rounds (leftOver cs)
  refine ⟨rounds + 1, by omega, hend, fun k hk ↦ ?_, ?_⟩
  · cases k with
    | zero => exact hne
    | succ k => exact hearlier k (by omega)
  · rw [listedFrom_of_ne_nil hne, hvalues, List.range_succ_eq_map, List.map_cons, List.map_map]
    rfl
termination_by cs.length

-- An open quote reaches to the end of the text.
example : listedValues "red 'light blue " = ["red", "light blue"] := by cbv

/-! ## Listed values -/

/-- The wire types of single values. -/
def scalarTypes : List WireType :=
  [.string, .integer, .number, .boolean]

/-- A listed value is one of its wire type unless that is the boolean one, and never a boolean. -/
theorem hasWire_of_allowedValue (hwire : wire ∈ scalarTypes) {text : String} {json : Json}
    (h : allowedValue wire text = .ok json) :
    json.hasWire wire = decide (wire ≠ .boolean) ∧ json.hasWire .boolean = false := by
  simp only [scalarTypes, List.mem_cons, List.not_mem_nil, or_false] at hwire
  rcases hwire with rfl | rfl | rfl | rfl
  · obtain rfl := Except.ok.inj h
    exact ⟨rfl, rfl⟩
  · obtain ⟨x, _, rfl⟩ := exists_of_map_ok h
    exact ⟨rfl, rfl⟩
  · obtain ⟨x, _, rfl⟩ := exists_of_map_ok h
    exact ⟨rfl, rfl⟩
  · obtain rfl := Except.ok.inj h
    exact ⟨rfl, rfl⟩

theorem forall_hasWire_iff (hwire : wire ∈ scalarTypes) {values : List Json} (hne : values ≠ [])
    (hread : ∀ json ∈ values, ∃ text, allowedValue wire text = .ok json) :
    ((∀ json ∈ values, json.hasWire wire = true) ↔ wire ≠ .boolean) ∧
      ¬ ∀ json ∈ values, json.hasWire .boolean = true := by
  obtain ⟨first, hfirst⟩ := List.exists_mem_of_ne_nil values hne
  refine ⟨⟨fun hall ↦ ?_, fun hboolean json hjson ↦ ?_⟩, fun hall ↦ ?_⟩
  · obtain ⟨text, htext⟩ := hread first hfirst
    simpa [(hasWire_of_allowedValue hwire htext).1] using hall first hfirst
  · obtain ⟨text, htext⟩ := hread json hjson
    simpa [(hasWire_of_allowedValue hwire htext).1] using hboolean
  · obtain ⟨text, htext⟩ := hread first hfirst
    simpa [(hasWire_of_allowedValue hwire htext).2] using hall first hfirst

/-- Each text of a list becomes one value. -/
theorem allowedValues_eq_ok {texts : List String} {values : List Json}
    (h : allowedValues wire texts = .ok values) :
    values.length = texts.length ∧ ∀ json ∈ values, ∃ text, allowedValue wire text = .ok json := by
  induction texts generalizing values with
  | nil =>
    obtain rfl := Except.ok.inj h
    simp
  | cons text rest ih =>
    unfold allowedValues at h
    split at h
    · simp at h
    · next json hjson =>
      obtain ⟨later, hlater, rfl⟩ := exists_of_map_ok h
      obtain ⟨hlength, hall⟩ := ih hlater
      exact ⟨by simp [hlength], List.forall_mem_cons.2 ⟨⟨text, hjson⟩, hall⟩⟩

theorem listedValues_ne_nil {text : String} (htrimmed : Trimmed text.toList)
    (hne : text.isEmpty = false) : listedValues text ≠ [] := by
  have hchars : text.toList ≠ [] := by simpa using hne
  rw [listedValues, htrimmed.trim_eq, listedFrom_of_ne_nil hchars]
  simp

/-! ## Values and types that tokens set -/

namespace Edit

/-- The allowed values that an edit sets. -/
def allowed? : Edit → Option (List Json)
  | .values allowed => some allowed
  | .both first second => second.allowed?.or first.allowed?
  | _ => none

/-- The type that an edit sets. -/
def type? : Edit → Option String
  | .boolean => some "boolean"
  | .both first second => second.type?.or first.type?
  | _ => none

/-- The edits that set bounds on lengths or numbers. -/
def isBound : Edit → Bool
  | .minLength _ | .maxLength _ | .minItems _ | .maxItems _ | .minimum _ _ | .maximum _ _ => true
  | .both first second => first.isBound && second.isBound
  | _ => false

theorem allowed?_of_isBound {edit : Edit} (h : edit.isBound = true) :
    edit.allowed? = none ∧ edit.type? = none := by
  induction edit with
  | both first second ihFirst ihSecond =>
    obtain ⟨hfirst, hsecond⟩ := Bool.and_eq_true_iff.1 h
    simp [allowed?, type?, ihFirst hfirst, ihSecond hsecond]
  | _ => simp_all [isBound, allowed?, type?]

theorem allowed?_of_isPlain {edit : Edit} (h : edit.isPlain = true) :
    edit.allowed? = none ∧ edit.type? = none := by
  cases edit <;> simp_all [isPlain, allowed?, type?]

end Edit

/-- The allowed values as a member of the schema. -/
def enumMember : Member (Option (List Json)) where
  read := Schema.enum
  set? edit := edit.allowed?.map some
  read_apply_simple edit s h := by
    cases edit with
    | pattern | line | both => simp [Edit.isSimple] at h
    | _ => rfl
  set?_text _ := ⟨rfl, rfl⟩
  set?_both _ _ := Option.map_or
  read_other _ _ _ _ _ _ := rfl

/-- The type as a member of the schema. -/
def typeMember : Member (Option String) where
  read := Schema.type
  set? edit := edit.type?.map some
  read_apply_simple edit s h := by
    cases edit with
    | pattern | line | both => simp [Edit.isSimple] at h
    | _ => rfl
  set?_text _ := ⟨rfl, rfl⟩
  set?_both _ _ := Option.map_or
  read_other _ _ _ _ _ _ := rfl

theorem isBound_of_lowerBound {text : String} {exclusive : Bool} {edit : Edit}
    (h : lowerBound wire text exclusive = .ok edit) : edit.isBound = true := by
  unfold lowerBound at h
  split at h
  all_goals
    obtain ⟨_, _, rfl⟩ := exists_of_map_ok h
    rfl

theorem isBound_of_upperBound {text : String} {exclusive : Bool} {edit : Edit}
    (h : upperBound wire text exclusive = .ok edit) : edit.isBound = true := by
  unfold upperBound at h
  split at h
  all_goals
    obtain ⟨_, _, rfl⟩ := exists_of_map_ok h
    rfl

theorem isBound_of_exactBound {text : String} {edit : Edit} (h : exactBound wire text = .ok edit) :
    edit.isBound = true := by
  unfold exactBound at h
  split at h
  · next low high hlow hhigh =>
    obtain rfl := Except.ok.inj h
    simp [Edit.isBound, isBound_of_lowerBound hlow, isBound_of_upperBound hhigh]
  · simp at h
  · simp at h

/-- What a token does to the allowed values and to the type: it lists values, makes the value a
boolean, or does neither. -/
inductive ValueRole (wire : WireType) (t : Token) (edit : Edit) : Prop
  | lists {text : String} {allowed : List Json} (hname : t.name ∈ ["oneof", "eq"])
      (hvalue : t.value = some text) (hne : text.isEmpty = false)
      (h : allowedValues wire (if t.name = "oneof" then listedValues text else [text]) =
        .ok allowed)
      (hallowed : edit.allowed? = some allowed) (htype : edit.type? = none)
  | boolean (hname : t.name = "boolean") (hwire : wire ≠ .string) (hallowed : edit.allowed? = none)
      (htype : edit.type? = some "boolean")
  | neither (hname : t.name ∉ ["oneof", "eq"]) (hboolean : t.name = "boolean" → wire = .string)
      (hallowed : edit.allowed? = none) (htype : edit.type? = none)

/-- Every token has one of the three roles. -/
theorem valueRole_of_means {t : Token} {edit : Edit} (h : Means wire t edit) :
    ValueRole wire t edit := by
  have hapart : ∀ n ∈ ["min", "gte", "gt", "max", "lte", "lt", "len", "latitude", "longitude",
      "unique"], n ∉ ["oneof", "eq"] ∧ n ≠ "boolean" := by decide
  have hneither (hname : t.name ∈ ["min", "gte", "gt", "max", "lte", "lt", "len", "latitude",
      "longitude", "unique"]) (hnone : edit.allowed? = none ∧ edit.type? = none) :
      ValueRole wire t edit :=
    .neither (hapart _ hname).1 (fun hboolean ↦ absurd hboolean (hapart _ hname).2) hnone.1 hnone.2
  cases h with
  | lower hname h => exact hneither (by grind) (Edit.allowed?_of_isBound (isBound_of_lowerBound h))
  | upper hname h => exact hneither (by grind) (Edit.allowed?_of_isBound (isBound_of_upperBound h))
  | exact hname h => exact hneither (by grind) (Edit.allowed?_of_isBound (isBound_of_exactBound h))
  | range hname low high => exact hneither (by grind) ⟨rfl, rfl⟩
  | unique hname => exact hneither (by grind) ⟨rfl, rfl⟩
  | values hname hvalue hne h => exact .lists hname hvalue hne h rfl rfl
  | boolean hname hwire => exact .boolean hname hwire rfl rfl
  | plain hname h =>
    have hlists : ∀ n ∈ ["oneof", "eq"], n ∈ shapingTokens wire := by cases wire <;> decide
    have hboolean : wire ≠ .string → "boolean" ∈ shapingTokens wire := by cases wire <;> decide
    obtain ⟨hallowed, htype⟩ := Edit.allowed?_of_isPlain h
    refine .neither (fun hmem ↦ hname (hlists _ hmem)) (fun heq ↦ ?_) hallowed htype
    by_contra hwire
    exact hname (heq ▸ hboolean hwire)

/-- The values that a token sets are some, and each is read from a text. -/
theorem allowed_of_means {t : Token} {edit : Edit} (h : Means wire t edit)
    (htrimmed : ∀ value ∈ t.value, Trimmed value.toList) {allowed : List Json}
    (hset : edit.allowed? = some allowed) :
    allowed ≠ [] ∧ ∀ json ∈ allowed, ∃ text, allowedValue wire text = .ok json := by
  cases valueRole_of_means h with
  | @lists text values _ hvalue hne hvalues hallowed =>
    obtain rfl : values = allowed := Option.some.inj (hallowed.symm.trans hset)
    obtain ⟨hlength, hall⟩ := allowedValues_eq_ok hvalues
    refine ⟨List.length_pos_iff.1 (hlength ▸ List.length_pos_iff.2 ?_), hall⟩
    split
    · exact listedValues_ne_nil (htrimmed text hvalue) hne
    · simp
  | boolean _ _ hallowed => simp [hallowed] at hset
  | neither _ _ hallowed => simp [hallowed] at hset

theorem meaning_boolean {t : Token} (hname : t.name = "boolean") (hwire : wire ≠ .string) :
    meaning custom wire t = .ok .boolean := by
  obtain ⟨name, value⟩ := t
  obtain rfl : name = "boolean" := hname
  cases wire with
  | string => exact absurd rfl hwire
  | _ => rfl

theorem typeMember_setBy? (t : Token) :
    typeMember.setBy? custom wire t =
      if t.name = "boolean" ∧ wire ≠ .string then some (some "boolean") else none := by
  split
  · next h => exact typeMember.setBy?_of_ok (meaning_boolean h.1 h.2)
  · next h =>
    cases hmeaning : meaning custom wire t with
    | error issue => exact typeMember.setBy?_of_error hmeaning
    | ok edit =>
      rw [typeMember.setBy?_of_ok hmeaning]
      cases valueRole_of_means (means_of_meaning hmeaning) with
      | lists _ _ _ _ _ htype => exact congrArg (Option.map some) htype
      | boolean hname hwire => exact absurd ⟨hname, hwire⟩ h
      | neither _ _ _ htype => exact congrArg (Option.map some) htype

/-- A level keeps its type unless `boolean` is among its tokens and the value no string. -/
theorem type_applyTokens (group : List Token) (wire : WireType) (s : Schema) :
    (applyTokens custom group wire s).1.type =
      if wire ≠ .string ∧ ∃ t ∈ ownTokens group, t.name = "boolean" then some "boolean"
      else s.type := by
  split
  · next h =>
    obtain ⟨hwire, t, ht, hname⟩ := h
    obtain ⟨u, _, hu⟩ := typeMember.exists_setBy?_eq ht
      (by simp [typeMember_setBy?, hname, hwire] : typeMember.setBy? custom wire t ≠ none) s
    rw [typeMember_setBy?] at hu
    split at hu
    · exact (Option.some.inj hu).symm
    · simp at hu
  · next h =>
    refine typeMember.read_applyTokens_of_none (fun t ht ↦ ?_) s
    rw [typeMember_setBy?, if_neg]
    exact fun hboolean ↦ h ⟨hboolean.2, t, ht, hboolean.1⟩

theorem ofSchema_of_type (wire : WireType) {s : Schema} (h : s.type = some wire.name) :
    WireType.ofSchema s = wire := by
  unfold WireType.ofSchema
  rw [h]
  cases wire <;> decide

/-- Where a token that lists values succeeds, a value is listed on its level, and all are read from
texts. -/
theorem exists_enum_of_mem {stage : Stage} (harises : stage.Arises custom) {t : Token}
    (ht : t ∈ ownTokens stage.group) (hname : t.name ∈ ["oneof", "eq"])
    (hok : (applyTokens custom [t] stage.wire stage.before).2 = []) :
    ∃ values, stage.after.enum = some values ∧ values ≠ [] ∧
      ∀ json ∈ values, ∃ text, allowedValue stage.wire text = .ok json := by
  have hset : enumMember.setBy? custom stage.wire t ≠ none := by
    have hown : t ∈ ownTokens [t] := by simp [ownTokens_cons (name_ne_of_mem_ownTokens ht)]
    obtain ⟨edit, hmeaning⟩ := exists_meaning_of_mem hok hown
    rw [enumMember.setBy?_of_ok hmeaning]
    cases valueRole_of_means (means_of_meaning hmeaning) with
    | lists _ _ _ _ hallowed => simp [enumMember, hallowed]
    | boolean hboolean => simp [hboolean] at hname
    | neither hother => exact absurd hname hother
  -- The token that counts may be a later one of the level.
  obtain ⟨u, hu, hread⟩ := enumMember.exists_setBy?_eq ht hset stage.before
  cases hmeaning : meaning custom stage.wire u with
  | error issue => simp [enumMember.setBy?_of_error hmeaning] at hread
  | ok edit =>
    rw [enumMember.setBy?_of_ok hmeaning] at hread
    obtain ⟨allowed, hallowed, henum⟩ := Option.map_eq_some_iff.1 hread
    have hmem : u ∈ stage.group := (List.takeWhile_prefix _).subset hu
    have hvalues := allowed_of_means (means_of_meaning hmeaning) (harises.trimmed u hmem) hallowed
    exact ⟨allowed, (congrArg Schema.enum harises.after_eq).trans henum.symm, hvalues⟩

/-- Enumerations are satisfiable unless booleans come in. On whatever level of a directive a token
that lists values succeeds, the schema of that level lists some values. They have the wire type of
the level just if that is not the boolean one. If the level is typed by its wire type, the listed
values go with the type of the result just for strings, and for numbers that no token makes
booleans. -/
theorem enumerated_values_fit_iff (custom : List (String × String)) (directive : String)
    (wire : WireType) (s : Schema) {opening stage : Stage}
    (hopening : opening ∈ openings custom directive wire s)
    (hstage : Relation.ReflTransGen Stage.Dives opening stage) (hwire : stage.wire ∈ scalarTypes)
    {t : Token} (ht : t ∈ ownTokens stage.group) (hname : t.name ∈ ["oneof", "eq"])
    (hok : (applyTokens custom [t] stage.wire stage.before).2 = []) :
    ∃ values, stage.after.enum = some values ∧ values ≠ [] ∧
      ((∀ json ∈ values, json.hasWire stage.wire = true) ↔ stage.wire ≠ .boolean) ∧
      (stage.before.type = some stage.wire.name →
        ((∀ json ∈ values, json.hasWire (.ofSchema stage.after) = true) ↔
          stage.wire = .string ∨ (stage.wire.isNumeric = true ∧
            ∀ u ∈ ownTokens stage.group, u.name ≠ "boolean"))) := by
  have harises := (arises_of_mem_openings hopening).descends hstage
  obtain ⟨values, henum, hne, hread⟩ := exists_enum_of_mem harises ht hname hok
  obtain ⟨hfit, hboolean⟩ := forall_hasWire_iff hwire hne hread
  refine ⟨values, henum, hne, hfit, fun htype ↦ ?_⟩
  have hafter : stage.after.type = _ :=
    (congrArg Schema.type harises.after_eq).trans (type_applyTokens _ _ _)
  split at hafter
  · next h =>
    obtain ⟨hstring, u, hu, huname⟩ := h
    rw [ofSchema_of_type .boolean hafter]
    refine iff_of_false hboolean ?_
    rintro (heq | ⟨-, hnone⟩)
    · exact hstring heq
    · exact hnone u hu huname
  · next h =>
    rw [ofSchema_of_type _ (hafter.trans htype), hfit]
    have hkinds : ∀ w ∈ scalarTypes, w ≠ .boolean ↔ w = .string ∨ w.isNumeric = true := by decide
    rw [hkinds _ hwire]
    refine or_congr_right' fun hstring ↦ (and_iff_left fun u hu huname ↦ ?_).symm
    exact h ⟨hstring, u, hu, huname⟩

/-- Numbers that are listed for the elements of an array. -/
theorem enumerated_values_fit_elements :
    let numbers : Schema := { Schema.empty with type := some "number" }
    let s : Schema := { Schema.empty with type := some "array", items := some numbers }
    let after := element .array (apply [] "unique,dive,oneof=1 2.5 -3" .array s).1
    (applyTokens [] [⟨"oneof", some "1 2.5 -3"⟩] .number numbers).2 = [] ∧
      ∃ values, after.enum = some values ∧ values ≠ [] ∧
        ∀ json ∈ values, json.hasWire (.ofSchema after) = true := by
  intro numbers s after
  have hok : (applyTokens [] [⟨"oneof", some "1 2.5 -3"⟩] .number numbers).2 = [] := by
    decide +kernel
  have hopening : ⟨[⟨"unique", none⟩] ++ ⟨"dive", none⟩ :: [⟨"oneof", some "1 2.5 -3"⟩], .array, s,
      (apply [] "unique,dive,oneof=1 2.5 -3" .array s).1⟩ ∈
      openings [] "unique,dive,oneof=1 2.5 -3" .array s := by
    unfold openings
    rw [if_neg (by decide)]
    exact List.mem_singleton.2 (congrArg (Stage.mk · _ _ _) (by decide))
  obtain ⟨values, henum, hne, -, hfit⟩ := enumerated_values_fit_iff [] _ .array s hopening
    (.single (.intro (by decide) rfl .array s _)) (by decide) List.mem_cons_self (by decide) hok
  exact ⟨hok, values, henum, hne, (hfit rfl).2 (.inr ⟨rfl, by decide⟩)⟩

/-- The only value that a boolean field allows is a string, and a number that a token turns into a
boolean still allows numbers. -/
theorem enumerated_values_miss_boolean :
    let flag : Schema := { Schema.empty with type := some "boolean" }
    let number : Schema := { Schema.empty with type := some "number" }
    apply [] "eq=true" .boolean flag = ({ flag with enum := some [.string "true"] }, []) ∧
      (Json.string "true").hasWire .boolean = false ∧
      apply [] "boolean,eq=1" .number number =
        ({ flag with enum := some [.number (.int 1)] }, []) ∧
      (Json.number (.int 1)).hasWire .boolean = false := by
  exact ⟨rfl, rfl, rfl, rfl⟩

/-! ## Written lists -/

/-- A value as it is written in a list: in quotes, or bare if it is not empty and has no blanks. -/
inductive Notated : List Char → List Char → Prop
  | quoted (value : List Char) : Notated value ('\'' :: (value ++ ['\'']))
  | bare {value : List Char} (hne : value ≠ []) (hblank : ∀ c ∈ value, isBlank c = false) :
      Notated value value

/-- A list of values as it is written, with blanks between the values. -/
inductive Listed : List (List Char) → List Char → Prop
  | single {value text : List Char} (h : Notated value text) : Listed [value] text
  | cons {value text rest : List Char} {values : List (List Char)} (h : Notated value text)
      (gap : List Char) (hne : gap ≠ []) (hgap : ∀ c ∈ gap, isBlank c = true)
      (hrest : Listed values rest) : Listed (value :: values) (text ++ (gap ++ rest))

namespace Notated

variable {value text : List Char}

theorem ne_nil (h : Notated value text) : text ≠ [] := by
  cases h with
  | quoted => simp
  | bare hne => exact hne

theorem trimmed (h : Notated value text) : Trimmed text := by
  cases h with
  | quoted =>
    have hquote : Trimmed ['\''] := by decide
    exact hquote.append hquote (by simp) (by simp) value
  | bare _ hblank => exact trimmed_of_forall hblank

theorem eq_or_mem (h : Notated value text) {c : Char} (hc : c ∈ text) : c = '\'' ∨ c ∈ value := by
  cases h with
  | quoted =>
    rw [List.mem_cons, List.mem_append, List.mem_singleton] at hc
    exact or_iff_not_imp_left.2 fun hother ↦ (hc.resolve_left hother).resolve_right hother
  | bare => exact .inr hc

/-- One round reads what is written, whatever follows after a blank. -/
theorem listedStep_append (h : Notated value text) (hquote : '\'' ∉ value) {rest : List Char}
    (hrest : ∀ c ∈ rest.head?, isBlank c = true) :
    listedStep (text ++ rest) = (value, trimStart rest) := by
  cases h with
  | quoted =>
    have hvalue : ∀ c ∈ value, (c != '\'') = true :=
      fun c hc ↦ bne_iff_ne.2 (ne_of_mem_of_not_mem hc hquote)
    rw [List.cons_append, List.append_assoc, listedStep, if_pos rfl,
      List.takeWhile_append_of_pos hvalue, List.dropWhile_append_of_pos hvalue]
    simp
  | bare hne hblank =>
    have hvalue : ∀ c ∈ value, (!isBlank c) = true := by
      intro c hc
      simpa using hblank c hc
    obtain ⟨c, later, rfl⟩ := List.exists_cons_of_ne_nil hne
    have hc : c ≠ '\'' := fun heq ↦ hquote (heq ▸ List.mem_cons_self)
    rw [List.cons_append, listedStep, if_neg hc, ← List.cons_append,
      List.takeWhile_append_of_pos hvalue, List.dropWhile_append_of_pos hvalue]
    cases rest with
    | nil => simp
    | cons gap rest => simp [hrest gap rfl]

theorem listedFrom_append (h : Notated value text) (hquote : '\'' ∉ value) {rest : List Char}
    (hrest : ∀ c ∈ rest.head?, isBlank c = true) :
    listedFrom (text ++ rest) = value :: listedFrom (trimStart rest) := by
  rw [listedFrom_of_ne_nil (by simp [h.ne_nil]), leftOver, h.listedStep_append hquote hrest]

end Notated

namespace Listed

variable {values : List (List Char)} {text : List Char}

theorem ne_nil (h : Listed values text) : text ≠ [] := by
  cases h with
  | single h => exact h.ne_nil
  | cons h => simp [h.ne_nil]

theorem trimmed (h : Listed values text) : Trimmed text := by
  induction h with
  | single h => exact h.trimmed
  | cons h _ _ _ hrest ih => exact h.trimmed.append ih h.ne_nil hrest.ne_nil _

/-- Apart from the values a list has quotes and blanks only. -/
theorem eq_or_mem (h : Listed values text) {c : Char} (hc : c ∈ text) :
    c = '\'' ∨ isBlank c = true ∨ ∃ value ∈ values, c ∈ value := by
  induction h with
  | @single value text h => exact (h.eq_or_mem hc).imp_right fun hmem ↦ .inr ⟨value, by simp, hmem⟩
  | @cons value text rest values h gap hne hgap hrest ih =>
    simp only [List.mem_append] at hc
    rcases hc with htext | hblank | hlater
    · exact (h.eq_or_mem htext).imp_right fun hmem ↦ .inr ⟨value, by simp, hmem⟩
    · exact .inr (.inl (hgap c hblank))
    · refine (ih hlater).imp_right (Or.imp_right ?_)
      rintro ⟨v, hv, hmem⟩
      exact ⟨v, List.mem_cons_of_mem _ hv, hmem⟩

/-- Reading a written list gives the values back. -/
theorem listedFrom_eq (h : Listed values text) (hquote : ∀ value ∈ values, '\'' ∉ value) :
    listedFrom text = values := by
  induction h with
  | @single value text h =>
    have hread := h.listedFrom_append (hquote value (by simp)) (by simp : ∀ c ∈ [].head?, _)
    rw [List.append_nil] at hread
    rw [hread, trimStart, List.dropWhile_nil, listedFrom]
  | @cons value text rest values h gap hne hgap hrest ih =>
    have hhead : ∀ c ∈ (gap ++ rest).head?, isBlank c = true := by
      intro c hc
      rw [List.head?_append_of_ne_nil gap hne] at hc
      exact hgap c (List.mem_of_mem_head? hc)
    -- The next round starts behind the gap, since the rest of a list starts with no blank.
    have hnext : trimStart (gap ++ rest) = rest := by
      have hstart := hrest.trimmed.trimStart_append hrest.ne_nil []
      rw [List.append_nil] at hstart
      rw [trimStart, List.dropWhile_append_of_pos hgap]
      exact hstart
    rw [h.listedFrom_append (hquote value (by simp)) hhead, hnext,
      ih fun v hv ↦ hquote v (List.mem_cons_of_mem _ hv)]

end Listed

/-- On a string field, values that are given as a list are allowed as they are. -/
theorem allowedValues_string (texts : List String) :
    allowedValues .string texts = .ok (texts.map .string) := by
  induction texts with
  | nil => rfl
  | cons text rest ih => simp [allowedValues, allowedValue, WireType.isNumeric, ih, Except.map]

/-- A written list has no characters that mean something to the directive around it. -/
theorem Listed.plain {values : List (List Char)} {text : List Char} (h : Listed values text)
    (hplain : ∀ v ∈ values, ∀ c ∈ v, c ∉ ['\'', ',', '|', '(', ')']) {c : Char} (hc : c ∈ text) :
    c ∉ [',', '|', '(', ')'] := by
  rcases h.eq_or_mem hc with rfl | hblank | ⟨v, hv, hmem⟩
  · decide
  · have hall : ∀ d ∈ [',', '|', '(', ')'], isBlank d = false :=
      List.all_iff_forall_prop.1 (by decide)
    intro hmem
    simp [hall c hmem] at hblank
  · exact fun hother ↦ hplain v hv c hmem (List.mem_cons_of_mem _ hother)

theorem regular_oneof {text : String} (htrimmed : Trimmed text.toList)
    (hplain : ∀ c ∈ text.toList, c ∉ [',', '|', '(', ')']) :
    Token.Regular ⟨"oneof", some text⟩ where
  name_ne := (by decide : "oneof" ≠ "")
  name_trimmed := (by decide : Trimmed "oneof".toList)
  name_plain :=
    List.all_iff_forall_prop.1
      (by decide : ("oneof".toList.all fun c ↦ c ∉ ['=', ',', '|', '(', ')']) = true)
  value_trimmed value hvalue := Option.some.inj hvalue ▸ htrimmed
  value_whole value hvalue sep hsep := by
    obtain rfl := Option.some.inj hvalue
    apply whole_of_forall
    intro c hc
    have hc := hplain c hc
    refine ⟨parenChange_eq_zero ?_ ?_, ?_⟩
    · rintro rfl
      exact hc (by decide)
    · rintro rfl
      exact hc (by decide)
    · rintro rfl
      exact hc (List.mem_append_left ['(', ')'] hsep)

/-- A list is the whole of a directive with one token. -/
theorem apply_oneof {text : String} (hne : text ≠ "") (htrimmed : Trimmed text.toList)
    (hplain : ∀ c ∈ text.toList, c ∉ [',', '|', '(', ')']) (s : Schema) :
    apply custom ("oneof=" ++ text) .string s =
      ({ s with enum := some ((listedValues text).map .string) }, []) := by
  have hwritten : Token.text ⟨"oneof", some text⟩ = ("oneof=" ++ text).toList := by
    simp [Token.text]
  have htokens : tokens ("oneof=" ++ text).toList = [⟨"oneof", some text⟩] :=
    tokens_of_spaced (by simpa using regular_oneof htrimmed hplain)
      (by simpa only [List.map_cons, List.map_nil, hwritten] using Spaced.single _)
  have hgroups : groups ("oneof=" ++ text).toList = [trim ("oneof=" ++ text).toList] := by
    apply groups_of_tokens
    rw [htokens, List.forall_mem_singleton]
    have hbar : '|' ∉ "oneof=".toList := by decide
    rw [hwritten, String.toList_append, List.mem_append, not_or]
    exact ⟨hbar, fun hmem ↦ hplain '|' hmem (by decide)⟩
  have hmeaning : meaning custom .string ⟨"oneof", some text⟩ =
      .ok (.values ((listedValues text).map .string)) := by
    have hname : "oneof" ∈ valueTokens := by decide
    rw [meaning_of_valueToken hname rfl (by simpa using hne)]
    simp [valued, allowedValues_string, Except.map]
  rw [apply_of_group custom (by rw [hgroups, List.length_singleton]; decide), htokens,
    applyTokens_of_ok (by decide : "oneof" ≠ "dive") hmeaning]
  rfl

/-- Every list of values can be written for `oneof` and is read back: whichever of its values are in
quotes and however many blanks are between them, a string field gets just these values, in order and
with no issue. Reading comes to an end on every text, with open quotes too: the text is used up
after no more rounds than it has characters, and the values are those of the rounds. -/
theorem oneof_recovers_values (custom : List (String × String)) :
    (∀ (values : List String) (text : String),
      (∀ v ∈ values, ∀ c ∈ v.toList, c ∉ ['\'', ',', '|', '(', ')']) →
      Listed (values.map String.toList) text.toList →
        ∀ s : Schema, apply custom ("oneof=" ++ text) .string s =
          ({ s with enum := some (values.map .string) }, [])) ∧
    ∀ text : String, ∃ rounds ≤ text.toList.length,
      let after := fun k ↦ leftOver^[k] (trim text.toList)
      after rounds = [] ∧ (∀ k < rounds, after k ≠ []) ∧
        listedValues text = (List.range rounds).map fun k ↦ .ofList (listedStep (after k)).1 := by
  constructor
  · intro values text hplain htext s
    have hvalues : ∀ v ∈ values.map String.toList, ∀ c ∈ v, c ∉ ['\'', ',', '|', '(', ')'] :=
      List.forall_mem_map.2 hplain
    have hread : listedValues text = values := by
      have hquote : ∀ v ∈ values.map String.toList, '\'' ∉ v :=
        fun v hv hmem ↦ hvalues v hv _ hmem List.mem_cons_self
      rw [listedValues, htext.trimmed.trim_eq, htext.listedFrom_eq hquote]
      simp
    have hne : text ≠ "" := by simpa using htext.ne_nil
    rw [apply_oneof hne htext.trimmed (fun c ↦ htext.plain hvalues), hread]
  · intro text
    obtain ⟨rounds, hbound, hend, hearlier, hvalues⟩ := exists_rounds (trim text.toList)
    refine ⟨rounds, hbound.trans (length_trim_le _), hend, hearlier, ?_⟩
    rw [listedValues, hvalues, List.map_map]
    rfl

/-- Colours, one of them the empty one and one with an equals sign. -/
def colours : List String :=
  ["", "light blue", "a=b", "42"]

/-- The colours with quotes where they need them and where they do not. -/
def colourList : String :=
  "'' 'light blue' \ta=b '42'"

theorem listed_colourList : Listed (colours.map String.toList) colourList.toList := by
  have hspace : ∀ c ∈ [' '], isBlank c = true := List.forall_mem_singleton.2 rfl
  have htab : ∀ c ∈ [' ', '\t'], isBlank c = true := List.all_iff_forall_prop.1 (by decide)
  have hword : ∀ c ∈ ['a', '=', 'b'], isBlank c = false := List.all_iff_forall_prop.1 (by decide)
  exact .cons (.quoted []) [' '] (by simp) hspace
    (.cons (.quoted "light blue".toList) [' ', '\t'] (by simp) htab
      (.cons (.bare (by simp) hword) [' '] (by simp) hspace (.single (.quoted ['4', '2']))))

theorem oneof_recovers_colours :
    (∀ v ∈ colours, ∀ c ∈ v.toList, c ∉ ['\'', ',', '|', '(', ')']) ∧
      Listed (colours.map String.toList) colourList.toList ∧
      apply [] ("oneof=" ++ colourList) .string .empty =
        ({ Schema.empty with enum := some (colours.map .string) }, []) := by
  have hplain : ∀ v ∈ colours, ∀ c ∈ v.toList, c ∉ ['\'', ',', '|', '(', ')'] := by
    have hall : ∀ v ∈ colours,
        (v.toList.all fun c ↦ c ∉ ['\'', ',', '|', '(', ')']) = true := by decide
    exact fun v hv ↦ List.all_iff_forall_prop.1 (hall v hv)
  exact ⟨hplain, listed_colourList,
    (oneof_recovers_values []).1 colours colourList hplain listed_colourList .empty⟩

end Directive

end ApiAtlas

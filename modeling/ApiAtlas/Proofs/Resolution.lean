import ApiAtlas.Proofs.Discriminator
import ApiAtlas.Proofs.Splitting
import ApiAtlas.Proofs.WireShape

/-!
# What a discriminator depends on

Resolving a union looks at its alternatives and at nothing that an earlier resolution has left in
it. What an alternative names, which value a record has and which line of documentation names a
value are said here by rules, one per source of a value, and the functions that look for them are
shown to follow the rules. The mapping is then told from the alternatives alone: each value leads to
the last of those that have it.
-/

namespace ApiAtlas

open Text

/-! ## What an alternative names -/

namespace TypeExpr

/-- An expression is another one with any number of wrappers around it. -/
inductive Wraps : TypeExpr → TypeExpr → Prop
  | bare (t : TypeExpr) : Wraps t t
  | layer {base : String} {t inner : TypeExpr} (hbase : base ∈ wrappers) (h : Wraps t inner) :
      Wraps (.generic base [t]) inner

/-- An expression names a type, directly or in one optional slot, whatever wraps the two. -/
inductive Names : TypeExpr → String → Prop
  | direct {t : TypeExpr} {name : String} (h : Wraps t (.named name)) : Names t name
  | slot {t inner : TypeExpr} {name : String} (h : Wraps t (.optional inner))
      (hinner : Wraps inner (.named name)) : Names t name

theorem wraps_unwrapped (t : TypeExpr) : Wraps t t.unwrapped := by
  fun_induction unwrapped t with
  | case1 base a hbase ih => exact .layer (List.contains_iff_mem.1 hbase) ih
  | case2 base a => exact .bare _
  | case3 t => exact .bare t

theorem Wraps.unwrapped_eq {t inner : TypeExpr} (h : Wraps t inner) :
    t.unwrapped = inner.unwrapped := by
  induction h with
  | bare => rfl
  | layer hbase _ ih => rw [unwrapped, if_pos (List.contains_iff_mem.2 hbase), ih]

theorem wraps_named_iff {t : TypeExpr} {name : String} :
    Wraps t (.named name) ↔ t.unwrapped = .named name :=
  ⟨fun h ↦ h.unwrapped_eq, fun h ↦ h ▸ wraps_unwrapped t⟩

theorem wraps_optional_iff {t inner : TypeExpr} :
    Wraps t (.optional inner) ↔ t.unwrapped = .optional inner :=
  ⟨fun h ↦ h.unwrapped_eq, fun h ↦ h ▸ wraps_unwrapped t⟩

theorem name?_eq_some_iff {t : TypeExpr} {name : String} :
    t.name? = some name ↔ Wraps t (.named name) := by
  rw [wraps_named_iff, name?]
  split
  · next heq => simp [heq]
  · next hother => exact iff_of_false (by simp) (hother name)

end TypeExpr

namespace Union

open TypeExpr

variable {c : Catalog} {config : Config} {u : Union}

theorem alternativeName?_eq_some_iff {t : TypeExpr} {name : String} :
    alternativeName? t = some name ↔ Names t name := by
  rw [alternativeName?, name?_eq_some_iff, wraps_named_iff, unwrapped_payload, payload]
  split
  · next inner heq =>
    constructor
    · exact fun h ↦ .slot (wraps_optional_iff.2 heq) (wraps_named_iff.2 h)
    · intro h
      cases h with
      | direct h => simp [wraps_named_iff.1 h] at heq
      | slot h hinner =>
        rw [wraps_optional_iff.1 h] at heq
        exact optional.inj heq ▸ wraps_named_iff.1 hinner
  · next hother =>
    constructor
    · exact fun h ↦ .direct (wraps_named_iff.2 h)
    · intro h
      cases h with
      | direct h => exact wraps_named_iff.1 h
      | slot h => exact absurd (wraps_optional_iff.1 h) (hother _)

/-- An alternative names a record of the catalog. -/
structure NamesRecord (c : Catalog) (t : TypeExpr) (d : Definition) : Prop where
  names : Names t d.name
  known : c.type? d.name = some d
  isRecord : d.isRecord = true

theorem NamesRecord.record?_eq {t : TypeExpr} {d : Definition} (h : NamesRecord c t d) :
    c.record? d.name = some d :=
  Catalog.record?_eq_some.2 ⟨h.known, h.isRecord⟩

theorem record_eq_some_iff {t : TypeExpr} {d : Definition} :
    (alternativeName? t).bind c.record? = some d ↔ NamesRecord c t d := by
  rw [Option.bind_eq_some_iff]
  constructor
  · rintro ⟨name, hname, hrecord⟩
    obtain ⟨hknown, hkind⟩ := Catalog.record?_eq_some.1 hrecord
    obtain rfl := Catalog.name_of_type? hknown
    exact ⟨alternativeName?_eq_some_iff.1 hname, hknown, hkind⟩
  · intro h
    exact ⟨d.name, alternativeName?_eq_some_iff.2 h.names, h.record?_eq⟩

theorem NamesRecord.mem_members {a : TypeExpr} {d : Definition} (h : NamesRecord c a d)
    (ha : a ∈ u.alternatives) : d ∈ u.members c :=
  mem_members_iff.2 ⟨a, ha, alternativeName?_eq_some_iff.2 h.names, h.record?_eq⟩

/-! ## The value of a record -/

/-- A line of documentation names a value after a colon. The keyword counts in any case; blanks
around either part are left out, and so are quotes and full stops around the value. -/
inductive LineNames : List Char → String → Prop
  | intro {key word rest middle value : List Char} (hcolon : ':' ∉ key)
      (hword : Within isBlank word key)
      (hkeyword : lowerAscii (.ofList word) = "discriminator")
      (hmiddle : Within isBlank middle rest) (hvalue : Within isWrapping value middle)
      (hne : value ≠ []) : LineNames (key ++ ':' :: rest) (.ofList value)

/-- A documentation text names the value of the first line that names one. -/
def DocNames (doc value : String) : Prop :=
  ∃ before line after, splitOn '\n' doc.toList = before ++ line :: after ∧ LineNames line value ∧
    ∀ earlier ∈ before, ∀ other, ¬ LineNames earlier other

/-- The operation that is found under the name of the marker takes no arguments. -/
structure IsMarker (config : Config) (d : Definition) (operation : Operation) : Prop where
  found : d.operation? config.markerMethod = some operation
  bare : operation.argCount = 0

/-- The value that a record declares: its own one or, failing that, the literal of its marker. -/
inductive Declares (config : Config) (d : Definition) : String → Prop
  | own {value : String} (h : d.discriminatorValue = some value) : Declares config d value
  | literal {operation : Operation} {value : String} (hown : d.discriminatorValue = none)
      (hmarker : IsMarker config d operation) (h : operation.returned = some value) :
      Declares config d value

/-- The documentation of the marker names a value. -/
def MarkerDocNames (config : Config) (d : Definition) (value : String) : Prop :=
  ∃ operation doc, IsMarker config d operation ∧ operation.doc = some doc ∧ DocNames doc value

/-- The documentation of the type names a value. -/
def OwnDocNames (d : Definition) (value : String) : Prop :=
  ∃ doc, d.doc = some doc ∧ DocNames doc value

/-- The value of a record, from the first source that has one. -/
inductive HasValue (config : Config) (d : Definition) : String → Prop
  | declared {value : String} (h : Declares config d value) : HasValue config d value
  | markerDoc {value : String} (hdeclared : ∀ v, ¬ Declares config d v)
      (h : MarkerDocNames config d value) : HasValue config d value
  | ownDoc {value : String} (hdeclared : ∀ v, ¬ Declares config d v)
      (hmarker : ∀ v, ¬ MarkerDocNames config d v) (h : OwnDocNames d value) :
      HasValue config d value
  | name (hdeclared : ∀ v, ¬ Declares config d v) (hmarker : ∀ v, ¬ MarkerDocNames config d v)
      (hown : ∀ v, ¬ OwnDocNames d v) : HasValue config d (Naming.snake d.name)

/-- What is left of the text after the colon. -/
def stripped (rest : List Char) : List Char :=
  dropEndWhile isWrapping ((trim rest).dropWhile isWrapping)

theorem lineValue?_append {key : List Char} (hcolon : ':' ∉ key) (rest : List Char) :
    lineValue? (key ++ ':' :: rest) =
      if lowerAscii (.ofList (trim key)) = "discriminator" ∧ stripped rest ≠ [] then
        some (.ofList (stripped rest))
      else none := by
  have hkey : ∀ c ∈ key, (c != ':') = true :=
    fun c hc ↦ bne_iff_ne.2 (ne_of_mem_of_not_mem hc hcolon)
  have htake : (key ++ ':' :: rest).takeWhile (fun c ↦ c != ':') = key := by
    rw [List.takeWhile_append_of_pos hkey]
    simp
  have hdrop : ((key ++ ':' :: rest).dropWhile fun c ↦ c != ':').drop 1 = rest := by
    rw [List.dropWhile_append_of_pos hkey]
    simp
  rw [lineValue?, if_pos (by simp), htake, hdrop]
  exact if_congr (by simp [stripped]) rfl rfl

theorem lineValue?_eq_some_iff {line : List Char} {value : String} :
    lineValue? line = some value ↔ LineNames line value := by
  constructor
  · intro h
    by_cases hline : ':' ∈ line
    · obtain ⟨key, rest, rfl, hcolon⟩ := List.eq_append_cons_of_mem hline
      rw [lineValue?_append hcolon] at h
      split at h
      · next hnamed =>
        obtain rfl := Option.some.inj h
        exact .intro hcolon (within_iff.2 rfl) hnamed.1 (within_iff.2 rfl) (within_iff.2 rfl)
          hnamed.2
      · simp at h
    · simp [lineValue?, hline] at h
  · intro h
    obtain @⟨key, word, rest, middle, value, hcolon, hword, hkeyword, hmiddle, hvalue, hne⟩ := h
    have hkey : trim key = word := within_iff.1 hword
    have hmiddle : trim rest = middle := within_iff.1 hmiddle
    have hrest : stripped rest = value := by rw [stripped, hmiddle, within_iff.1 hvalue]
    rw [lineValue?_append hcolon, hkey, hrest, if_pos ⟨hkeyword, hne⟩]

theorem docValue?_eq_some_iff {doc value : String} :
    docValue? doc = some value ↔ DocNames doc value := by
  rw [docValue?, List.findSome?_eq_some_iff]
  simp only [DocNames, lineValue?_eq_some_iff, Option.eq_none_iff_forall_ne_some, ne_eq]

theorem marker?_eq_some_iff {d : Definition} {operation : Operation} :
    marker? config d = some operation ↔ IsMarker config d operation := by
  rw [marker?, Option.filter_eq_some_iff, beq_iff_eq]
  exact ⟨fun h ↦ ⟨h.1, h.2⟩, fun h ↦ ⟨h.found, h.bare⟩⟩

theorem declaredValue?_eq_some_iff {d : Definition} {value : String} :
    declaredValue? config d = some value ↔ Declares config d value := by
  rw [declaredValue?]
  cases hown : d.discriminatorValue with
  | some own =>
    rw [Option.some_or]
    constructor
    · exact fun h ↦ .own (hown.trans h)
    · intro h
      cases h with
      | own h => exact hown.symm.trans h
      | literal hnone => simp [hown] at hnone
  | none =>
    rw [Option.none_or, Option.bind_eq_some_iff]
    constructor
    · rintro ⟨operation, hmarker, h⟩
      exact .literal hown (marker?_eq_some_iff.1 hmarker) h
    · intro h
      cases h with
      | own h => simp [hown] at h
      | literal _ hmarker h => exact ⟨_, marker?_eq_some_iff.2 hmarker, h⟩

/-- The value that the documentation of the marker names. -/
def markerDocValue? (config : Config) (d : Definition) : Option String :=
  ((marker? config d).bind Operation.doc).bind docValue?

/-- The value that the documentation of the type names. -/
def ownDocValue? (d : Definition) : Option String :=
  d.doc.bind docValue?

theorem markerDocValue?_eq_some_iff {d : Definition} {value : String} :
    markerDocValue? config d = some value ↔ MarkerDocNames config d value := by
  simp only [markerDocValue?, Option.bind_eq_some_iff, marker?_eq_some_iff, docValue?_eq_some_iff,
    MarkerDocNames]
  grind

theorem ownDocValue?_eq_some_iff {d : Definition} {value : String} :
    ownDocValue? d = some value ↔ OwnDocNames d value := by
  simp only [ownDocValue?, Option.bind_eq_some_iff, docValue?_eq_some_iff, OwnDocNames]

theorem valueOf_eq (config : Config) (d : Definition) :
    valueOf config d =
      ((declaredValue? config d).or ((markerDocValue? config d).or (ownDocValue? d))).getD
        (Naming.snake d.name) := by
  have hlist (doc : Option String) : doc.toList.findSome? docValue? = doc.bind docValue? := by
    cases doc <;> simp
  rw [valueOf, documentedValue?, List.findSome?_append, hlist, hlist]
  rfl

theorem declaredValue?_eq_none_iff {d : Definition} :
    declaredValue? config d = none ↔ ∀ value, ¬ Declares config d value := by
  simp only [Option.eq_none_iff_forall_ne_some, ne_eq, declaredValue?_eq_some_iff]

theorem markerDocValue?_eq_none_iff {d : Definition} :
    markerDocValue? config d = none ↔ ∀ value, ¬ MarkerDocNames config d value := by
  simp only [Option.eq_none_iff_forall_ne_some, ne_eq, markerDocValue?_eq_some_iff]

theorem ownDocValue?_eq_none_iff {d : Definition} :
    ownDocValue? d = none ↔ ∀ value, ¬ OwnDocNames d value := by
  simp only [Option.eq_none_iff_forall_ne_some, ne_eq, ownDocValue?_eq_some_iff]

theorem hasValue_valueOf (config : Config) (d : Definition) :
    HasValue config d (valueOf config d) := by
  rw [valueOf_eq]
  cases hdeclared : declaredValue? config d with
  | some value => exact .declared (declaredValue?_eq_some_iff.1 hdeclared)
  | none =>
    have hdeclared := declaredValue?_eq_none_iff.1 hdeclared
    cases hmarker : markerDocValue? config d with
    | some value => exact .markerDoc hdeclared (markerDocValue?_eq_some_iff.1 hmarker)
    | none =>
      have hmarker := markerDocValue?_eq_none_iff.1 hmarker
      cases hown : ownDocValue? d with
      | some value => exact .ownDoc hdeclared hmarker (ownDocValue?_eq_some_iff.1 hown)
      | none => exact .name hdeclared hmarker (ownDocValue?_eq_none_iff.1 hown)

theorem HasValue.valueOf_eq {d : Definition} {value : String} (h : HasValue config d value) :
    valueOf config d = value := by
  rw [Union.valueOf_eq]
  cases h with
  | declared h => simp [declaredValue?_eq_some_iff.2 h]
  | markerDoc hdeclared h =>
    simp [declaredValue?_eq_none_iff.2 hdeclared, markerDocValue?_eq_some_iff.2 h]
  | ownDoc hdeclared hmarker h =>
    simp [declaredValue?_eq_none_iff.2 hdeclared, markerDocValue?_eq_none_iff.2 hmarker,
      ownDocValue?_eq_some_iff.2 h]
  | name hdeclared hmarker hown =>
    simp [declaredValue?_eq_none_iff.2 hdeclared, markerDocValue?_eq_none_iff.2 hmarker,
      ownDocValue?_eq_none_iff.2 hown]

/-- The value of a record is the one that the sources give it in their order. -/
theorem valueOf_eq_iff {d : Definition} {value : String} :
    valueOf config d = value ↔ HasValue config d value :=
  ⟨fun h ↦ h ▸ hasValue_valueOf config d, HasValue.valueOf_eq⟩

/-- A record that declares a value or has the marker. -/
def IsMarked (config : Config) (d : Definition) : Prop :=
  (∃ value, d.discriminatorValue = some value) ∨ ∃ operation, IsMarker config d operation

theorem isMarked_iff {d : Definition} : isMarked config d = true ↔ IsMarked config d := by
  simp only [isMarked, Bool.or_eq_true, Option.isSome_iff_exists, marker?_eq_some_iff, IsMarked]

/-! ## The mapping -/

/-- A mapping sends each value that some alternative has to the component of the last alternative
that has it, and no other value anywhere. -/
structure SendsToLast (c : Catalog) (has : Definition → String → Prop)
    (alternatives : List TypeExpr) (mapping : List (String × String)) : Prop where
  sorted : Keyed.Sorted mapping
  sends_iff : ∀ value target, Keyed.get? value mapping = some target ↔
    ∃ before a after d, alternatives = before ++ a :: after ∧ NamesRecord c a d ∧ has d value ∧
      target = Schema.componentRef d.name ∧
      ∀ b ∈ after, ∀ e, NamesRecord c b e → ¬ has e value

/-- The entries of the records among the alternatives make up such a mapping. -/
theorem sendsToLast_members {has : Definition → String → Prop}
    {pair? : Definition → Option (String × String)}
    (hpair : ∀ d value target,
      pair? d = some (value, target) ↔ has d value ∧ target = Schema.componentRef d.name) :
    SendsToLast c has u.alternatives (Keyed.ofList ((u.members c).filterMap pair?)) := by
  have hnamed (t : TypeExpr) (value target : String) :
      ((alternativeName? t).bind c.record?).bind pair? = some (value, target) ↔
        ∃ d, NamesRecord c t d ∧ has d value ∧ target = Schema.componentRef d.name := by
    rw [Option.bind_eq_some_iff]
    simp only [record_eq_some_iff, hpair]
  have hentries : (u.members c).filterMap pair? =
      u.alternatives.filterMap fun t ↦ ((alternativeName? t).bind c.record?).bind pair? := by
    rw [members, records, List.filterMap_filterMap, List.filterMap_map]
    rfl
  -- The table is made from the alternatives in one go, so that the last entry of a key belongs to
  -- the last alternative with that value.
  refine ⟨Keyed.sorted_ofList _, fun value target ↦ ?_⟩
  rw [hentries, Keyed.get?_ofList_filterMap]
  constructor
  · rintro ⟨before, a, after, halternatives, ha, hlater⟩
    obtain ⟨d, hd, hvalue, htarget⟩ := (hnamed a value target).1 ha
    refine ⟨before, a, after, d, halternatives, hd, hvalue, htarget, fun b hb e he hsame ↦ ?_⟩
    exact hlater b hb _ ((hnamed b value _).2 ⟨e, he, hsame, rfl⟩)
  · rintro ⟨before, a, after, d, halternatives, hd, hvalue, htarget, hlater⟩
    refine ⟨before, a, after, halternatives, (hnamed a value target).2 ⟨d, hd, hvalue, htarget⟩, ?_⟩
    intro b hb other hother
    obtain ⟨e, he, hsame, -⟩ := (hnamed b value other).1 hother
    exact hlater b hb e he hsame

theorem declaredPair?_eq_some_iff (d : Definition) (value target : String) :
    declaredPair? config d = some (value, target) ↔
      Declares config d value ∧ target = Schema.componentRef d.name := by
  rw [declaredPair?, Option.map_eq_some_iff, ← declaredValue?_eq_some_iff]
  constructor
  · rintro ⟨_, hvalue, hpair⟩
    obtain ⟨rfl, rfl⟩ := Prod.mk.inj hpair
    exact ⟨hvalue, rfl⟩
  · rintro ⟨hvalue, rfl⟩
    exact ⟨value, hvalue, rfl⟩

theorem entryOf_eq_some_iff (d : Definition) (value target : String) :
    some (entryOf config d) = some (value, target) ↔
      HasValue config d value ∧ target = Schema.componentRef d.name := by
  rw [Option.some_inj, entryOf, Prod.mk.injEq, valueOf_eq_iff, eq_comm (b := target)]

/-! ## Resolution -/

theorem override?_eq_some_iff {property : Option String} {name : String} :
    override? property = some name ↔ property = some name ∧ name ≠ "" := by
  rw [override?, Option.filter_eq_some_iff]
  simp

theorem allMarked_iff :
    u.allMarked c config = true ↔
      ∀ a ∈ u.alternatives, ∃ d, NamesRecord c a d ∧ IsMarked config d := by
  simp only [allMarked, records, List.all_map, List.all_eq_true, Function.comp_apply,
    ← record_eq_some_iff, ← isMarked_iff]
  refine forall₂_congr fun a _ ↦ ?_
  cases (alternativeName? a).bind c.record? <;> simp

/-- What resolving a union gives, by the override, the catalog and the alternatives. -/
structure Resolves (c : Catalog) (config : Config) (property : Option String)
    (u found : Union) : Prop where
  arity : found.arity = u.arity
  alternatives : found.alternatives = u.alternatives
  explicit_iff : found.isExplicit = true ↔ ∃ name, property = some name ∧ name ≠ ""
  /-- The override is the property, and the values that records declare are mapped. -/
  asked : ∀ name, property = some name → name ≠ "" →
    ∃ mapping, found.discriminator = some ⟨name, mapping⟩ ∧
      SendsToLast c (Declares config) u.alternatives mapping
  found_iff : found.isExplicit = false →
    (found.discriminator ≠ none ↔
      ∀ a ∈ u.alternatives, ∃ d, NamesRecord c a d ∧ IsMarked config d)
  /-- The property is the usual one, and all alternatives have their values mapped. -/
  usual : found.isExplicit = false → ∀ discriminator, found.discriminator = some discriminator →
    discriminator.propertyName = config.discriminatorProperty ∧
      SendsToLast c (HasValue config) u.alternatives discriminator.mapping ∧
      ∀ a ∈ u.alternatives, ∃ d value, NamesRecord c a d ∧ HasValue config d value ∧
        value ∈ Keyed.keys discriminator.mapping

theorem resolve_of_alternatives {other : Union} (h : other.alternatives = u.alternatives)
    (property : Option String) :
    other.resolve c config property =
      { u.resolve c config property with arity := other.arity } := by
  have hrecords : other.records c = u.records c := by rw [records, records, h]
  have hmarked : other.allMarked c config = u.allMarked c config := by
    rw [allMarked, allMarked, hrecords]
  unfold resolve
  rw [hrecords, hmarked]
  split
  · simp [h]
  · split <;> simp [h]

theorem arity_resolve (c : Catalog) (config : Config) (property : Option String) (u : Union) :
    (u.resolve c config property).arity = u.arity := by
  unfold resolve
  split
  · rfl
  · split <;> rfl

theorem resolves_resolve (c : Catalog) (config : Config) (property : Option String) (u : Union) :
    Resolves c config property u (u.resolve c config property) where
  arity := arity_resolve c config property u
  alternatives := Env.alternatives_resolve c config property u
  explicit_iff := by
    simp only [← override?_eq_some_iff]
    unfold resolve
    cases override? property with
    | some name => simp
    | none => cases u.allMarked c config <;> simp
  asked name hproperty hne := by
    have hoverride := override?_eq_some_iff.2 ⟨hproperty, hne⟩
    refine ⟨_, ?_, sendsToLast_members declaredPair?_eq_some_iff⟩
    rw [resolve, hoverride]
    rfl
  found_iff hexplicit := by
    rw [← allMarked_iff]
    unfold resolve at hexplicit ⊢
    cases hoverride : override? property with
    | some name => simp [hoverride] at hexplicit
    | none => cases u.allMarked c config <;> simp
  usual hexplicit discriminator hdiscriminator := by
    obtain ⟨hmarked, hmapping⟩ := resolve_of_marker (by simp [hdiscriminator]) hexplicit
    obtain rfl := Option.some.inj (hdiscriminator.symm.trans hmapping)
    refine ⟨rfl, ?_, fun a ha ↦ ?_⟩
    · have hsends : SendsToLast c (HasValue config) u.alternatives
          (Keyed.ofList ((u.members c).filterMap fun d ↦ some (entryOf config d))) :=
        sendsToLast_members entryOf_eq_some_iff
      rwa [List.filterMap_eq_map'] at hsends
    · obtain ⟨d, hd, -⟩ := allMarked_iff.1 hmarked a ha
      refine ⟨d, valueOf config d, hd, hasValue_valueOf config d, ?_⟩
      rw [valueMapping, Keyed.mem_keys_ofList]
      exact List.mem_map.2 ⟨entryOf config d, List.mem_map_of_mem (hd.mem_members ha), rfl⟩

/-- Discriminator resolution is a function of the alternatives alone. Resolving once more forgets
the first resolution, an empty override counts as none, and unions with the same alternatives get
the same discriminator. The result is explicit just if there is an override, which then is the
property. Otherwise there is a discriminator just if all alternatives name records that declare a
value or have the marker, and its property is the configured one. The mapping sends a value to the
last alternative that has it: with an override a record has the value that it declares if any, and
without one the value of the first source that gives one. -/
theorem resolution_depends_on_alternatives (c : Catalog) (config : Config) (u : Union)
    (p q : Option String) :
    (u.resolve c config p).resolve c config q = u.resolve c config q ∧
      u.resolve c config (some "") = u.resolve c config none ∧
      (∀ other : Union, other.alternatives = u.alternatives →
        (other.resolve c config q).discriminator = (u.resolve c config q).discriminator ∧
          (other.resolve c config q).isExplicit = (u.resolve c config q).isExplicit) ∧
      Resolves c config q u (u.resolve c config q) := by
  refine ⟨?_, rfl, fun other h ↦ ?_, resolves_resolve c config q u⟩
  · calc
      _ = { u.resolve c config q with arity := (u.resolve c config p).arity } :=
        resolve_of_alternatives (Env.alternatives_resolve c config p u) q
      _ = { u.resolve c config q with arity := (u.resolve c config q).arity } := by
        rw [arity_resolve, arity_resolve]
      _ = u.resolve c config q := rfl
  · rw [resolve_of_alternatives h]
    exact ⟨rfl, rfl⟩

/-- An earlier override leaves nothing behind, and of two records with one value the last counts. -/
theorem resolution_of_wallet :
    let stale := Env.wallet.resolve Env.wallets.catalog Env.wallets.config (some "kind")
    let found := stale.resolve Env.wallets.catalog Env.wallets.config none
    stale.isExplicit = true ∧
      stale.discriminator = some ⟨"kind", [("card", Schema.componentRef "Voucher")]⟩ ∧
      found.isExplicit = false ∧
      found.discriminator = some ⟨"type", [("card", Schema.componentRef "Voucher")]⟩ := by
  intro stale found
  have hfound : found = Env.wallet.resolve Env.wallets.catalog Env.wallets.config none :=
    (resolution_depends_on_alternatives _ _ Env.wallet (some "kind") none).1
  rw [hfound]
  exact ⟨rfl, by decide, rfl, by decide⟩

end Union

end ApiAtlas

import ApiAtlas.Proofs.Preservation
import ApiAtlas.Proofs.WireShape

/-!
# Directives on elements

After `dive` a directive constrains the elements of a sequence. A field that holds one element can
carry the same directive itself. The schemas agree for all directives exactly if the shape that the
field is read by is the one of its schema as it stands: after `dive` a reference counts as an
object, whatever it refers to, while the search of the field sees through aliases.
-/

namespace ApiAtlas

open Directive

/-! ## The text of a directive -/

namespace Directive

open Text

theorem groups_dive (directive : List Char) :
    (groups ("dive,".toList ++ directive)).length = (groups directive).length := by
  have hwhole : Whole parenChange '|' "dive,".toList := by
    apply whole_of_forall
    simp [parenChange]
  unfold groups splitOutside trimmedPieces
  rw [hwhole.piecesFrom_append]
  simp

theorem tokens_dive (directive : List Char) :
    tokens ("dive,".toList ++ directive) = ⟨"dive", none⟩ :: tokens directive := by
  have hwhole : Whole parenChange ',' "dive".toList := by
    apply whole_of_forall
    simp [parenChange]
  have hpieces : piecesFrom parenChange ',' 0 ("dive".toList ++ ',' :: directive) =
      "dive".toList :: piecesFrom parenChange ',' 0 directive := by
    rw [hwhole.piecesFrom_append, piecesFrom_sep (by decide)]
    simp
  have htrim : trim "dive".toList = "dive".toList := by decide
  have hsplit : splitOutside ',' ("dive,".toList ++ directive) =
      "dive".toList :: splitOutside ',' directive := by
    calc
      _ = (piecesFrom parenChange ',' 0 ("dive".toList ++ ',' :: directive)).map trim := rfl
      _ = _ := by rw [hpieces, List.map_cons, htrim]; rfl
  unfold tokens
  rw [hsplit]
  rfl

theorem apply_dive (custom : List (String × String)) (wire : WireType) (s : Schema) :
    apply custom "dive" wire s = (withElement wire s (element wire s), []) := by
  have htokens : tokens "dive".toList = [⟨"dive", none⟩] := by decide
  rw [apply_of_group custom (by decide), htokens, applyTokens_dive rfl]
  rfl

/-- A schema that describes one kind of elements at most shows by `dive` whether it is read as an
object. -/
theorem withElement_object_ne {s : Schema} (hs : s.items = none ∨ s.additionalProperties = none)
    {wire : WireType} (hwire : wire ≠ .object) (inner inner' : Schema) :
    withElement .object s inner ≠ withElement wire s inner' := by
  intro heq
  have hitems := congrArg Schema.items heq
  have hvalues := congrArg Schema.additionalProperties heq
  rcases hs with hnone | hnone
  · simp [withElement, hwire, hnone] at hitems
  · simp [withElement, hwire, hnone] at hvalues

end Directive

/-! ## Fields without documentation -/

/-- The field with another type and directive and nothing else that its schema shows. -/
def Field.undocumented (f : Field) (t : TypeExpr) (directive : String) : Field :=
  { f with
    type := t
    directive := directive
    doc := none
    discriminator := none
    isDeprecated := false }

namespace Env

variable {env : Env}

theorem value_undocumented (env : Env) (f : Field) (t : TypeExpr) (directive : String) :
    let applied := apply env.config.customDirectives directive (env.wireType t)
      (env.schemaOf t).value
    (env.fieldSchema (f.undocumented t directive)).value =
      if applied.2.isEmpty then applied.1
      else applied.1.describe ("WARNING: " ++ issuesMessage applied.2) := by
  intro applied
  have hplain : (env.fieldSchema (f.undocumented t directive)).value =
      (env.finishField (f.undocumented t directive) (env.schemaOf t).value).value := by
    rw [fieldSchema_eq_bind]
    rfl
  have hkept : ∀ s : Schema, { s with deprecated := s.deprecated || false } = s := by
    intro s
    cases s
    simp
  have hnone : apply env.config.customDirectives "" (env.wireType t) (env.schemaOf t).value =
      ((env.schemaOf t).value, []) := by
    rw [apply_of_group _ (by decide)]
    rfl
  rw [hplain]
  simp only [finishField, Field.undocumented, Option.map_none, Option.getD_none, hkept]
  split
  · next hempty =>
    obtain rfl : directive = "" := by simpa using hempty
    simp [applied, hnone]
  · split <;> rfl

theorem wireType_sequence (env : Env) (t : TypeExpr) : env.wireType (.sequence t) = .array := by
  rw [wireType, wireTarget_eq]
  rfl

/-- The directive of a sequence constrains its elements by the shape of their schema. -/
theorem items_of_dive (env : Env) (f : Field) (t : TypeExpr) {directive : String}
    (h : (groups directive.toList).length = 1) :
    (env.fieldSchema (f.undocumented (.sequence t) ("dive," ++ directive))).value.items =
      some (apply env.config.customDirectives directive (.ofSchema (env.schemaOf t).value)
        (env.schemaOf t).value).1 := by
  have hgroup : ¬ 2 ≤ (groups ("dive," ++ directive).toList).length := by
    rw [String.toList_append, groups_dive, h]
    decide
  have hsequence : (env.schemaOf (.sequence t)).value = Schema.array (env.schemaOf t).value := by
    rw [schemaOf]
    rfl
  have hitems : ∀ (s : Schema) line, (s.describe line).items = s.items :=
    fun s line ↦ (sameElements_edit (.line line) s).items
  rw [value_undocumented, wireType_sequence, hsequence, apply_of_group _ hgroup,
    apply_of_group _ (by omega), String.toList_append, tokens_dive, applyTokens_dive rfl]
  split
  · rfl
  · rw [hitems]
    rfl

theorem items_or_additionalProperties_schemaOf (env : Env) (t : TypeExpr) :
    (env.schemaOf t).value.items = none ∨ (env.schemaOf t).value.additionalProperties = none := by
  refine schemaOf_induction (p := fun s ↦ s.items = none ∨ s.additionalProperties = none)
    ?primitive ?reference ?object ?nullable ?array ?map ?union env t
  case nullable => exact fun _ h ↦ h
  all_goals simp [primitiveSchema, Schema.reference, Schema.typed, Schema.array, unionSchema]

/-! ## Shapes of elements -/

theorem wireType_of_ref_eq_none {t : TypeExpr} (href : (env.schemaOf t).value.ref = none)
    (hreads : ¬ env.ReadsOn t) : env.wireType t = .ofType t.payload.1 := by
  rw [wireType, wireTarget_eq, searchStep?_of_end (not_unfolds_of_ref href) hreads]

/-- There are three ways in which the shape found for an expression and that of its schema may
differ, and each time one of the two is an object. -/
theorem wireType_cases (env : Env) (t : TypeExpr) :
    env.wireType t = .ofSchema (env.schemaOf t).value ∨
      ((env.schemaOf t).value.ref ≠ none ∨ env.ReadsOn t) ∧
        WireType.ofSchema (env.schemaOf t).value = .object ∨
      (∃ inner, t.payload.1.payload.1 = .optional inner) ∧ env.wireType t = .object := by
  by_cases href : (env.schemaOf t).value.ref = none
  · by_cases hreads : env.ReadsOn t
    · exact .inr (.inl ⟨.inr hreads, (outline_of_readsOn hreads).2⟩)
    · rw [wireType_of_ref_eq_none href hreads]
      by_cases hslot : ∃ inner, t.payload.1.payload.1 = .optional inner
      · obtain ⟨inner, hinner⟩ := hslot
        exact .inr (.inr ⟨⟨inner, hinner⟩, WireType.ofType_of_optional hinner⟩)
      · push Not at hslot
        rw [← (env.sameOutline_payload t).ofSchema_eq]
        exact .inl (ofSchema_schemaOf hslot fun hunion ↦ hreads (.inr hunion)).symm
  · exact .inr (.inl ⟨.inl href, ofSchema_of_ref href⟩)

/-- The shape found for an expression is that of its schema, unless one of the three ways leads to
an object on one side only. -/
theorem wireType_eq_ofSchema_iff (env : Env) (t : TypeExpr) :
    env.wireType t = .ofSchema (env.schemaOf t).value ↔
      ((env.schemaOf t).value.ref ≠ none ∨ env.ReadsOn t → env.wireType t = .object) ∧
        ((∃ inner, t.payload.1.payload.1 = .optional inner) →
          WireType.ofSchema (env.schemaOf t).value = .object) := by
  constructor
  · intro hsame
    refine ⟨?_, fun hslot ↦ ?_⟩
    · rintro (href | hreads)
      · rw [hsame, ofSchema_of_ref href]
      · rw [hsame, (outline_of_readsOn hreads).2]
    · by_cases href : (env.schemaOf t).value.ref = none
      · obtain ⟨inner, hinner⟩ := hslot
        have hshort : env.StopsShort t := .inl ⟨inner, hinner⟩
        rw [← hsame, wireType_of_ref_eq_none href (not_readsOn_of_stopsShort hshort),
          WireType.ofType_of_optional hinner]
      · exact ofSchema_of_ref href
  · rintro ⟨hfound, hslot⟩
    rcases env.wireType_cases t with hsame | ⟨hways, hobject⟩ | ⟨hinner, hobject⟩
    · exact hsame
    · rw [hfound hways, hobject]
    · rw [hobject, hslot hinner]

/-- For every directive of one group without issues on a field, a sequence constrains its elements
after `dive` as the field constrains its value, exactly if the type of the elements meets two
conditions. Where its schema is a reference, or where the search reads on, the shape found has to be
an object. Where it has three optional slots, the schema has to be one. -/
theorem dive_constrains_as_field_iff (env : Env) (t : TypeExpr) :
    (∀ (f : Field) (directive : String), (groups directive.toList).length = 1 →
      (apply env.config.customDirectives directive (env.wireType t) (env.schemaOf t).value).2 = [] →
      (env.fieldSchema (f.undocumented (.sequence t) ("dive," ++ directive))).value.items =
        some (env.fieldSchema (f.undocumented t directive)).value) ↔
    ((env.schemaOf t).value.ref ≠ none ∨ env.ReadsOn t → env.wireType t = .object) ∧
      ((∃ inner, t.payload.1.payload.1 = .optional inner) →
        WireType.ofSchema (env.schemaOf t).value = .object) := by
  rw [← wireType_eq_ofSchema_iff]
  constructor
  · intro hall
    by_contra hne
    -- A `dive` of its own tells objects from all other shapes.
    have hgroup : (groups "dive".toList).length = 1 := by decide
    have hdive := hall (.plain "" t) "dive" hgroup (by rw [apply_dive])
    rw [items_of_dive env _ t hgroup, value_undocumented, apply_dive, apply_dive] at hdive
    have heq := Option.some.inj hdive
    have hsingle := env.items_or_additionalProperties_schemaOf t
    rcases env.wireType_cases t with hsame | ⟨_, hobject⟩ | ⟨_, hobject⟩
    · exact hne hsame
    · rw [hobject] at heq hne
      exact withElement_object_ne hsingle hne _ _ heq
    · rw [hobject] at heq hne
      exact withElement_object_ne hsingle (Ne.symm hne) _ _ heq.symm
  · intro hsame f directive hgroup hissues
    rw [items_of_dive env f t hgroup, value_undocumented, ← hsame, if_pos (by simp [hissues])]

/-! ## Elements that agree with a field, and some that do not -/

theorem elements_of_optional_lists :
    let t := TypeExpr.generic "Box" [.optional (.sequence (.named "Email"))]
    let f := Field.plain "groups" t
    (groups "min=1,unique,dive,max=5".toList).length = 1 ∧
      (directory.fieldSchema (f.undocumented (.sequence t)
          ("dive," ++ "min=1,unique,dive,max=5"))).value.items =
        some (directory.fieldSchema (f.undocumented t "min=1,unique,dive,max=5")).value := by
  intro t f
  have hgroup : (groups "min=1,unique,dive,max=5".toList).length = 1 := by decide
  refine ⟨hgroup, (dive_constrains_as_field_iff directory t).2 ⟨?_, ?_⟩ f _ hgroup ?_⟩
  · rintro (href | ⟨_, hunit, _⟩ | ⟨hprimitive, _⟩)
    · exact absurd rfl href
    · exact nomatch hunit
    · exact absurd rfl hprimitive
  · rintro ⟨inner, hinner⟩
    exact nomatch hinner
  · rw [wireType, wireTarget_eq]
    rfl

/-- The bound of an alias of texts counts its characters in a field and its value after `dive`. -/
theorem alias_element_bounded_by_value :
    let t := TypeExpr.named "Email"
    let f := Field.plain "emails" t
    let field := (directory.fieldSchema (f.undocumented t "max=5")).value
    let sequence :=
      (directory.fieldSchema (f.undocumented (.sequence t) ("dive," ++ "max=5"))).value
    (groups "max=5".toList).length = 1 ∧
      (apply directory.config.customDirectives "max=5" (directory.wireType t)
        (directory.schemaOf t).value).2 = [] ∧
      field.maxLength = some 5 ∧ sequence.items.bind Schema.maxLength = none ∧
      sequence.items.bind Schema.maximum = some (.int 5) := by
  intro t f field sequence
  have hwire : directory.wireType t = .string := by
    have hstep : directory.searchStep? [] t = some (["Email"], .named "String") := rfl
    rw [wireType, wireTarget_eq, hstep]
    simp only
    rw [wireTarget_eq]
    rfl
  have hgroup : (groups "max=5".toList).length = 1 := by decide
  have hfield : field = (apply directory.config.customDirectives "max=5" .string
      (directory.schemaOf t).value).1 := by
    unfold field
    rw [value_undocumented, hwire]
    rfl
  unfold sequence
  rw [items_of_dive directory f t hgroup, hfield, hwire]
  exact ⟨hgroup, rfl, rfl, rfl, rfl⟩

end Env

end ApiAtlas

import ApiAtlas.Extraction
import Mathlib.Data.List.Forall2

/-!
# What extraction guarantees

The search comes to the nodes of a file in order and stays out of the items that declare something
themselves. Each definition starts as one of three forms: a record, a simple alias or a union. The
parts of a definition fit together (`Coherent`) when it is made, and what is added afterwards from
other items and other files keeps them so: methods touch nothing else, and a constant only adds a
value to a simple alias.
-/

namespace ApiAtlas

/-- How the parts of a definition fit together, for a given name of unions. -/
structure Definition.Coherent (unionPrefix : String) (d : Definition) : Prop where
  /-- A record aliases nothing and has no values. -/
  record : d.kind = .record → d.aliased = none ∧ d.union = none ∧ d.enumValues = []
  /-- An alias has a target and no fields. -/
  target : d.kind ≠ .record → d.aliased.isSome = true ∧ d.fields = [] ∧ d.embedded = []
  union_iff : d.union.isSome = true ↔ d.kind = .union
  union_eq : d.kind = .union → d.union = d.aliased.bind (Union.detect? unionPrefix)
  enumValues : d.enumValues ≠ [] → d.kind = .simple
  embedded_eq : d.embedded = (d.fields.filter Field.isEmbedded).map fun f ↦ f.type.payload.1

namespace Definition.Coherent

variable {unionPrefix : String} {d : Definition}

/-- Methods are no part of what has to fit together. -/
theorem withOperations (h : d.Coherent unionPrefix) (operations : List Operation) :
    Coherent unionPrefix { d with operations := operations } where
  record := h.record
  target := h.target
  union_iff := h.union_iff
  union_eq := h.union_eq
  enumValues := h.enumValues
  embedded_eq := h.embedded_eq

/-- A simple alias may take more values. -/
theorem withValues (h : d.Coherent unionPrefix) (hkind : d.kind = .simple) (values : List Json) :
    Coherent unionPrefix { d with enumValues := values } where
  record hrecord := absurd (hkind.symm.trans hrecord) (by decide)
  target := h.target
  union_iff := h.union_iff
  union_eq := h.union_eq
  enumValues _ := hkind
  embedded_eq := h.embedded_eq

end Definition.Coherent

namespace Extraction

open Source

/-! ## What the search comes to -/

/-- Whether the search goes through the parts of a node. -/
def isOpen : Node → Bool
  | .item (.module _ _ _) => true
  | .item (.other _) => true
  | .item _ => false
  | .expr _ => true
  | .type _ => true

/-- The place of the parts of a node. -/
def placeInside (p : Place) : Node → Place
  | .item (.module _ name _) => p.enter name
  | _ => p

/-- The nodes that the search comes to, each before its parts. -/
def visits (p : Place) (node : Node) : List (Place × Node) :=
  (p, node) ::
    if isOpen node then
      node.children.attach.flatMap fun ⟨child, _⟩ ↦ visits (placeInside p node) child
    else []
termination_by sizeOf node
decreasing_by
  rename_i h
  exact Node.sizeOf_lt_of_mem_children h

/-- The place of the items of a file. -/
def placeOf (config : Config) (file : SourceFile) : Place :=
  ⟨file.path, file.space, config.annotationAttribute, config.unionPrefix⟩

/-- The nodes that the search comes to in a list of files. -/
def visited (config : Config) (files : List SourceFile) : List (Place × Node) :=
  files.flatMap fun file ↦
    (file.context ++ file.items.map Node.item).flatMap (visits (placeOf config file))

/-- What a node declares by itself; a node that is searched through declares nothing. -/
def declared (p : Place) (node : Node) : List Found :=
  if isOpen node then [] else search p node

theorem visits_eq (p : Place) (node : Node) :
    visits p node =
      (p, node) ::
        if isOpen node then node.children.flatMap (visits (placeInside p node)) else [] := by
  rw [visits]
  simp

theorem search_of_isOpen {node : Node} (h : isOpen node = true) (p : Place) :
    search p node = node.children.flatMap (search (placeInside p node)) := by
  cases node with
  | expr e =>
    rw [search]
    simp [placeInside]
  | type t =>
    rw [search]
    simp [placeInside]
  | item i =>
    cases i with
    | module context name items =>
      rw [search]
      simp [placeInside]
    | other parts =>
      rw [search]
      simp [placeInside]
    | _ => exact absurd h (by simp [isOpen])

/-- The search finds what the nodes that it comes to declare. -/
theorem search_eq_visits (p : Place) (node : Node) :
    search p node = (visits p node).flatMap fun visit ↦ declared visit.1 visit.2 := by
  induction hsize : sizeOf node using Nat.strongRecOn generalizing p node with
  | _ size ih =>
    rw [visits_eq, List.flatMap_cons]
    cases hopen : isOpen node with
    | false => simp [declared, hopen]
    | true =>
      rw [search_of_isOpen hopen, declared, if_pos hopen, if_pos rfl, List.nil_append,
        List.flatMap_assoc]
      apply List.flatMap_congr
      intro child hchild
      exact ih (sizeOf child) (hsize ▸ Node.sizeOf_lt_of_mem_children hchild) _ child rfl

theorem found_eq_visited (config : Config) (files : List SourceFile) :
    files.flatMap (searchFile config) =
      (visited config files).flatMap fun visit ↦ declared visit.1 visit.2 := by
  rw [visited, List.flatMap_assoc]
  apply List.flatMap_congr
  intro file _
  rw [searchFile, List.flatMap_assoc]
  apply List.flatMap_congr
  intro node _
  exact search_eq_visits (placeOf config file) node

/-- Places differ in the module alone: the file and the names that are looked for stay the same. -/
theorem eq_of_mem_visits {p : Place} {node : Node} {visit : Place × Node}
    (h : visit ∈ visits p node) : visit.1 = { p with space := visit.1.space } := by
  induction hsize : sizeOf node using Nat.strongRecOn generalizing p node with
  | _ size ih =>
    rw [visits_eq, List.mem_cons] at h
    rcases h with rfl | hinside
    · rfl
    · split at hinside
      · obtain ⟨child, hchild, hvisit⟩ := List.mem_flatMap.1 hinside
        have hplace (space : String) :
            { placeInside p node with space := space } = { p with space := space } := by
          unfold placeInside
          split <;> rfl
        rw [← hplace]
        exact ih (sizeOf child) (hsize ▸ Node.sizeOf_lt_of_mem_children hchild) hvisit rfl
      · exact absurd hinside List.not_mem_nil

theorem settings_of_mem_visited {config : Config} {files : List SourceFile}
    {visit : Place × Node} (h : visit ∈ visited config files) :
    visit.1.attributeName = config.annotationAttribute ∧
      visit.1.unionPrefix = config.unionPrefix := by
  obtain ⟨file, _, hfile⟩ := List.mem_flatMap.1 h
  obtain ⟨node, _, hnode⟩ := List.mem_flatMap.1 hfile
  rw [eq_of_mem_visits hnode]
  exact ⟨rfl, rfl⟩

/-! ## What nodes declare -/

/-- The definition that a node declares, if it declares one. -/
def definition? (p : Place) : Node → Option Definition
  | .item (.struct attributes _ name fields) => some (ofStruct p attributes name fields)
  | .item (.enum attributes _ name variants) => ofEnum? p attributes name variants
  | .item (.typeAlias attributes _ name target) => some (ofAlias p attributes name target)
  | _ => none

/-- The methods that a node declares for a type of a given name: those of an implementation block on
a path that ends with the name. -/
def methodsFor (name : String) : Node → List Operation
  | .item (.implementation _ self members) =>
    if lastName? self = some name then members.filterMap methodOf? else []
  | _ => []

theorem eq_constant_of_constant? {t : Ty} {value : Expr} {found : Found}
    (h : constant? t value = some found) : ∃ owner json, found = .constant owner json := by
  unfold constant? at h
  split at h
  · exact ⟨_, _, (Option.some.inj h).symm⟩
  · split at h
    · exact ⟨_, _, (Option.some.inj h).symm⟩
    · simp at h
  · simp at h

/-- Of what a node declares, the merge takes a definition and methods; no node declares both. -/
theorem declared_eq (p : Place) (node : Node) :
    (declared p node).filterMap Found.type? = (definition? p node).toList ∧
      ∀ name, (declared p node).flatMap (Found.methodsOf name) = methodsFor name node := by
  cases node with
  | expr e => exact ⟨rfl, fun _ ↦ rfl⟩
  | type t => exact ⟨rfl, fun _ ↦ rfl⟩
  | item i =>
    cases i with
    | struct attributes context name fields =>
      simp [declared, isOpen, search, Found.type?, Found.methodsOf, definition?, methodsFor]
    | enum attributes context name variants =>
      cases hd : ofEnum? p attributes name variants <;>
        simp [declared, isOpen, search, hd, Found.type?, Found.methodsOf, definition?, methodsFor]
    | typeAlias attributes context name target =>
      simp [declared, isOpen, search, Found.type?, Found.methodsOf, definition?, methodsFor]
    | implementation context self members =>
      cases hname : lastName? self <;>
        simp [declared, isOpen, search, hname, Found.type?, Found.methodsOf, definition?,
          methodsFor]
    | constant context t value =>
      cases hfound : constant? t value with
      | none => simp [declared, isOpen, search, hfound, definition?, methodsFor]
      | some found =>
        obtain ⟨owner, json, rfl⟩ := eq_constant_of_constant? hfound
        simp [declared, isOpen, search, hfound, Found.type?, Found.methodsOf, definition?,
          methodsFor]
    | function f =>
      cases hf : handlerOf? p f <;>
        simp [declared, isOpen, search, hf, Found.type?, Found.methodsOf, definition?, methodsFor]
    | module context name items => exact ⟨rfl, fun _ ↦ rfl⟩
    | other parts => exact ⟨rfl, fun _ ↦ rfl⟩

/-! ## Definitions as they are declared -/

/-- A field as it comes from its declaration, for a given name of the annotation attribute. -/
structure Describes (attributeName : String) (f : ApiAtlas.Field) (source : Source.Field) :
    Prop where
  type_eq : f.type = TypeExpr.ofTy source.type
  isEmbedded_eq :
    f.isEmbedded = (FieldNotes.ofAttributes attributeName source.attributes).isFlattened
  /-- What is flattened or skipped is not on the wire. -/
  wireName_eq : f.isEmbedded = true ∨
    (FieldNotes.ofAttributes attributeName source.attributes).isSkipped = true → f.wireName = ""
  hasExplicitLocation_eq : f.hasExplicitLocation =
    (FieldNotes.ofAttributes attributeName source.attributes).location.isSome
  location_eq : f.hasExplicitLocation = false → f.location = .body
  isOptional_iff : f.isOptional = true ↔ ∃ inner, f.type.unwrapped = .optional inner

theorem describes_fieldOf (attributeName : String) (renameAll : Option String)
    (source : Source.Field) :
    Describes attributeName (fieldOf attributeName renameAll source) source where
  type_eq := rfl
  isEmbedded_eq := rfl
  wireName_eq h := by
    have hoff : ((FieldNotes.ofAttributes attributeName source.attributes).isSkipped ||
        (FieldNotes.ofAttributes attributeName source.attributes).isFlattened) = true := by
      rw [Bool.or_eq_true, or_comm]
      exact h
    simp only [fieldOf, if_pos hoff]
  hasExplicitLocation_eq := rfl
  location_eq h := by
    rw [ApiAtlas.Field.hasExplicitLocation, Option.isSome_eq_false_iff,
      Option.isNone_iff_eq_none] at h
    rw [ApiAtlas.Field.location, h]
    rfl
  isOptional_iff := by
    unfold ApiAtlas.Field.isOptional
    split
    · next inner htype => exact iff_of_true rfl ⟨inner, htype⟩
    · next hother =>
      exact iff_of_false Bool.false_ne_true fun ⟨inner, htype⟩ ↦ hother inner htype

/-- The fields that a struct declares with names. -/
def namedFields : Fields → List Source.Field
  | .named fields => fields
  | _ => []

/-- Where the fields of a record come from: a struct of its name that the search comes to. -/
def FromStruct (config : Config) (files : List SourceFile) (d : Definition) : Prop :=
  ∃ p attributes context name fields,
    (p, Node.item (.struct attributes context name fields)) ∈ visited config files ∧
      name.text = d.name ∧
      List.Forall₂ (Describes config.annotationAttribute) d.fields (namedFields fields)

theorem coherent_ofStruct (p : Place) (attributes : List Attribute) (name : Ident)
    (fields : Fields) : (ofStruct p attributes name fields).Coherent p.unionPrefix := by
  unfold ofStruct
  split
  · constructor <;> simp
  · constructor <;> simp
  · constructor <;> simp

theorem coherent_ofEnum? {p : Place} {attributes : List Attribute} {name : Ident}
    {variants : List Variant} {d : Definition} (h : ofEnum? p attributes name variants = some d) :
    d.Coherent p.unionPrefix := by
  unfold ofEnum? at h
  split at h
  · obtain rfl := Option.some.inj h
    constructor <;> simp
  · simp at h

theorem coherent_ofAlias (p : Place) (attributes : List Attribute) (name : Ident) (target : Ty) :
    (ofAlias p attributes name target).Coherent p.unionPrefix := by
  unfold ofAlias
  cases hunion : Union.detect? p.unionPrefix (TypeExpr.ofTy target) <;>
    constructor <;> simp [hunion]

theorem describes_ofStruct (p : Place) (attributes : List Attribute) (name : Ident)
    (fields : Fields) :
    List.Forall₂ (Describes p.attributeName) (ofStruct p attributes name fields).fields
      (namedFields fields) := by
  unfold ofStruct
  split
  · exact .nil
  · exact List.forall₂_map_left_iff.2
      (List.forall₂_same.2 fun source _ ↦ describes_fieldOf p.attributeName _ source)
  · next hnamed =>
    cases fields with
    | named fields => exact absurd rfl (hnamed fields)
    | unnamed fields => exact .nil
    | unit => exact .nil

theorem coherent_definition? {p : Place} {node : Node} {d : Definition}
    (h : definition? p node = some d) : d.Coherent p.unionPrefix := by
  unfold definition? at h
  split at h
  · exact Option.some.inj h ▸ coherent_ofStruct p _ _ _
  · exact coherent_ofEnum? h
  · exact Option.some.inj h ▸ coherent_ofAlias p _ _ _
  · simp at h

theorem operations_definition? {p : Place} {node : Node} {d : Definition}
    (h : definition? p node = some d) : d.operations = [] := by
  unfold definition? at h
  split at h
  · rw [← Option.some.inj h]
    unfold ofStruct
    split <;> rfl
  · unfold ofEnum? at h
    split at h
    · rw [← Option.some.inj h]
    · simp at h
  · rw [← Option.some.inj h, ofAlias]
  · simp at h

/-- Only a struct declares a record. -/
theorem struct_of_record {p : Place} {node : Node} {d : Definition}
    (h : definition? p node = some d) (hkind : d.kind = .record) :
    ∃ attributes context name fields,
      node = .item (.struct attributes context name fields) ∧
        d = ofStruct p attributes name fields := by
  unfold definition? at h
  split at h
  · next attributes context name fields =>
    exact ⟨attributes, context, name, fields, rfl, (Option.some.inj h).symm⟩
  · unfold ofEnum? at h
    split at h
    · simp [← Option.some.inj h] at hkind
    · simp at h
  · rw [← Option.some.inj h, ofAlias] at hkind
    simp only at hkind
    split at hkind <;> simp at hkind
  · simp at h

theorem name_ofStruct (p : Place) (attributes : List Attribute) (name : Ident) (fields : Fields) :
    (ofStruct p attributes name fields).name = name.text := by
  unfold ofStruct
  split <;> rfl

theorem fromStruct_of_mem_visited {config : Config} {files : List SourceFile} {p : Place}
    {node : Node} {d : Definition} (hvisited : (p, node) ∈ visited config files)
    (h : definition? p node = some d) (hkind : d.kind = .record) : FromStruct config files d := by
  obtain ⟨attributes, context, name, fields, rfl, rfl⟩ := struct_of_record h hkind
  refine ⟨p, attributes, context, name, fields, hvisited, (name_ofStruct p _ _ _).symm, ?_⟩
  rw [← (settings_of_mem_visited hvisited).1]
  exact describes_ofStruct p attributes name fields

/-! ## Adding methods and constants -/

/-- All that a constant does: one definition, a simple alias, gets one more value. -/
theorem mem_addConstant {name : String} {value : Json} {types : List Definition} {d : Definition}
    (h : d ∈ addConstant name value types) :
    d ∈ types ∨ ∃ base ∈ types, base.kind = .simple ∧
      d = { base with enumValues := base.enumValues ++ [value] } := by
  induction types with
  | nil => exact absurd h List.not_mem_nil
  | cons first rest ih =>
    rw [addConstant] at h
    split at h
    · next hfirst =>
      rw [Bool.and_eq_true, beq_iff_eq, beq_iff_eq] at hfirst
      split at h
      · exact Or.inl h
      · rcases List.mem_cons.1 h with rfl | hrest
        · exact Or.inr ⟨first, List.mem_cons_self, hfirst.2, rfl⟩
        · exact Or.inl (List.mem_cons_of_mem _ hrest)
    · rcases List.mem_cons.1 h with rfl | hrest
      · exact Or.inl List.mem_cons_self
      · rcases ih hrest with hmem | ⟨base, hbase, hgrown⟩
        · exact Or.inl (List.mem_cons_of_mem _ hmem)
        · exact Or.inr ⟨base, List.mem_cons_of_mem _ hbase, hgrown⟩

theorem names_addConstant (name : String) (value : Json) (types : List Definition) :
    (addConstant name value types).map Definition.name = types.map Definition.name := by
  induction types with
  | nil => rfl
  | cons first rest ih =>
    rw [addConstant]
    split
    · split <;> rfl
    · rw [List.map_cons, List.map_cons, ih]

section Merge

variable (config : Config) (files : List SourceFile)

/-- What holds of every definition that is extracted from some files. -/
structure IsExtracted (d : Definition) : Prop where
  coherent : d.Coherent config.unionPrefix
  /-- Its methods are those of all blocks for its name, in the order of the search. -/
  operations_eq : d.operations =
    (visited config files).flatMap fun visit ↦ methodsFor d.name visit.2
  fromStruct : d.kind = .record → FromStruct config files d

variable {config files}

theorem IsExtracted.addValue {d : Definition} (h : IsExtracted config files d)
    (hkind : d.kind = .simple) (value : Json) :
    IsExtracted config files { d with enumValues := d.enumValues ++ [value] } where
  coherent := h.coherent.withValues hkind _
  operations_eq := h.operations_eq
  fromStruct := h.fromStruct

/-- One constant keeps what holds of the definitions. -/
theorem IsExtracted.addConstant {types : List Definition}
    (h : ∀ d ∈ types, IsExtracted config files d) (name : String) (value : Json) :
    ∀ d ∈ Extraction.addConstant name value types, IsExtracted config files d := by
  intro d hd
  rcases mem_addConstant hd with hmem | ⟨base, hbase, hkind, rfl⟩
  · exact h d hmem
  · exact (h base hbase).addValue hkind value

/-- All constants together keep it. -/
theorem IsExtracted.addConstants {types : List Definition}
    (h : ∀ d ∈ types, IsExtracted config files d) (constants : List (String × Json)) :
    ∀ d ∈ constants.foldl (fun types (name, value) ↦ Extraction.addConstant name value types) types,
      IsExtracted config files d := by
  induction constants generalizing types with
  | nil => exact h
  | cons constant rest ih => exact ih (IsExtracted.addConstant h constant.1 constant.2)

theorem names_addConstants (types : List Definition) (constants : List (String × Json)) :
    (constants.foldl (fun types (name, value) ↦ Extraction.addConstant name value types)
      types).map Definition.name = types.map Definition.name := by
  induction constants generalizing types with
  | nil => rfl
  | cons constant rest ih =>
    rw [List.foldl_cons, ih, names_addConstant]

theorem definitions_eq (config : Config) (files : List SourceFile) :
    (files.flatMap (searchFile config)).filterMap Found.type? =
      (visited config files).filterMap fun visit ↦ definition? visit.1 visit.2 := by
  rw [found_eq_visited, List.filterMap_flatMap, List.filterMap_eq_flatMap_toList]
  apply List.flatMap_congr
  intro visit _
  exact (declared_eq visit.1 visit.2).1

theorem methods_eq (config : Config) (files : List SourceFile) (name : String) :
    (files.flatMap (searchFile config)).flatMap (Found.methodsOf name) =
      (visited config files).flatMap fun visit ↦ methodsFor name visit.2 := by
  rw [found_eq_visited, List.flatMap_assoc]
  apply List.flatMap_congr
  intro visit _
  exact (declared_eq visit.1 visit.2).2 name

/-- A definition with its methods, before any constant is added. -/
theorem isExtracted_withMethods {visit : Place × Node} {d : Definition}
    (hvisit : visit ∈ visited config files) (hd : definition? visit.1 visit.2 = some d) :
    IsExtracted config files (withMethods (files.flatMap (searchFile config)) d) where
  coherent := by
    rw [← (settings_of_mem_visited hvisit).2]
    exact (coherent_definition? hd).withOperations _
  operations_eq := by
    rw [withMethods, operations_definition? hd, List.nil_append]
    exact methods_eq config files d.name
  fromStruct hkind := by
    have hstruct : FromStruct config files d := fromStruct_of_mem_visited hvisit hd hkind
    exact hstruct

end Merge

/-- The struct `Card`, which flattens an optional `Audit`. -/
def cardStruct : Item :=
  .struct [] [] ⟨"Card", 1⟩
    (.named [⟨[], [], some "number", .path none [.plain "String"]⟩,
      ⟨[⟨some "serde", .list [.ident "flatten" 3]⟩], [], some "audit",
        .path none [.angle "Option" [.type (.path none [.plain "Audit"])]]⟩])

/-- An implementation block for `Card`, named by a longer path, with one method. -/
def cardMethods : Item :=
  .implementation [] (.path none [.plain "models", .plain "Card"])
    [.function ⟨[], [], true, ⟨"discriminator", 3⟩, [.receiver []], none,
      [.expr (.literal (.text "card"))]⟩]

/-- A file with the struct, and one with the block inside a module. -/
def cardFiles : List SourceFile :=
  [⟨"models.rs", "models", [], [cardStruct]⟩,
    ⟨"logic.rs", "logic", [], [.module [] "rules" [cardMethods]]⟩]

end Extraction

end ApiAtlas

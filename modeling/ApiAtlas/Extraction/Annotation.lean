import ApiAtlas.Catalog.Definition
import ApiAtlas.Source.Reader

/-!
# Annotations

What attributes say about a type, a field or a variant. The entries of an attribute are read from
left to right; the first one that cannot be read ends the attribute, and what was read before it
stays.
-/

namespace ApiAtlas.Extraction

open Source Source.Parse

/-! ## Entries of an attribute -/

/-- Reads the key of an entry; only a single word names something. -/
def key : Parse (Option String) := do
  let leading ← tryOp "::"
  let first ← anyWord
  let rest ← collectWhile (atOp "::") do
    op "::"
    anyWord
  return if leading || !rest.isEmpty then none else some first.text

/-- Folds the entries of a list of tokens, reading what follows each key with `step`. The flag tells
whether all entries could be read. -/
def foldEntries {σ : Type} (step : σ → Option String → Parse σ) :
    (budget : Nat) → σ → List TokenTree → σ × Bool
  | 0, state, _ => (state, false)
  | budget + 1, state, tokens =>
    match runFront? key tokens with
    | none => (state, false)
    | some (name, rest) =>
      match runFront? (step state name) rest with
      | none => (state, false)
      | some (next, []) => (next, true)
      | some (next, rest) =>
        match runFront? (op ",") rest with
        | none => (next, false)
        | some (_, []) => (next, true)
        | some (_, rest) => foldEntries step budget next rest

/-- Folds the entries of an attribute that has a list of them. -/
def foldAttribute {σ : Type} (step : σ → Option String → Parse σ) (state : σ) (a : Attribute) : σ :=
  match a.body with
  | .list tokens => (foldEntries step (tokens.length + 1) state tokens).1
  | _ => state

/-! ## Values of entries -/

/-- The text that a literal stands for. -/
def literalText? : Literal → Option String
  | .text s => some s
  | .int n _ => some (Text.decimal n)
  | .bool b => some (if b then "true" else "false")
  | .float _ => none
  | .other => none

/-- Reads a value after an equals sign, if there is one; without it the entry has no value. -/
def textValue : Parse (Option String) := do
  if ← tryOp "=" then
    match ← ahead with
    | .punct '-' _ :: .literal (.int n _) :: rest =>
      moveTo rest
      return some ("-" ++ Text.decimal n)
    | _ =>
      match literalText? (← Parse.literal) with
      | some text => return some text
      | none => failure
  else return none

/-- Skips the value of an entry that has no meaning here. -/
def skipValue : Parse Unit := do
  if ← tryOp "=" then
    match Expr.dropFrom? (← ahead) with
    | some rest => moveTo rest
    | none => failure
  else if ← peek (atGroup .paren) then
    let _ ← anyGroup

/-- Reads a new name, given directly or for serialization only. -/
def renameValue : Parse (Option String) := do
  let tokens ← ahead
  if atOp "=" tokens then textValue
  else
    check (atGroup .paren tokens)
    let (_, content) ← anyGroup
    let step := fun (found : Option String) (name : Option String) ↦ do
      if name == some "serialize" then textValue
      else
        skipValue
        return found
    match foldEntries step (content.length + 1) none content with
    | (found, true) => return found
    | (_, false) => failure

/-! ## Fields and variants -/

/-- What attributes say about a field or a variant. -/
structure FieldNotes where
  /-- The name on the wire given by the annotation attribute. -/
  wireName : Option String := none
  /-- The name on the wire given for serialization. -/
  serializedName : Option String := none
  directive : Option String := none
  location : Option Location := none
  discriminator : Option String := none
  description : Option String := none
  isSkipped : Bool := false
  isFlattened : Bool := false
  isDeprecated : Bool := false

namespace FieldNotes

/-- Reads an entry of the annotation attribute. -/
def annotationEntry (notes : FieldNotes) (name : Option String) : Parse FieldNotes := do
  match name with
  | some "json" => return { notes with wireName := ← textValue }
  | some "rename" => return { notes with wireName := ← textValue }
  | some "validate" => return { notes with directive := ← textValue }
  | some "in" => return { notes with location := (← textValue).bind Location.ofText? }
  | some "location" => return { notes with location := (← textValue).bind Location.ofText? }
  | some "discriminator" => return { notes with discriminator := ← textValue }
  | some "description" => return { notes with description := ← textValue }
  | some "skip" => return { notes with isSkipped := true }
  | _ =>
    skipValue
    return notes

/-- Reads an entry of the serialization attribute. -/
def serializationEntry (notes : FieldNotes) (name : Option String) : Parse FieldNotes := do
  match name with
  | some "rename" => return { notes with serializedName := ← renameValue }
  | some "skip" => return { notes with isSkipped := true }
  | some "skip_serializing" => return { notes with isSkipped := true }
  | some "flatten" => return { notes with isFlattened := true }
  | _ =>
    skipValue
    return notes

/-- What a list of attributes says about a field, for a given name of the annotation attribute. -/
def ofAttributes (attributeName : String) (attributes : List Attribute) : FieldNotes :=
  attributes.foldl (fun notes a ↦
    if a.name == some "deprecated" then { notes with isDeprecated := true }
    else if a.name == some attributeName then foldAttribute annotationEntry notes a
    else if a.name == some "serde" then foldAttribute serializationEntry notes a
    else notes) {}

end FieldNotes

/-! ## Types -/

/-- What attributes say about a type. -/
structure TypeNotes where
  renameAll : Option String := none
  discriminatorValue : Option String := none
  discriminator : Option String := none
  description : Option String := none

namespace TypeNotes

/-- Reads an entry of the annotation attribute. -/
def annotationEntry (notes : TypeNotes) (name : Option String) : Parse TypeNotes := do
  match name with
  | some "discriminator_value" => return { notes with discriminatorValue := ← textValue }
  | some "discriminator" => return { notes with discriminator := ← textValue }
  | some "description" => return { notes with description := ← textValue }
  | some "rename_all" => return { notes with renameAll := ← textValue }
  | _ =>
    skipValue
    return notes

/-- Reads an entry of the serialization attribute; it does not replace a rule already known. -/
def serializationEntry (notes : TypeNotes) (name : Option String) : Parse TypeNotes := do
  if name == some "rename_all" && notes.renameAll.isNone then
    return { notes with renameAll := ← renameValue }
  else
    skipValue
    return notes

/-- What a list of attributes says about a type, for a given name of the annotation attribute. -/
def ofAttributes (attributeName : String) (attributes : List Attribute) : TypeNotes :=
  attributes.foldl (fun notes a ↦
    if a.name == some attributeName then foldAttribute annotationEntry notes a
    else if a.name == some "serde" then foldAttribute serializationEntry notes a
    else notes) {}

end TypeNotes

/-! ## Documentation -/

/-- The text of a documentation attribute. -/
def docLine? (a : Attribute) : Option String :=
  match a.name, a.body with
  | some "doc", .text s => some (Text.trimmed s)
  | _, _ => none

/-- The documentation that a list of attributes gives, line by line. -/
def docText (attributes : List Attribute) : Option String :=
  let text := Text.trimmed ("\n".intercalate (attributes.filterMap docLine?))
  if text.isEmpty then none else some text

end ApiAtlas.Extraction

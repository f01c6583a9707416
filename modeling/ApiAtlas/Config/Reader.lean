import ApiAtlas.Config
import ApiAtlas.Error
import ApiAtlas.Keyed
import ApiAtlas.Text.Blank
import ApiAtlas.Yaml.Node

/-!
# Reading settings

Settings are a YAML mapping. A setting that is left out keeps its default, and unknown keys are
ignored. A text may be written in any way, a truth value only without quotes. An alias counts as what it
stands for.
-/

namespace ApiAtlas.Config

open Yaml

/-! ## Values -/

/-- A text. -/
def text? (document node : Node) : Option String :=
  match document.resolve node with
  | .scalar _ _ text => some text
  | _ => none

/-- The entries of a mapping; what is left out counts as an empty one. -/
def entries? (document node : Node) : Option (List (Node × Node)) :=
  match document.resolve node with
  | .mapping entries => some entries
  | other => if other.isNothing then some [] else none

/-- An entry whose key is a text. -/
def textKeyed? (document : Node) (entry : Node × Node) : Option (String × Node) :=
  (text? document entry.1).map fun key ↦ (key, entry.2)

/-- The entries of a mapping whose keys are texts. -/
def table? (document node : Node) : Option (List (String × Node)) :=
  (entries? document node).bind fun entries ↦ entries.mapM (textKeyed? document)

/-- A list of texts. -/
def texts? (document node : Node) : Option (List String) :=
  match document.resolve node with
  | .sequence items => items.mapM (text? document)
  | other => if other.isNothing then some [] else none

/-- An entry whose value is a text. -/
def textPair? (document : Node) (entry : String × Node) : Option (String × String) :=
  (text? document entry.2).map fun value ↦ (entry.1, value)

/-- A table of texts; of entries with the same key the last one counts. -/
def textTable? (document node : Node) : Option (List (String × String)) :=
  (table? document node).bind fun entries ↦
    (entries.mapM (textPair? document)).map Keyed.ofList

/-- A text that may be missing. A plain scalar with a tag is missing only if its tag says so, and then
it has to be spelt that way. -/
def optionalText? (document node : Node) : Option (Option String) :=
  match document.resolve node with
  | .scalar none .plain text => some (if Yaml.isNull text then none else some text)
  | .scalar (some tag) .plain text =>
    if !tag.isStandard "null" then some (some text)
    else if Yaml.isNullWord text then some none
    else none
  | .scalar _ _ text => some (some text)
  | _ => none

/-- A truth value: a plain scalar, or a literal block with the tag of truth values. -/
def flag? (document node : Node) : Option Bool :=
  match document.resolve node with
  | .scalar _ .plain text => Yaml.bool? text
  | .scalar (some tag) .literal text => if tag.isStandard "bool" then Yaml.bool? text else none
  | _ => none

/-- A parameter style by its name, which may also be a tag before nothing. -/
def style? (document node : Node) : Option ParameterStyle :=
  match document.resolve node with
  | .scalar tag form text =>
    match tag.bind Tag.ownName? with
    | some name =>
      if form == .plain && Yaml.isNull text then ParameterStyle.ofName? name else none
    | none => ParameterStyle.ofName? text
  | _ => none

/-! ## Settings -/

/-- The value of a setting, or its default; fails if the value cannot be read or the setting is given
twice. -/
def setting? {α : Type} (entries : List (String × Node)) (key : String) (read : Node → Option α)
    (default : α) : Option α :=
  match entries.filter fun (name, _) ↦ name == key with
  | [] => some default
  | [(_, value)] => read value
  | _ => none

/-- Reads the general information. -/
def info? (document node : Node) : Option Info := do
  let start : Info := {}
  let entries ← table? document node
  let title ← setting? entries "title" (text? document) start.title
  let version ← setting? entries "version" (text? document) start.version
  let description ← setting? entries "description" (optionalText? document) start.description
  return ⟨title, version, description⟩

/-- Reads all settings of a document. -/
def ofNode? (document : Node) : Option Config := do
  let start : Config := {}
  let entries ← table? document document
  let info ← setting? entries "info" (info? document) start.info
  let parameterStyle ←
    setting? entries "parameter_style" (style? document) start.parameterStyle
  let annotationAttribute ←
    setting? entries "annotation_attribute" (text? document) start.annotationAttribute
  let unionPrefix ← setting? entries "union_prefix" (text? document) start.unionPrefix
  let markerMethod ← setting? entries "marker_method" (text? document) start.markerMethod
  let discriminatorProperty ←
    setting? entries "discriminator_property" (text? document) start.discriminatorProperty
  let buildHandlers ← setting? entries "build_handlers" (texts? document) start.buildHandlers
  let customDirectives ←
    setting? entries "custom_directives" (textTable? document) start.customDirectives
  let subsetWarnings ← setting? entries "subset_warnings" (flag? document) start.subsetWarnings
  let accessors ← setting? entries "accessors" (flag? document) start.accessors
  return ⟨info, parameterStyle, annotationAttribute, unionPrefix, markerMethod,
    discriminatorProperty, buildHandlers, customDirectives, subsetWarnings, accessors⟩

/-- The settings that may not be blank, with their values. -/
def names (c : Config) : List (String × String) :=
  [("annotation_attribute", c.annotationAttribute), ("union_prefix", c.unionPrefix),
    ("marker_method", c.markerMethod), ("discriminator_property", c.discriminatorProperty)]

/-- The first setting that is blank and may not be. -/
def blankName? (c : Config) : Option String :=
  (c.names.find? fun (_, value) ↦ (Text.trimmed value).isEmpty).map Prod.fst

/-- Reads settings and checks them. -/
def ofYaml (text : String) : Except Error Config :=
  match Node.parse? text with
  | none => .error .malformedSettings
  | some node =>
    match ofNode? (node.getD .nothing) with
    | none => .error .malformedSettings
    | some config =>
      match config.blankName? with
      | some key => .error (.emptySetting key)
      | none => .ok config

end ApiAtlas.Config

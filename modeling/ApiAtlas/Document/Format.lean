import ApiAtlas.Document.Codec
import ApiAtlas.Yaml.Printer

/-!
# Formats of documents

A document is written as YAML or as indented JSON.
-/

namespace ApiAtlas.Document

/-- A format of a document. -/
inductive Format
  | yaml
  | json
  deriving DecidableEq, Repr

/-- The format with a given name. -/
def Format.ofName? (name : String) : Option Format :=
  if name == "yaml" then some .yaml
  else if name == "json" then some .json
  else none

/-- The text of a document. -/
def write (format : Format) (d : Document) : String :=
  match format with
  | .yaml => Yaml.document d.toJson
  | .json => d.toJson.pretty

end ApiAtlas.Document

/-!
# Errors

What stops a run: files that cannot be read or are no source text, directories that do not exist, and
settings that make no sense.
-/

namespace ApiAtlas

/-- Why a file cannot be read or written. -/
inductive FileFault
  | notFound
  | isDirectory
  | notDirectory
  | alreadyExists
  | notText
  deriving DecidableEq, Repr

/-- The wording of a fault. -/
def FileFault.message : FileFault → String
  | .notFound => "No such file or directory (os error 2)"
  | .isDirectory => "Is a directory (os error 21)"
  | .notDirectory => "Not a directory (os error 20)"
  | .alreadyExists => "File exists (os error 17)"
  | .notText => "stream did not contain valid UTF-8"

/-- What stops a run. -/
inductive Error
  /-- A file cannot be read or written. -/
  | file (path : String) (fault : FileFault)
  /-- A file is no source text. -/
  | parse (path : String)
  /-- A source directory is missing. -/
  | missingDirectory (path : String)
  /-- The settings cannot be read. -/
  | malformedSettings
  /-- A setting that may not be empty is. -/
  | emptySetting (key : String)
  deriving DecidableEq, Repr

/-- The wording of an error. -/
def Error.message : Error → String
  | .file path fault => s!"failed to read {path}: " ++ fault.message
  | .parse path => s!"failed to parse {path}"
  | .missingDirectory path => s!"source directory not found: {path}"
  | .malformedSettings => "invalid configuration"
  | .emptySetting key => s!"invalid configuration: {key} must not be empty"

end ApiAtlas

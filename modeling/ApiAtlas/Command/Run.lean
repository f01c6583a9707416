import ApiAtlas.Command.Arguments
import ApiAtlas.Config.Reader
import ApiAtlas.Run

/-!
# The command

Checks that the paths of the arguments exist, reads the settings, runs over the directories, and
gives the document or writes it into a file.
-/

namespace ApiAtlas.Command

open Files (Access)

variable {m : Type → Type} [Monad m]

/-- Why the command fails. -/
inductive Failure
  | missingSource (path : String)
  | noDirectory (path : String)
  | missingRoutes (path : String)
  | settings (path : String) (cause : Error)
  | generation (cause : Error)
  | folder (path : String)
  | output (path : String)
  deriving DecidableEq, Repr

namespace Failure

/-- The wording of a failure. -/
def message : Failure → String
  | .missingSource path => s!"Source directory does not exist: {path}"
  | .noDirectory path => s!"Source path is not a directory: {path}"
  | .missingRoutes path => s!"Route file does not exist: {path}"
  | .settings path _ => s!"Failed to load configuration from {path}"
  | .generation _ => "Failed to generate the OpenAPI document"
  | .folder path => s!"Failed to create directory: {path}"
  | .output path => s!"Failed to write to file: {path}"

/-- The error behind a failure. -/
def cause? : Failure → Option Error
  | .settings _ cause => some cause
  | .generation cause => some cause
  | _ => none

end Failure

/-- Checks the source directories. -/
def checkSources (fs : Access m) : List String → m (Option Failure)
  | [] => return none
  | path :: rest => do
    if ← fs.isFolder path then checkSources fs rest
    else if ← fs.isFile path then return some (.noDirectory path)
    else return some (.missingSource path)

/-- Checks the files with routes. -/
def checkRoutes (fs : Access m) : List String → m (Option Failure)
  | [] => return none
  | path :: rest => do
    if ← fs.isFile path then checkRoutes fs rest else return some (.missingRoutes path)

/-- Settings with those of the arguments in their place. -/
def withArguments (config : Config) (a : Arguments) : Config :=
  { config with
    info := { config.info with
      title := a.title.getD config.info.title
      version := a.version.getD config.info.version }
    parameterStyle := a.style.getD config.parameterStyle
    accessors := config.accessors || a.writesAccessors }

/-- Reads the settings of a run. -/
def settings (fs : Access m) (a : Arguments) : m (Except Failure Config) := do
  match a.config with
  | none => return .ok (withArguments {} a)
  | some path =>
    match ← fs.read path with
    | .error fault => return .error (.settings path (.file path fault))
    | .ok text =>
      match Config.ofYaml text with
      | .error cause => return .error (.settings path cause)
      | .ok config => return .ok (withArguments config a)

/-- Writes a text into a file, after making its folder. -/
def writeOutput (fs : Access m) (path text : String) : m (Option Failure) := do
  match (Path.parent? path).filter fun parent ↦ !parent.isEmpty with
  | none => writeFile
  | some parent =>
    match ← fs.createFolders parent with
    | .error _ => return some (.folder parent)
    | .ok () => writeFile
where
  writeFile : m (Option Failure) := do
    match ← fs.write path text with
    | .error _ => return some (.output path)
    | .ok () => return none

/-- The end of the command: what it prints, and the notices on the way. -/
structure Outcome where
  result : Except Failure String
  log : List Notice := []

/-- Gives the document of a run, or writes it into a file. -/
def deliver (fs : Access m) (a : Arguments) (output : Pipeline.Output) : m (Except Failure String) := do
  let text := output.document.write (a.format.getD .yaml)
  match a.output with
  | none => return .ok (text ++ "\n")
  | some path =>
    match ← writeOutput fs path text with
    | some failure => return .error failure
    | none => return .ok ""

/-- Runs with settings. The notices of the result are repeated at the end. -/
def runWith (fs : Access m) (a : Arguments) (config : Config) : m Outcome := do
  let outcome ← Run.run fs config a.sources a.routes
  match outcome.result with
  | .error e => return ⟨.error (.generation e), outcome.log⟩
  | .ok output =>
    return ⟨← deliver fs a output, outcome.log ++ output.diagnostics⟩

/-- Runs the command. -/
def run (fs : Access m) (a : Arguments) : m Outcome := do
  match ← checkSources fs a.sources with
  | some failure => return { result := .error failure }
  | none =>
    match ← checkRoutes fs a.routes with
    | some failure => return { result := .error failure }
    | none =>
      match ← settings fs a with
      | .error failure => return { result := .error failure }
      | .ok config => runWith fs a config

end ApiAtlas.Command

import ApiAtlas.Files.Scan
import ApiAtlas.Pipeline
import ApiAtlas.Source.Reader

/-!
# Runs over directories

The source files of the given directories are scanned and parsed, and so are the files with routes.
The first file that fails stops the run before anything is written. Companion files are written if
the settings ask for them.
-/

namespace ApiAtlas.Run

open Files (Access)
open Source (SourceFile)

variable {m : Type → Type} [Monad m]

/-- Reads and parses a file. -/
def parse (fs : Access m) (space path : String) : m (Except Error SourceFile) := do
  match ← fs.read path with
  | .error fault => return .error (.file path fault)
  | .ok text =>
    match SourceFile.parse? path space text with
    | some file => return .ok file
    | none => return .error (.parse path)

/-- Takes steps until one fails. -/
def collect {α β : Type} (step : α → m (Except Error β)) : List α → m (Except Error (List β))
  | [] => return .ok []
  | a :: rest => do
    match ← step a with
    | .error e => return .error e
    | .ok b =>
      match ← collect step rest with
      | .error e => return .error e
      | .ok bs => return .ok (b :: bs)

/-- Parses files below a directory. -/
def parseBelow (fs : Access m) (root : String) (paths : List String) :
    m (Except Error (List SourceFile)) :=
  collect (fun path ↦ parse fs (Path.space root path) path) paths

/-- Scans and parses a directory. -/
def parseDirectory (fs : Access m) (root : String) : m (Except Error (List SourceFile)) := do
  match ← Files.scan fs root with
  | .error e => return .error e
  | .ok paths => parseBelow fs root paths

/-- Writes a companion file. -/
def writeCompanion (fs : Access m) (companion : Accessors.Companion) : m (Except Error Unit) := do
  match ← fs.write companion.path companion.contents with
  | .ok () => return .ok ()
  | .error fault => return .error (.file companion.path fault)

/-- The end of a run: its result and the notices on the way. -/
structure Outcome where
  result : Except Error Pipeline.Output
  log : List Notice

/-- Runs over directories and files with routes. -/
def run (fs : Access m) (config : Config) (directories routeFiles : List String) : m Outcome := do
  match ← collect (parseDirectory fs) directories with
  | .error e => return ⟨.error e, []⟩
  | .ok sources =>
    match ← collect (parse fs "") routeFiles with
    | .error e => return ⟨.error e, []⟩
    | .ok routes =>
      let output := Pipeline.run config sources.flatten routes
      match ← collect (writeCompanion fs) (if config.accessors then output.accessors else []) with
      | .error e => return ⟨.error e, output.log⟩
      | .ok _ => return ⟨.ok output, output.log⟩

end ApiAtlas.Run

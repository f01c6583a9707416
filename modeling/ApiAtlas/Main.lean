import ApiAtlas.Command.Run

/-!
# The program

Runs the command on the files of the machine. Notices go to standard error, the document goes to
standard output unless it is written into a file.
-/

namespace ApiAtlas.Program

open Files (Access Visit)

/-- Whether a path names a folder. -/
def isFolder (path : String) : IO Bool := do
  try
    return ← (← IO.FS.realPath path).isDir
  catch _ => return false

/-- Whether a path names a file. -/
def isFile (path : String) : IO Bool := do
  try
    return (← (← IO.FS.realPath path).metadata).type == .file
  catch _ => return false

/-- Reads a text. -/
def read (path : String) : IO (Except FileFault String) := do
  if ← isFolder path then return .error .isDirectory
  try
    match String.fromUTF8? (← IO.FS.readBinFile path) with
    | some text => return .ok text
    | none => return .error .notText
  catch _ => return .error .notFound

/-- Walks through a folder, past the entries whose name is not admitted. -/
partial def walk (admits : String → Bool) (path : String) (names : List String) :
    IO (List Visit) := do
  let mut met := [⟨names, ← isFile path⟩]
  if ← isFolder path then
    for entry in ← (← IO.FS.realPath path).readDir do
      if admits entry.fileName then
        let child := Path.join path entry.fileName
        met := met ++ (← walk admits child (names ++ [entry.fileName]))
  return met

/-- Does something to a file, with the fault if it cannot be done. -/
def attempt (path : String) (action : IO Unit) : IO (Except FileFault Unit) := do
  if ← isFolder path then return .error .isDirectory
  try
    action
    return .ok ()
  catch _ => return .error .notFound

/-- Makes the folders of a path. -/
def createFolders (path : String) : IO (Except FileFault Unit) := do
  if ← isFolder path then return .ok ()
  attempt path (IO.FS.createDirAll path)

/-- Access to the files of the machine. -/
def access : Access IO where
  isFolder := isFolder
  isFile := isFile
  read := read
  walk := fun admits path ↦ walk admits path []
  write := fun path text ↦ attempt path (IO.FS.writeFile path text)
  createFolders := createFolders

/-- How the program is called. -/
def usageText : String :=
  "Usage: apicontract [OPTIONS] <SOURCE_DIR>..."

/-- Ends the program where the arguments ask for no run. -/
def refuse (usage : Command.Usage) : IO UInt32 := do
  if usage == .help then
    IO.println usageText
    return 0
  if usage == .version then
    IO.println "apicontract"
    return 0
  IO.eprintln usageText
  return 2

/-- Runs the command. -/
def run (arguments : Command.Arguments) : IO UInt32 := do
  let outcome ← Command.run access arguments
  for notice in outcome.log do
    IO.eprintln notice.message
  match outcome.result with
  | .ok text =>
    IO.print text
    return 0
  | .error failure =>
    IO.eprintln ("Error: " ++ failure.message)
    if let some cause := failure.cause? then
      IO.eprintln ("Caused by: " ++ cause.message)
    return 1

end ApiAtlas.Program

/-- Runs the program on its arguments. -/
def main (args : List String) : IO UInt32 :=
  match ApiAtlas.Command.Arguments.parse args with
  | .ok arguments => ApiAtlas.Program.run arguments
  | .error usage => ApiAtlas.Program.refuse usage

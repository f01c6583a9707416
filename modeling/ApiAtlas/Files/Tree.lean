import ApiAtlas.Error
import ApiAtlas.Files.Path

/-!
# Directory trees

A tree is a file or a folder. The entries of a folder stand in any order. Paths are looked up from
the folder where a run takes place; nothing outside it is known.
-/

namespace ApiAtlas.Files

/-- What a file holds. -/
inductive Contents
  | text (value : String)
  | binary
  deriving DecidableEq, Repr

/-- A file or a folder. -/
inductive Tree
  | file (contents : Contents)
  | folder (entries : List (String × Tree))
  deriving Repr, Inhabited

/-- What a walk meets: the names on the way to it from where the walk begins, and whether it is a
file. -/
structure Visit where
  names : List String
  isFile : Bool
  deriving DecidableEq, Repr

namespace Tree

/-- An empty folder. -/
def empty : Tree :=
  .folder []

/-- Whether a tree is a folder. -/
def isFolder : Tree → Bool
  | .folder _ => true
  | .file _ => false

/-- The entry of a folder with a given name. -/
def child? (name : String) : Tree → Option Tree
  | .folder entries => entries.lookup name
  | .file _ => none

mutual

/-- What a walk through a tree meets, with the names on the way to it. The walk passes by every
entry whose name is not admitted, and by all that is in it. -/
def walk (admits : String → Bool) : Tree → List (List String × Tree)
  | .file contents => [([], .file contents)]
  | .folder entries => ([], .folder entries) :: walkEntries admits entries

/-- What a walk through the entries of a folder meets. -/
def walkEntries (admits : String → Bool) : List (String × Tree) → List (List String × Tree)
  | [] => []
  | (name, t) :: rest =>
    (if admits name then (walk admits t).map fun (names, found) ↦ (name :: names, found) else []) ++
      walkEntries admits rest

end

/-- The files of a tree with the names on the way to them. -/
def files (t : Tree) : List (List String × Contents) :=
  (t.walk fun _ ↦ true).filterMap fun (names, found) ↦
    match found with
    | .file contents => some (names, contents)
    | .folder _ => none

/-! ## Looking up -/

/-- The tree at the end of a way of names. -/
def at? : List String → Tree → Option Tree
  | [], t => some t
  | name :: rest, t => (t.child? name).bind (at? rest)

/-- Follows components from a place inside a tree and gives the names on the way to where they
lead. -/
def follow (t : Tree) : (place : List String) → List Path.Component → Except FileFault (List String)
  | place, [] => .ok place
  | place, component :: rest =>
    match t.at? place with
    | none => .error .notFound
    | some (.file _) => .error .notDirectory
    | some (.folder entries) =>
      match component with
      | .root => .error .notFound
      | .current => follow t place rest
      | .up => if place.isEmpty then .error .notFound else follow t place.dropLast rest
      | .name name =>
        if (entries.lookup name).isSome then follow t (place ++ [name]) rest else .error .notFound

/-- Whether a path can only name a folder, as one that ends in a slash. -/
def namesFolder (path : String) : Bool :=
  ((Path.parts path).2.getLast?.map Path.isIdle).getD false

/-- The tree that a path names. -/
def find (t : Tree) (path : String) : Except FileFault Tree :=
  if path.isEmpty then .error .notFound
  else
    match t.follow [] (Path.components path) with
    | .error fault => .error fault
    | .ok place =>
      match t.at? place with
      | none => .error .notFound
      | some (.file contents) =>
        if namesFolder path then .error .notDirectory else .ok (.file contents)
      | some found => .ok found

/-- Whether a path names a folder. -/
def hasFolder (t : Tree) (path : String) : Bool :=
  match t.find path with
  | .ok found => found.isFolder
  | .error _ => false

/-- Whether a path names a file. -/
def hasFile (t : Tree) (path : String) : Bool :=
  match t.find path with
  | .ok found => !found.isFolder
  | .error _ => false

/-- The text of a file. -/
def read (t : Tree) (path : String) : Except FileFault String :=
  match t.find path with
  | .error fault => .error fault
  | .ok (.folder _) => .error .isDirectory
  | .ok (.file .binary) => .error .notText
  | .ok (.file (.text value)) => .ok value

/-- What a walk through the folder that a path names meets. -/
def visits (t : Tree) (admits : String → Bool) (path : String) : List Visit :=
  match t.find path with
  | .ok found => (found.walk admits).map fun (names, met) ↦ ⟨names, !met.isFolder⟩
  | .error _ => []

/-! ## Changing -/

/-- Replaces an entry, or adds it at the end. -/
def putEntry (name : String) (new : Tree) : List (String × Tree) → List (String × Tree)
  | [] => [(name, new)]
  | (other, t) :: rest =>
    if other == name then (name, new) :: rest else (other, t) :: putEntry name new rest

/-- Puts a tree at the end of a way of names, through folders that are made where they are
missing. -/
def put (new : Tree) : List String → Tree → Tree
  | [], _ => new
  | name :: rest, .folder entries =>
    .folder (putEntry name (put new rest ((entries.lookup name).getD empty)) entries)
  | _ :: _, .file contents => .file contents

/-- Writes a text into a file, whose folder must exist. -/
def write (t : Tree) (path text : String) : Except FileFault Tree :=
  match (Path.components path).getLast? with
  | some (.name name) =>
    match t.follow [] (Path.components path).dropLast with
    | .error fault => .error fault
    | .ok place =>
      match t.at? place, t.at? (place ++ [name]) with
      | some (.folder _), some (.folder _) => .error .isDirectory
      | some (.folder _), _ =>
        if namesFolder path then .error .isDirectory
        else .ok (put (.file (.text text)) (place ++ [name]) t)
      | _, _ => .error .notDirectory
  | some .root => .error .isDirectory
  | some .current => .error .isDirectory
  | some .up => .error .isDirectory
  | none => .error .notFound

/-- Makes the folders that components lead through; fails at a file. -/
def makeFolders : (place : List String) → List Path.Component → Tree → Except FileFault Tree
  | _, [], t => .ok t
  | place, component :: rest, t =>
    match component with
    | .root => .error .notFound
    | .current => makeFolders place rest t
    | .up => if place.isEmpty then .error .notFound else makeFolders place.dropLast rest t
    | .name name =>
      match t.at? (place ++ [name]) with
      | none => makeFolders (place ++ [name]) rest (put empty (place ++ [name]) t)
      | some (.folder _) => makeFolders (place ++ [name]) rest t
      | some (.file _) => .error .alreadyExists

/-- Makes the folders of a path. -/
def createFolders (t : Tree) (path : String) : Except FileFault Tree :=
  makeFolders [] (Path.components path) t

end Tree

end ApiAtlas.Files

import ApiAtlas.Files.Tree

/-!
# Access to files

The few things that a run asks of a file system. A directory tree gives them without any effect but
its own change.
-/

namespace ApiAtlas.Files

/-- What a run asks of a file system. -/
structure Access (m : Type → Type) where
  isFolder : String → m Bool
  isFile : String → m Bool
  /-- The text of a file. -/
  read : String → m (Except FileFault String)
  /-- Walks through a folder, past the entries whose name is not admitted, and gives all that is met
  in any order. -/
  walk : (admits : String → Bool) → String → m (List Visit)
  /-- Writes a text into a file. -/
  write : String → String → m (Except FileFault Unit)
  /-- Makes the folders of a path that are missing. -/
  createFolders : String → m (Except FileFault Unit)

/-- Makes a change of a tree, if it is possible. -/
def Tree.change (change : Tree → Except FileFault Tree) : StateM Tree (Except FileFault Unit) :=
  fun t ↦
    match change t with
    | .ok next => (.ok (), next)
    | .error fault => (.error fault, t)

/-- Access to a directory tree. -/
def Tree.access : Access (StateM Tree) where
  isFolder := fun path t ↦ (t.hasFolder path, t)
  isFile := fun path t ↦ (t.hasFile path, t)
  read := fun path t ↦ (t.read path, t)
  walk := fun admits path t ↦ (t.visits admits path, t)
  write := fun path text ↦ Tree.change fun t ↦ t.write path text
  createFolders := fun path ↦ Tree.change fun t ↦ t.createFolders path

end ApiAtlas.Files

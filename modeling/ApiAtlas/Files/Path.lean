import ApiAtlas.Text.Split

/-!
# Paths of files

A path is read component by component. Empty components and single points count for nothing, except
a point at the very start. `parent?` keeps the spelling of what it leaves.
-/

namespace ApiAtlas.Path

open Text

/-- A component of a path. -/
inductive Component
  | root
  | current
  | up
  | name (text : String)
  deriving DecidableEq, Repr

/-- Splits a path into its start, which is a slash, a point or nothing, and the pieces between the
slashes of the rest. -/
def parts (path : String) : Option Component × List (List Char) :=
  match path.toList with
  | '/' :: rest => (some .root, splitOn '/' rest)
  | ['.'] => (some .current, [])
  | '.' :: '/' :: rest => (some .current, splitOn '/' ('/' :: rest))
  | cs => (none, splitOn '/' cs)

/-- Whether a piece counts for nothing. -/
def isIdle (piece : List Char) : Bool :=
  piece == [] || piece == ['.']

/-- The component of a piece that counts. -/
def componentOf (piece : List Char) : Component :=
  if piece == ['.', '.'] then .up else .name (String.ofList piece)

/-- The components of a path. -/
def components (path : String) : List Component :=
  let (start, pieces) := parts path
  start.toList ++ (pieces.filter fun piece ↦ !isIdle piece).map componentOf

/-- The components of a path below another one. -/
def below? (root path : String) : Option (List Component) :=
  let start := components root
  let whole := components path
  if start.isPrefixOf whole then some (whole.drop start.length) else none

/-- The names among a list of components. -/
def names (components : List Component) : List String :=
  components.filterMap fun component ↦
    match component with
    | .name text => some text
    | _ => none

/-- The last component of a path, if it is a name. -/
def fileName? (path : String) : Option String :=
  match (components path).getLast? with
  | some (.name text) => some text
  | _ => none

/-- The text of a start. -/
def startText : Option Component → String
  | some .root => "/"
  | some .current => "."
  | _ => ""

/-- A path without its last component; the root has no parent. -/
def parent? (path : String) : Option String :=
  let (start, pieces) := parts path
  let spell := fun (pieces : List (List Char)) ↦
    startText start ++ String.ofList (joinWith ['/'] pieces)
  match dropEndWhile isIdle pieces with
  | [] => if start == some .current then some "" else none
  | kept => some (spell (dropEndWhile isIdle kept.dropLast))

/-- Splits a file name at its last point. A point at the start divides nothing. -/
def splitName (name : List Char) : List Char × Option (List Char) :=
  if name.contains '.' then
    let ending := (name.reverse.takeWhile fun c ↦ c != '.').reverse
    let before := name.take (name.length - ending.length - 1)
    if before.isEmpty then (name, none) else (before, some ending)
  else (name, none)

/-- The last component of a path without its extension. -/
def stem (path : String) : String :=
  match fileName? path with
  | some name => String.ofList (splitName name.toList).1
  | none => ""

/-- The extension of a file name. -/
def extension? (name : String) : Option String :=
  (splitName name.toList).2.map String.ofList

/-- A path followed by another one that is relative. -/
def join (path tail : String) : String :=
  if path.isEmpty || path.toList.getLast? == some '/' then path ++ tail else path ++ "/" ++ tail

/-! ## Namespaces -/

/-- Drops every occurrence of an ending of a text. -/
def dropEnding (ending : List Char) (cs : List Char) : List Char :=
  let rec loop : (budget : Nat) → List Char → List Char
    | 0, rest => rest
    | budget + 1, rest =>
      match dropLead? ending.reverse rest with
      | some shorter => loop budget shorter
      | none => rest
  (loop cs.length cs.reverse).reverse

/-- The names of modules that add nothing to a namespace. -/
def rootModules : List String :=
  ["lib", "main", "mod"]

/-- The module path of a source file below a directory. -/
def space (root path : String) : String :=
  let segments := names ((below? root path).getD (components path))
  let kept :=
    match segments.getLast? with
    | none => []
    | some last =>
      let module := String.ofList (dropEnding ".rs".toList last.toList)
      segments.dropLast ++ (if rootModules.contains module then [] else [module])
  "::".intercalate (kept.filter fun segment ↦ segment != "src")

end ApiAtlas.Path

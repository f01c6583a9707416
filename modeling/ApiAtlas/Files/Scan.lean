import ApiAtlas.Files.Access

/-!
# Scanning for source files

Scanning walks through a folder, past the entries whose name begins with a point or is `target`. The
source files are the files met whose extension is `rs`, in the order of their names.
-/

namespace ApiAtlas.Files

/-- Whether scanning looks at an entry with a given name. -/
def isScanned (name : String) : Bool :=
  name.toList.head? != some '.' && name != "target"

/-- Whether a walk has met a source file. -/
def Visit.isSource (visit : Visit) : Bool :=
  visit.isFile && (visit.names.getLast?.bind Path.extension?) == some "rs"

/-- Whether a way of names comes before another one, or is the same. -/
def precedes : List String → List String → Bool
  | [], _ => true
  | _ :: _, [] => false
  | a :: as, b :: bs => if a == b then precedes as bs else decide (a < b)

/-- The source files that a walk has met, in order. -/
def sources (met : List Visit) : List (List String) :=
  ((met.filter Visit.isSource).map Visit.names).mergeSort precedes

/-- The path of a file below a folder. -/
def pathBelow (root : String) (names : List String) : String :=
  names.foldl Path.join root

/-- The paths of the source files below a folder. -/
def scan {m : Type → Type} [Monad m] (fs : Access m) (root : String) :
    m (Except Error (List String)) := do
  if ← fs.isFolder root then
    return .ok ((sources (← fs.walk isScanned root)).map (pathBelow root))
  else return .error (.missingDirectory root)

end ApiAtlas.Files

/-!
# Tables sorted by key

A table is a list of entries with strictly increasing keys. Keys are compared by code points, so
two tables with the same entries are the same list.
-/

namespace ApiAtlas.Keyed

variable {α : Type}

/-- Puts an entry into a table, replacing the entry of the same key. -/
def insert (key : String) (value : α) : List (String × α) → List (String × α)
  | [] => [(key, value)]
  | (k, v) :: rest =>
    if key < k then (key, value) :: (k, v) :: rest
    else if key == k then (key, value) :: rest
    else (k, v) :: insert key value rest

/-- The value of a key. -/
def get? (key : String) (table : List (String × α)) : Option α :=
  table.lookup key

/-- Whether a table has an entry for a key. -/
def contains (key : String) (table : List (String × α)) : Bool :=
  (table.lookup key).isSome

/-- The table of a list of entries; a later entry replaces an earlier one of the same key. -/
def ofList (entries : List (String × α)) : List (String × α) :=
  entries.foldl (fun table (key, value) ↦ insert key value table) []

/-- The keys of a table in order. -/
def keys (table : List (String × α)) : List String :=
  table.map Prod.fst

/-- Puts a name into a sorted list of distinct names. -/
def insertName (name : String) : List String → List String
  | [] => [name]
  | n :: rest =>
    if name < n then name :: n :: rest
    else if name == n then n :: rest
    else n :: insertName name rest

/-- The distinct names of a list in increasing order. -/
def sortNames (names : List String) : List String :=
  names.foldl (fun sorted name ↦ insertName name sorted) []

end ApiAtlas.Keyed

import ApiAtlas.Catalog
import ApiAtlas.Config
import ApiAtlas.Naming

/-!
# Discriminators

How the alternatives of a union are told apart. A property asked for by name wins. Otherwise, if
every alternative is a record that declares a value or has the marker method, the usual property is
taken and each alternative contributes a value. Otherwise there is no discriminator.
-/

namespace ApiAtlas.Union

open Text

/-! ## Values -/

/-- The characters that may surround a value in documentation. -/
def isWrapping (c : Char) : Bool :=
  c == '"' || c == '\'' || c == '`' || c == '.'

/-- The value that a line such as `discriminator: card` names. -/
def lineValue? (line : List Char) : Option String :=
  if line.contains ':' then
    let keyword := String.ofList (trim (line.takeWhile fun c ↦ c != ':'))
    let value := trim ((line.dropWhile fun c ↦ c != ':').drop 1)
    let bare := dropEndWhile isWrapping (value.dropWhile isWrapping)
    if lowerAscii keyword == "discriminator" && !bare.isEmpty then some (String.ofList bare)
    else none
  else none

/-- The value that some line of a documentation text names. -/
def docValue? (doc : String) : Option String :=
  (splitOn '\n' doc.toList).findSome? lineValue?

/-- The marker method of a type, if it takes no arguments. -/
def marker? (config : Config) (d : Definition) : Option Operation :=
  (d.operation? config.markerMethod).filter fun operation ↦ operation.argCount == 0

/-- Whether a type declares a value or has the marker method. -/
def isMarked (config : Config) (d : Definition) : Bool :=
  d.discriminatorValue.isSome || (marker? config d).isSome

/-- The value that a type declares, or that its marker method returns. -/
def declaredValue? (config : Config) (d : Definition) : Option String :=
  d.discriminatorValue.or ((marker? config d).bind Operation.returned)

/-- The value that documentation names, the marker method's before the type's own. -/
def documentedValue? (config : Config) (d : Definition) : Option String :=
  (((marker? config d).bind Operation.doc).toList ++ d.doc.toList).findSome? docValue?

/-- The value of a type, which is its name in snake case if nothing else names one. -/
def valueOf (config : Config) (d : Definition) : String :=
  ((declaredValue? config d).or (documentedValue? config d)).getD (Naming.snake d.name)

/-- What there is to report about the value of a type. -/
def valueNotice? (config : Config) (d : Definition) : Option Notice :=
  if ((declaredValue? config d).or (documentedValue? config d)).isSome then none
  else some (.fallbackValue d.name (Naming.snake d.name))

/-! ## Resolution -/

/-- The records among the alternatives, one entry per alternative. -/
def records (c : Catalog) (u : Union) : List (Option Definition) :=
  u.alternatives.map fun t ↦ (alternativeName? t).bind c.record?

/-- The override that counts: an empty one is none. -/
def override? (property : Option String) : Option String :=
  property.filter fun p ↦ !p.isEmpty

/-- The entry that a record with a declared value contributes. -/
def declaredPair? (config : Config) (d : Definition) : Option (String × String) :=
  (declaredValue? config d).map fun value ↦ (value, Schema.componentRef d.name)

/-- The entry that a record contributes. -/
def entryOf (config : Config) (d : Definition) : String × String :=
  (valueOf config d, Schema.componentRef d.name)

/-- Whether all alternatives are records that declare a value or have the marker method. -/
def allMarked (c : Catalog) (config : Config) (u : Union) : Bool :=
  (u.records c).all fun d ↦ (d.map (isMarked config)).getD false

/-- A union with its discriminator, for a property that may be asked for by name. -/
def resolve (c : Catalog) (config : Config) (property : Option String) (u : Union) : Union :=
  let found := (u.records c).filterMap id
  match override? property with
  | some name =>
    { u with
      discriminator := some ⟨name, Keyed.ofList (found.filterMap (declaredPair? config))⟩
      isExplicit := true }
  | none =>
    if u.allMarked c config then
      { u with
        discriminator :=
          some ⟨config.discriminatorProperty, Keyed.ofList (found.map (entryOf config))⟩
        isExplicit := false }
    else { u with discriminator := none, isExplicit := false }

/-- What there is to report about a resolution. -/
def resolveNotices (c : Catalog) (config : Config) (property : Option String) (u : Union) :
    List Notice :=
  match override? property with
  | some _ => []
  | none =>
    if u.allMarked c config then
      ((u.records c).filterMap id).filterMap (valueNotice? config)
    else []

/-! ## Alternatives that cannot be told apart -/

/-- The wire names of a record and of what it embeds, sorted. -/
def wireNames (c : Catalog) (name : String) : List String :=
  let fields := (c.closure (fun _ ↦ true) id [] [name]).flatMap Definition.fields
  Keyed.sortNames ((fields.filter Field.isWire).map Field.wireName)

/-- The alternatives that are records, with their wire names. -/
def fieldSets (c : Catalog) (u : Union) : List (String × List String) :=
  (u.alternatives.filterMap alternativeName?).filterMap fun name ↦
    (c.record? name).map fun _ ↦ (name, wireNames c name)

/-- Whether the names of one list all belong to another one that has more. -/
def isStrictSubset (small large : List String) : Bool :=
  small.length < large.length && small.all large.contains

/-- A notice for each ordered pair of alternatives of which the first has only wire names of the
second, and fewer. -/
def subsetNotices (c : Catalog) (label : String) (u : Union) : List Notice :=
  let sets := u.fieldSets c
  sets.flatMap fun (small, smallNames) ↦
    sets.filterMap fun (large, largeNames) ↦
      if isStrictSubset smallNames largeNames then some (.subsetAlternative label small large)
      else none

end ApiAtlas.Union

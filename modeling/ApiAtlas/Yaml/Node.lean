import ApiAtlas.Yaml.Token

/-!
# YAML values

A document is a scalar, a sequence or a mapping. What is left out, as the value after a key without
one, is an empty plain scalar. A value may have an anchor, and an alias stands for the value with its
anchor, which may be one around it.
-/

namespace ApiAtlas.Yaml

/-- A value. -/
inductive Node
  | scalar (tag : Option Tag) (form : Form) (text : String)
  | sequence (items : List Node)
  | mapping (entries : List (Node × Node))
  | anchored (number : Nat) (value : Node)
  | alias (number : Nat)
  deriving Repr, Inhabited

namespace Node

/-- The value that is left out. -/
def nothing : Node :=
  .scalar none .plain ""

/-- Whether a value is left out; it may have a tag. -/
def isNothing : Node → Bool
  | .scalar _ form text => form == .plain && text.isEmpty
  | _ => false

/-! ## Anchors -/

mutual

/-- The value with an anchor; where several anchors share a number, the last one counts. -/
def find? (number : Nat) : Node → Option Node
  | .scalar _ _ _ => none
  | .sequence items => findAmong? number items
  | .mapping entries => findInEntries? number entries
  | .anchored other value =>
    (find? number value).or (if other == number then some value else none)
  | .alias _ => none

/-- The last value with an anchor among items. -/
def findAmong? (number : Nat) : List Node → Option Node
  | [] => none
  | item :: rest => (findAmong? number rest).or (find? number item)

/-- The last value with an anchor among entries. -/
def findInEntries? (number : Nat) : List (Node × Node) → Option Node
  | [] => none
  | entry :: rest => (findInEntries? number rest).or (findInPair? number entry)

/-- The last value with an anchor in an entry. -/
def findInPair? (number : Nat) : Node × Node → Option Node
  | (key, value) => (find? number value).or (find? number key)

end

/-- What a part of a document stands for: itself without its anchor, or what it is an alias of. -/
def resolve (document : Node) : Node → Node
  | .alias number => (document.find? number).getD nothing
  | .anchored _ value => value
  | node => node

/-! ## Reading -/

/-- A reader of one value. -/
abbrev Reader := List Token → Option (Node × List Token)

/-- Reads a value, or nothing before one of the given tokens. -/
def orNothing (read : Reader) (ends : List Token) : Reader
  | [] => some (nothing, [])
  | token :: rest => if ends.contains token then some (nothing, token :: rest) else read (token :: rest)

/-- The tokens before which the part of a block mapping may be left out. -/
def mappingEnds : List Token :=
  [.key, .value, .blockEnd]

/-- Reads the value of a key, if there is one. -/
def valueOf (read : Reader) (ends : List Token) : Reader
  | .value :: rest => orNothing read ends rest
  | tokens => some (nothing, tokens)

/-- Reads the items of a block sequence and its end. -/
def blockItems (read : Reader) : (budget : Nat) → List Token → Option (List Node × List Token)
  | 0, _ => none
  | budget + 1, .entry :: rest => do
    let (item, rest) ← orNothing read [.entry, .blockEnd] rest
    let (items, rest) ← blockItems read budget rest
    return (item :: items, rest)
  | _, .blockEnd :: rest => some ([], rest)
  | _, _ => none

/-- Reads the items of a sequence that is not indented under its key. -/
def flatItems (read : Reader) : (budget : Nat) → List Token → Option (List Node × List Token)
  | 0, _ => none
  | budget + 1, .entry :: rest => do
    let (item, rest) ← orNothing read (.entry :: mappingEnds) rest
    let (items, rest) ← flatItems read budget rest
    return (item :: items, rest)
  | _, tokens => some ([], tokens)

/-- Reads the entries of a block mapping and its end. -/
def blockEntries (read : Reader) :
    (budget : Nat) → List Token → Option (List (Node × Node) × List Token)
  | 0, _ => none
  | budget + 1, .key :: rest => do
    let (key, rest) ← orNothing read mappingEnds rest
    let (value, rest) ← valueOf read mappingEnds rest
    let (entries, rest) ← blockEntries read budget rest
    return ((key, value) :: entries, rest)
  | _, .blockEnd :: rest => some ([], rest)
  | _, _ => none

/-- The tokens before which a key in a flow sequence may be left out. -/
def flowKeyEnds : List Token :=
  [.value, .flowEntry, .flowSequenceEnd]

/-- Reads a key in a flow sequence; one that is left out takes the token after it along. -/
def flowKey (read : Reader) : Reader
  | [] => none
  | token :: rest =>
    if flowKeyEnds.contains token then some (nothing, rest) else read (token :: rest)

/-- Reads an item of a flow sequence; a key makes it a mapping of its own. -/
def flowItem (read : Reader) : Reader
  | .key :: rest => do
    let (key, rest) ← flowKey read rest
    let (value, rest) ← valueOf read [.flowEntry, .flowSequenceEnd] rest
    return (.mapping [(key, value)], rest)
  | tokens => read tokens

/-- Reads an entry of a flow mapping. -/
def flowPair (read : Reader) : List Token → Option ((Node × Node) × List Token)
  | .key :: rest => do
    let (key, rest) ← orNothing read [.value, .flowEntry, .flowMappingEnd] rest
    let (value, rest) ← valueOf read [.flowEntry, .flowMappingEnd] rest
    return ((key, value), rest)
  | tokens => (read tokens).map fun (key, rest) ↦ ((key, nothing), rest)

/-- Reads what stands between commas, up to the end of a flow collection. -/
def flowParts {α : Type} (read : List Token → Option (α × List Token)) (ending : Token) :
    (budget : Nat) → (isFirst : Bool) → List Token → Option (List α × List Token)
  | 0, _, _ => none
  | budget + 1, isFirst, tokens => do
    match tokens with
    | [] => none
    | token :: rest =>
      if token == ending then return ([], rest)
      else
        let start ← if isFirst then some tokens else if token == .flowEntry then some rest else none
        if start.head? == some ending then return ([], start.drop 1)
        else
          let (part, rest) ← read start
          let (parts, rest) ← flowParts read ending budget false rest
          return (part :: parts, rest)

/-- What may stand before a value. -/
structure Properties where
  anchor : Option Nat := none
  tag : Option Tag := none

namespace Properties

/-- Reads an anchor and a tag, in any order. -/
def read : List Token → Properties × List Token
  | .anchor number :: .tag tag :: rest => (⟨some number, some tag⟩, rest)
  | .tag tag :: .anchor number :: rest => (⟨some number, some tag⟩, rest)
  | .anchor number :: rest => (⟨some number, none⟩, rest)
  | .tag tag :: rest => (⟨none, some tag⟩, rest)
  | tokens => ({}, tokens)

/-- Gives a value the anchor. -/
def apply (p : Properties) (node : Node) : Node :=
  match p.anchor with
  | some number => .anchored number node
  | none => node

/-- The empty scalar that properties without a value stand for. -/
def alone? (p : Properties) (tokens : List Token) : Option (Node × List Token) :=
  if p.anchor.isSome || p.tag.isSome then some (p.apply (.scalar p.tag .plain ""), tokens) else none

end Properties

/-- Reads a value. Block collections stand only in blocks, and a sequence that is not indented only
under a key. -/
def read : (depth : Nat) → (inBlock underKey : Bool) → Reader
  | 0, _, _, _ => none
  | depth + 1, inBlock, underKey, tokens =>
    let (properties, tokens) := Properties.read tokens
    let budget := tokens.length + 1
    let items := fun (found : List Node × List Token) ↦
      (properties.apply (.sequence found.1), found.2)
    let entries := fun (found : List (Node × Node) × List Token) ↦
      (properties.apply (.mapping found.1), found.2)
    match tokens with
    | .alias number :: rest =>
      (properties.alone? tokens).or (some (.alias number, rest))
    | .scalar form text :: rest =>
      some (properties.apply (.scalar properties.tag form text), rest)
    | .flowSequenceStart :: rest =>
      (flowParts (flowItem (read depth false false)) .flowSequenceEnd budget true rest).map items
    | .flowMappingStart :: rest =>
      (flowParts (flowPair (read depth false false)) .flowMappingEnd budget true rest).map entries
    | .entry :: _ =>
      if underKey then (flatItems (read depth true false) budget tokens).map items
      else properties.alone? tokens
    | .sequenceStart :: rest =>
      if inBlock then (blockItems (read depth true false) budget rest).map items
      else properties.alone? tokens
    | .mappingStart :: rest =>
      if inBlock then (blockEntries (read depth true true) budget rest).map entries
      else properties.alone? tokens
    | _ => properties.alone? tokens

/-- Whether nothing but ends of documents is left. -/
def isFinished (tokens : List Token) : Bool :=
  tokens.all fun token ↦ token == .documentEnd

/-- Whether a token is a directive. -/
def isDirective (token : Token) : Bool :=
  token == .version || token == .handle

/-- The value of a text with at most one document; a text without one has none. Before the start of
the document there may be directives, one of them with a version. -/
def parse? (text : String) : Option (Option Node) := do
  let tokens ← tokens? text
  let whole := read (tokens.length + 1) true false
  let directives := tokens.takeWhile isDirective
  match tokens.dropWhile isDirective with
  | .documentStart :: rest =>
    let (node, rest) ← orNothing whole [.documentStart, .documentEnd] rest
    if directives.count .version ≤ 1 && isFinished rest then return some node else none
  | [] => if directives.isEmpty then return none else none
  | rest =>
    let (node, rest) ← whole rest
    if directives.isEmpty && isFinished rest then return some node else none

end Node

end ApiAtlas.Yaml

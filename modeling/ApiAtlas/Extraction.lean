import ApiAtlas.Catalog
import ApiAtlas.Extraction.Found

/-!
# Extraction

Collects the types and handlers of a list of source files. The search goes through every form that
can hold items, except the insides of the items that declare something themselves. Methods and
constants are added to their types at the end, because they may stand before them or in other files.
-/

namespace ApiAtlas

/-- The types and handlers found in a list of files, in order. -/
structure Extraction where
  types : List Definition
  handlers : List Handler

namespace Extraction

open Source

/-! ## Searching -/

/-- Everything declared in a node and below it, in order. -/
def search (p : Place) (node : Node) : List Found :=
  match node with
  | .item (.struct attributes _ name fields) => [.type (ofStruct p attributes name fields)]
  | .item (.enum attributes _ name variants) =>
    (ofEnum? p attributes name variants).toList.map Found.type
  | .item (.typeAlias attributes _ name target) => [.type (ofAlias p attributes name target)]
  | .item (.implementation _ self members) =>
    (lastName? self).toList.map fun name ↦ .methods name (members.filterMap methodOf?)
  | .item (.constant _ type value) => (constant? type value).toList
  | .item (.function f) => (handlerOf? p f).toList.map Found.handler
  | .item (.module context name items) =>
    (Node.children (.item (.module context name items))).attach.flatMap
      fun ⟨child, _⟩ ↦ search (p.enter name) child
  | .item (.other parts) =>
    (Node.children (.item (.other parts))).attach.flatMap fun ⟨child, _⟩ ↦ search p child
  | .expr e => (Node.children (.expr e)).attach.flatMap fun ⟨child, _⟩ ↦ search p child
  | .type t => (Node.children (.type t)).attach.flatMap fun ⟨child, _⟩ ↦ search p child
termination_by sizeOf node
decreasing_by
  all_goals
    rename_i h
    exact Node.sizeOf_lt_of_mem_children h

/-- Everything declared in a file. -/
def searchFile (config : Config) (file : SourceFile) : List Found :=
  let p : Place := ⟨file.path, file.space, config.annotationAttribute, config.unionPrefix⟩
  (file.context ++ file.items.map Node.item).flatMap (search p)

/-! ## Putting together -/

/-- The definition declared, if one is. -/
def Found.type? : Found → Option Definition
  | .type d => some d
  | _ => none

/-- The handler declared, if one is. -/
def Found.handler? : Found → Option Handler
  | .handler h => some h
  | _ => none

/-- The methods declared for a type of a given name. -/
def Found.methodsOf (name : String) : Found → List Operation
  | .methods owner operations => if owner == name then operations else []
  | _ => []

/-- The constant declared, if one is: its type and its value. -/
def Found.constant? : Found → Option (String × Json)
  | .constant owner value => some (owner, value)
  | _ => none

/-- Gives a definition the methods declared for its name. -/
def withMethods (found : List Found) (d : Definition) : Definition :=
  { d with operations := d.operations ++ found.flatMap (Found.methodsOf d.name) }

/-- Adds a constant to the values of the first simple alias with its type's name, unless it is among
them already. -/
def addConstant (name : String) (value : Json) : List Definition → List Definition
  | [] => []
  | d :: rest =>
    if d.name == name && d.kind == .simple then
      if d.enumValues.contains value then d :: rest
      else { d with enumValues := d.enumValues ++ [value] } :: rest
    else d :: addConstant name value rest

/-- Puts together what was declared. -/
def ofFound (found : List Found) : Extraction where
  types :=
    (found.filterMap Found.constant?).foldl (fun types (name, value) ↦ addConstant name value types)
      ((found.filterMap Found.type?).map (withMethods found))
  handlers := found.filterMap Found.handler?

/-- The types and handlers of a list of files. -/
def ofFiles (config : Config) (files : List SourceFile) : Extraction :=
  ofFound (files.flatMap (searchFile config))

/-- The catalog of an extraction, with the notices of its making. -/
def catalog (e : Extraction) : Catalog × List Notice :=
  Catalog.addAll {} e.types e.handlers

end Extraction

end ApiAtlas

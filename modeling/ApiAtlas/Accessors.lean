import ApiAtlas.Catalog
import ApiAtlas.Files.Path
import ApiAtlas.Naming
import ApiAtlas.Text.Replace

/-!
# Accessors of unions

For an alias of a union a companion file can be written, with a view of the alternative that is
held, a trait with three methods for each alternative, and a constructor for each alternative.
-/

namespace ApiAtlas.Accessors

/-! ## Alternatives -/

/-- The slots of a union type, in order. -/
def slots : List String :=
  ["first", "second", "third", "fourth"]

/-- An alternative as the companion file names it. -/
structure Alternative where
  label : String
  variant : String
  type : String
  slot : String
  deriving DecidableEq, Repr

mutual

/-- The label of an alternative by its type: `Card` gives `card`, and a list of cards `card_list`. -/
def label? : TypeExpr → Option String
  | .optional inner => bareLabel? inner
  | .sequence element => (label? element).map fun label ↦ label ++ "_list"
  | .map _ value => (label? value).map fun label ↦ label ++ "_map"
  | .named name => some (Naming.snake name)
  | .generic base args => if TypeExpr.wrappers.contains base then soleLabel? args else none

/-- The label of a type inside an optional slot; a second slot has none. -/
def bareLabel? : TypeExpr → Option String
  | .optional _ => none
  | .sequence element => (label? element).map fun label ↦ label ++ "_list"
  | .map _ value => (label? value).map fun label ↦ label ++ "_map"
  | .named name => some (Naming.snake name)
  | .generic base args => if TypeExpr.wrappers.contains base then soleBareLabel? args else none

/-- The label of a single argument. -/
def soleLabel? : List TypeExpr → Option String
  | [a] => label? a
  | _ => none

/-- The label of a single argument inside an optional slot. -/
def soleBareLabel? : List TypeExpr → Option String
  | [a] => bareLabel? a
  | _ => none

end

/-- A label that is not in use: a label already seen gets the position of the alternative. -/
def freshLabel (seen : List String) (position : Nat) (t : TypeExpr) : String :=
  let label := (label? t).getD ("alternative_" ++ Text.decimal position)
  if seen.contains label then label ++ "_" ++ Text.decimal position else label

/-- The alternatives from a position on. -/
def alternativesFrom (seen : List String) (position : Nat) :
    List (TypeExpr × String) → List Alternative
  | [] => []
  | (t, slot) :: rest =>
    let label := freshLabel seen position t
    ⟨label, Naming.pascal label, t.render, slot⟩ ::
      alternativesFrom (((label? t).getD ("alternative_" ++ Text.decimal position)) :: label :: seen)
        (position + 1) rest

/-- The alternatives of a union. -/
def alternatives (types : List TypeExpr) : List Alternative :=
  alternativesFrom [] 1 (types.zip slots)

/-! ## Texts -/

/-- The line of a variant. -/
def variantText : String :=
  "    \x7bvariant\x7d(&'a \x7bty\x7d),\n"

/-- The signatures of the methods of an alternative. -/
def signatureText : String :=
  "    fn is_\x7blabel\x7d(&self) -> bool;\n" ++
  "    fn \x7blabel\x7d(&self) -> Option<&\x7bty\x7d>;\n" ++
  "    /// Stores `value`, clearing every other alternative.\n" ++
  "    fn set_\x7blabel\x7d(&mut self, value: \x7bty\x7d);\n"

/-- The methods of an alternative. -/
def methodText : String :=
  "    fn is_\x7blabel\x7d(&self) -> bool \x7b\n" ++
  "        self.\x7bslot\x7d.is_some()\n" ++
  "    \x7d\n" ++
  "\n" ++
  "    fn \x7blabel\x7d(&self) -> Option<&\x7bty\x7d> \x7b\n" ++
  "        self.\x7bslot\x7d.as_ref()\n" ++
  "    \x7d\n" ++
  "\n" ++
  "    fn set_\x7blabel\x7d(&mut self, value: \x7bty\x7d) \x7b\n" ++
  "\x7bclears\x7d        self.\x7bslot\x7d = Some(value);\n" ++
  "    \x7d\n"

/-- The line that clears a slot. -/
def clearText : String :=
  "        self.\x7bslot\x7d = None;\n"

/-- The lines that look into a slot. -/
def valueText : String :=
  "        if let Some(value) = &self.\x7bslot\x7d \x7b\n" ++
  "            return Some(\x7balias\x7dRef::\x7bvariant\x7d(value));\n" ++
  "        \x7d\n"

/-- The constructor of an alternative. -/
def constructorText : String :=
  "\n" ++
  "/// A [`\x7balias\x7d`] holding `value`.\n" ++
  "pub fn \x7balias_snake\x7d_from_\x7blabel\x7d(value: \x7bty\x7d) -> \x7balias\x7d \x7b\n" ++
  "    let mut union = \x7balias\x7d::default();\n" ++
  "    union.set_\x7blabel\x7d(value);\n" ++
  "    union\n" ++
  "\x7d\n"

/-- The companion file. -/
def fileText : String :=
  "// Code generated by apicontract. DO NOT EDIT.\n" ++
  "// Accessors for the \x7balias\x7d union.\n" ++
  "\n" ++
  "use super::*;\n" ++
  "\n" ++
  "/// Borrowed view of the alternative held by a [`\x7balias\x7d`].\n" ++
  "#[derive(Debug, Clone, Copy)]\n" ++
  "pub enum \x7balias\x7dRef<'a> \x7b\n" ++
  "\x7bvariants\x7d\x7d\n" ++
  "\n" ++
  "/// Per-alternative accessors for [`\x7balias\x7d`].\n" ++
  "pub trait \x7balias\x7dAccessors \x7b\n" ++
  "\x7bsignatures\x7d\n" ++
  "    /// The first alternative present, in declared order.\n" ++
  "    fn value(&self) -> Option<\x7balias\x7dRef<'_>>;\n" ++
  "\x7d\n" ++
  "\n" ++
  "impl \x7balias\x7dAccessors for \x7balias\x7d \x7b\n" ++
  "\x7bmethods\x7d\n" ++
  "    fn value(&self) -> Option<\x7balias\x7dRef<'_>> \x7b\n" ++
  "\x7bvalue_arms\x7d        None\n" ++
  "    \x7d\n" ++
  "\x7d\n" ++
  "\x7bconstructors\x7d"

/-- Replaces the names in braces of a text by their values, one name after the other. -/
def fill (text : String) (values : List (String × String)) : String :=
  values.foldl (fun text (name, value) ↦ Text.replaced ("\x7b" ++ name ++ "\x7d") value text) text

/-! ## Files -/

/-- A companion file. -/
structure Companion where
  path : String
  /-- The name of the alias. -/
  name : String
  contents : String
  deriving DecidableEq, Repr

/-- The path of the companion file of an alias in a source file. -/
def companionPath (source owner : String) : String :=
  let file := Path.stem source ++ "_" ++ Naming.snake owner ++ "_accessors.rs"
  match Path.parent? source with
  | some parent => Path.join parent file
  | none => file

/-- The values of the names in the texts of an alternative. -/
def valuesOf (owner : String) (a : Alternative) : List (String × String) :=
  [("alias", owner), ("alias_snake", Naming.snake owner), ("label", a.label),
    ("variant", a.variant), ("ty", a.type), ("slot", a.slot)]

/-- The methods of an alternative beside the others. -/
def methodsOf (owner : String) (all : List Alternative) (a : Alternative) : String :=
  let clears := String.join ((all.filter fun other ↦ other.slot != a.slot).map fun other ↦
    fill clearText [("slot", other.slot)])
  fill (fill methodText [("clears", clears)]) (valuesOf owner a)

/-- The text of a companion file. -/
def contents (owner : String) (all : List Alternative) : String :=
  let each := fun (text : String) ↦
    String.join (all.map fun a ↦ fill text (valuesOf owner a))
  fill fileText
    [("variants", each variantText), ("signatures", each signatureText),
      ("methods", "\n".intercalate (all.map (methodsOf owner all))),
      ("value_arms", each valueText), ("constructors", each constructorText), ("alias", owner)]

/-- The companion file of an alias, if it is one of a union. -/
def companion? (d : Definition) : Option Companion :=
  d.union.map fun u ↦
    ⟨companionPath d.origin.file d.name, d.name, contents d.name (alternatives u.alternatives)⟩

/-- The companion files of all unions of a catalog, sorted by name. -/
def all (c : Catalog) : List Companion :=
  c.unions.filterMap companion?

end ApiAtlas.Accessors

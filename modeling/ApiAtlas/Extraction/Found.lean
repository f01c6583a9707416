import ApiAtlas.Config
import ApiAtlas.Extraction.Annotation
import ApiAtlas.Naming
import ApiAtlas.TypeExpr.OfTree

/-!
# What items declare

A struct declares a record, or an alias if it only wraps one type. A fieldless enum declares an alias
of a string with its variants as values. An alias declares itself, as a union if its target is one. A
public function on a context and a request with a result declares a handler. Methods and constants
belong to types that may stand anywhere.
-/

namespace ApiAtlas.Extraction

open Source

/-- Where an item stands and what names are looked for in it. -/
structure Place where
  file : String
  space : String
  attributeName : String
  unionPrefix : String

/-- The place of the items of a module. -/
def Place.enter (p : Place) (name : String) : Place :=
  { p with space := if p.space.isEmpty then name else p.space ++ "::" ++ name }

/-- The origin of an identifier. -/
def Place.origin (p : Place) (ident : Ident) : Origin :=
  ⟨p.file, ident.line⟩

/-- Something that an item declares. -/
inductive Found
  | type (definition : Definition)
  | handler (handler : Handler)
  | methods (owner : String) (operations : List Operation)
  | constant (owner : String) (value : Json)

/-! ## Records -/

/-- An identifier without its raw mark. -/
def plainName (name : String) : String :=
  match name.toList with
  | 'r' :: '#' :: rest => String.ofList rest
  | cs => String.ofList cs

/-- A field of a record from its declaration. -/
def fieldOf (attributeName : String) (renameAll : Option String) (f : Source.Field) : ApiAtlas.Field :=
  let name := plainName (f.name.getD "")
  let notes := FieldNotes.ofAttributes attributeName f.attributes
  { name := name
    type := TypeExpr.ofTy f.type
    wireName :=
      if notes.isSkipped || notes.isFlattened then ""
      else
        match notes.wireName.or notes.serializedName, renameAll with
        | some wire, _ => wire
        | none, some rule => Naming.renameBy rule name
        | none, none => name
    directive := notes.directive.getD ""
    annotatedLocation := notes.location
    doc := notes.description.or (docText f.attributes)
    isEmbedded := notes.isFlattened
    discriminator := notes.discriminator
    isDeprecated := notes.isDeprecated }

/-- The definition that a struct declares. -/
def ofStruct (p : Place) (attributes : List Attribute) (name : Ident) (fields : Fields) :
    Definition :=
  let notes := TypeNotes.ofAttributes p.attributeName attributes
  let common : Definition :=
    { name := name.text, space := p.space, doc := notes.description.or (docText attributes)
      discriminatorValue := notes.discriminatorValue, origin := p.origin name }
  match fields with
  | .unnamed [f] => { common with kind := .simple, aliased := some (TypeExpr.ofTy f.type) }
  | .named fields =>
    let found := fields.map (fieldOf p.attributeName notes.renameAll)
    { common with
      fields := found
      embedded := (found.filter ApiAtlas.Field.isEmbedded).map fun f ↦ f.type.payload.1 }
  | _ => common

/-! ## Aliases -/

/-- Whether a variant carries no data. -/
def isUnit (v : Variant) : Bool :=
  match v.fields with
  | .unit => true
  | _ => false

/-- The value on the wire of a variant, unless it is skipped. -/
def variantValue? (attributeName : String) (renameAll : Option String) (v : Variant) : Option Json :=
  let notes := FieldNotes.ofAttributes attributeName v.attributes
  if notes.isSkipped then none
  else
    match notes.wireName.or notes.serializedName, renameAll with
    | some wire, _ => some (.string wire)
    | none, some rule => some (.string (Naming.renameBy rule v.name))
    | none, none => some (.string v.name)

/-- The definition that an enum declares; one with data declares none. -/
def ofEnum? (p : Place) (attributes : List Attribute) (name : Ident) (variants : List Variant) :
    Option Definition :=
  if variants.all isUnit then
    let notes := TypeNotes.ofAttributes p.attributeName attributes
    some
      { name := name.text, space := p.space, doc := notes.description.or (docText attributes)
        kind := .simple, aliased := some (.named "String")
        enumValues := variants.filterMap (variantValue? p.attributeName notes.renameAll)
        discriminatorValue := notes.discriminatorValue, origin := p.origin name }
  else none

/-- The definition that an alias declares. -/
def ofAlias (p : Place) (attributes : List Attribute) (name : Ident) (target : Ty) : Definition :=
  let notes := TypeNotes.ofAttributes p.attributeName attributes
  let aliased := TypeExpr.ofTy target
  let union := Union.detect? p.unionPrefix aliased
  { name := name.text, space := p.space, doc := notes.description.or (docText attributes)
    kind := if union.isSome then .union else .simple
    aliased := some aliased, union := union
    discriminatorValue := notes.discriminatorValue, discriminatorProperty := notes.discriminator
    origin := p.origin name }

/-! ## Methods and constants -/

/-- The literal that an expression is, under parentheses and attributes. -/
def literal? : Expr → Option Literal
  | .literal value => some value
  | .paren inner => literal? inner
  | .annotated _ inner => literal? inner
  | _ => none

/-- The text that a literal is. -/
def text? : Literal → Option String
  | .text s => some s
  | _ => none

/-- The value that an expression stands for as the last one of a body. -/
def returned : Expr → Expr
  | .giveBack (some value) => value
  | .annotated _ (.giveBack (some value)) => value
  | e => e

/-- The text that a body returns and does nothing else. -/
def returnedText? : List Stmt → Option String
  | [.expr value] => (literal? (returned value)).bind text?
  | _ => none

/-- Whether a parameter is a pattern with a type. -/
def isTyped : Param → Bool
  | .typed _ _ => true
  | .receiver _ => false
  | .variadic _ => false

/-- The method that a member of an implementation block declares. -/
def methodOf? : Member → Option Operation
  | .function f =>
    some ⟨f.name.text, docText f.attributes, f.params.countP isTyped, returnedText? f.body⟩
  | .other _ => none

/-- The last name of a type that is a path. -/
def lastName? : Ty → Option String
  | .path _ segments => segments.getLast?.map Segment.name
  | _ => none

/-- The value that a constant gives to the type it is declared with. -/
def constant? (type : Ty) (value : Expr) : Option Found :=
  match TypeExpr.ofTy type, literal? value with
  | .named name, some (.text s) => some (.constant name (.string s))
  | .named name, some (.int n _) =>
    if Decimal.isSigned64 n then some (.constant name (.ofNat n)) else none
  | _, _ => none

/-! ## Handlers -/

/-- Whether a text ends with another one. -/
def endsWith (text ending : String) : Bool :=
  ending.toList.isSuffixOf text.toList

/-- Whether a type is a context by its name, under references. -/
def isContext : Ty → Bool
  | .reference _ _ target => isContext target
  | .path _ segments =>
    match segments.getLast? with
    | some s => s.name == "Ctx" || endsWith s.name "Context"
    | none => false
  | _ => false

/-- The first type among generic arguments. -/
def firstType? : List GenericArg → Option Ty
  | [] => none
  | .type t :: _ => some t
  | _ :: rest => firstType? rest

/-- What a result type holds on success, without its wrappers. -/
def resultPayload? : Ty → Option TypeExpr
  | .path _ segments =>
    match segments.getLast? with
    | some s =>
      if endsWith s.name "Result" then
        (firstType? s.args).map fun t ↦ (TypeExpr.ofTy t).unwrapped
      else none
    | none => none
  | _ => none

/-- The type of a parameter that is a pattern with a type. -/
def paramType? : Param → Option Ty
  | .typed _ t => some t
  | .receiver _ => none
  | .variadic _ => none

/-- The handler that a function declares. -/
def handlerOf? (p : Place) (f : Function) : Option Handler :=
  match f.isPublic, f.params.filterMap paramType?, f.output.bind resultPayload? with
  | true, [context, request], some response =>
    if isContext context then
      some
        { name := f.name.text, space := p.space, doc := docText f.attributes
          request := (TypeExpr.ofTy request).unwrapped
          response := if response.isUnit then none else some response
          origin := p.origin f.name }
    else none
  | _, _, _ => none

end ApiAtlas.Extraction

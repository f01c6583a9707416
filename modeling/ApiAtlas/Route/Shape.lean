import ApiAtlas.Route.Basic
import ApiAtlas.Source.Parts

/-!
# Shapes of expressions

What route registrations are made of: texts, names of called functions, lists, methods and
handlers. Attributes on an expression never change its shape.
-/

namespace ApiAtlas.Route

open Source

/-- The text that an expression is, under references and parentheses. -/
def text? : Expr → Option String
  | .literal (.text s) => some s
  | .reference target => text? target
  | .paren inner => text? inner
  | .annotated _ inner => text? inner
  | _ => none

/-- The last name of an expression that is a path. -/
def lastName? : Expr → Option String
  | .path _ segments => segments.getLast?.map Segment.name
  | .annotated _ inner => lastName? inner
  | _ => none

/-- The elements of an array or of a macro call with a list; anything else is one element. -/
def elements : Expr → List Expr
  | .array es => es
  | .reference target => elements target
  | .macroCall es => es
  | .annotated _ inner => elements inner
  | e => [e]

/-- The texts among a list of arguments, each of which may be a list itself. -/
def texts (args : List Expr) : List String :=
  (args.flatMap elements).filterMap text?

/-- The method that an expression names, by a text or by a path. -/
def method? (e : Expr) : Option Method :=
  match text? e with
  | some s => Method.ofName? s
  | none => (lastName? e).bind Method.ofName?

/-! ## Handlers -/

/-- A handler as a registration mentions it. -/
structure HandlerRef where
  name : String
  tags : List String := []
  security : List Security := []
  deriving DecidableEq, Repr

namespace HandlerRef

/-- Adds a tag, once. -/
def addTag (h : HandlerRef) (tag : String) : HandlerRef :=
  if h.tags.contains tag then h else { h with tags := h.tags ++ [tag] }

/-- Adds a security requirement, once. -/
def addSecurity (h : HandlerRef) (requirement : Security) : HandlerRef :=
  if h.security.contains requirement then h
  else { h with security := h.security ++ [requirement] }

/-- The header of an API key unless another one is named. -/
def defaultHeader : String :=
  "X-API-Key"

/-- Follows an option of a registration, given by its name and arguments. -/
def applyOption (h : HandlerRef) (option : String) (args : List Expr) : HandlerRef :=
  match option with
  | "with_tags" => (texts args).foldl addTag h
  | "tags" => (texts args).foldl addTag h
  | "with_basic_auth" => h.addSecurity .basic
  | "with_bearer" => h.addSecurity (.bearer (texts args))
  | "with_bearer_auth" => h.addSecurity (.bearer (texts args))
  | "with_api_key" => h.addSecurity (.apiKey ((args.head?.bind text?).getD defaultHeader))
  | _ => h

/-- Follows an option that is given as an argument; only calls of named functions count. -/
def applyArgument (h : HandlerRef) : Expr → HandlerRef
  | .call callee args =>
    match lastName? callee with
    | some option => h.applyOption option args
    | none => h
  | .annotated _ inner => applyArgument h inner
  | _ => h

/-- Whether an expression is a call of a function or of a method. -/
def isCall : Expr → Bool
  | .call _ _ => true
  | .methodCall _ _ _ _ => true
  | .annotated _ inner => isCall inner
  | _ => false

/-- The handler that an expression mentions: a path, or a call of one of the wrapping functions with
options as further arguments or as methods. -/
def ofExpr? (wrappers : List String) : Expr → Option HandlerRef
  | .path _ segments => segments.getLast?.map fun s ↦ ⟨s.name, [], []⟩
  | .reference target => ofExpr? wrappers target
  | .paren inner => ofExpr? wrappers inner
  | .call callee (first :: options) =>
    match lastName? callee with
    | some name =>
      if wrappers.contains name then
        (ofExpr? wrappers first).map fun h ↦ options.foldl applyArgument h
      else none
    | none => none
  | .methodCall receiver method _ args =>
    if isCall receiver then
      (ofExpr? wrappers receiver).map fun h ↦ h.applyOption method.text args
    else none
  | .annotated _ inner => ofExpr? wrappers inner
  | _ => none

end HandlerRef

end ApiAtlas.Route

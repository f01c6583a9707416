import ApiAtlas.Route.Shape
import ApiAtlas.Route.Template

/-!
# Strategies

A route is registered by a method call of one of six shapes. Each shape has a strategy, which tells
whether a call has the shape and reads the routes off it.
-/

namespace ApiAtlas.Route

open Source

/-- A method call. -/
structure Call where
  receiver : Expr
  method : Ident
  args : List Expr

/-- The known shapes of registrations. -/
inductive Strategy
  /-- `.route("/users/:id", get(show).delete(remove))` -/
  | methodRouter
  /-- `router.get("/users/:id", show)` -/
  | verbCall
  /-- `app.at("/users/:id").get(show)` -/
  | resourceVerb
  /-- `.route("/users/{id}", web::get().to(show))` -/
  | routeTo
  /-- `router.handle("/users/<id>", show).method(Method::GET)` -/
  | methodQualifier
  /-- `router.handle("GET /users/{id}", show)` -/
  | dispatch
  deriving DecidableEq, Repr

/-- What a strategy reads off a call: the path and the method and the handler of each route. -/
structure Registration where
  method : Option Method
  path : String
  handler : Expr

/-! ## Methods on a router -/

/-- The methods and handlers of a chain such as `get(show).post(create)`, from the last one back. -/
def verbChainBack : Expr → List (Method × Expr)
  | .methodCall receiver method _ args =>
    match Method.ofName? method.text, args with
    | some verb, [handler] => (verb, handler) :: verbChainBack receiver
    | _, _ => verbChainBack receiver
  | .call callee [handler] =>
    match (lastName? callee).bind Method.ofName? with
    | some verb => [(verb, handler)]
    | none => []
  | .annotated _ inner => verbChainBack inner
  | _ => []

/-- The methods and handlers of a chain such as `get(show).post(create)`. -/
def verbChain (e : Expr) : List (Method × Expr) :=
  (verbChainBack e).reverse

/-- The routes of `.route("/users/:id", get(show).delete(remove))`. -/
def methodRouter? (call : Call) : Option (List Registration) :=
  match call.method.text, call.args with
  | "route", [path, chain] =>
    match text? path, verbChain chain with
    | some path, first :: rest =>
      some ((first :: rest).map fun (method, handler) ↦ ⟨some method, path, handler⟩)
    | _, _ => none
  | _, _ => none

/-! ## Verbs -/

/-- The route of `router.get("/users/:id", show)`. -/
def verbCall? (call : Call) : Option (List Registration) :=
  match call.args, Method.ofName? call.method.text with
  | [path, handler], some method => (text? path).map fun path ↦ [⟨some method, path, handler⟩]
  | _, _ => none

/-! ## Resources -/

/-- Joins two pieces of a path with one slash. -/
def joinPaths (first second : String) : String :=
  String.ofList (Text.trimFinal '/' first.toList) ++ "/" ++
    String.ofList (Text.trimLead '/' second.toList)

/-- The path of the resource that a chain of verbs hangs on; nested resources are joined. -/
def resourcePath? : Expr → Option String
  | .methodCall receiver method _ [arg] =>
    if method.text == "at" then
      match text? arg, resourcePath? receiver with
      | some segment, some path => some (joinPaths path segment)
      | some segment, none => some segment
      | none, _ => none
    else if (Method.ofName? method.text).isSome then resourcePath? receiver
    else none
  | .annotated _ inner => resourcePath? inner
  | _ => none

/-- The route of `app.at("/users/:id").get(show)`. -/
def resourceVerb? (call : Call) : Option (List Registration) :=
  match call.args, Method.ofName? call.method.text, resourcePath? call.receiver with
  | [handler], some method, some path => some [⟨some method, path, handler⟩]
  | _, _, _ => none

/-! ## Targets -/

/-- The method that a call such as `web::get()` names. -/
def calledMethod? : Expr → Option Method
  | .call callee [] => (lastName? callee).bind Method.ofName?
  | .annotated _ inner => calledMethod? inner
  | _ => none

/-- The method and the handler of `web::get().to(show)`. -/
def target? : Expr → Option (Method × Expr)
  | .methodCall receiver method _ [handler] =>
    if method.text == "to" then (calledMethod? receiver).map fun verb ↦ (verb, handler) else none
  | .annotated _ inner => target? inner
  | _ => none

/-- The path of the call of a given function at the start of a chain of methods. -/
def anchor? (function : String) : Expr → Option String
  | .methodCall receiver _ _ _ => anchor? function receiver
  | .call callee args => if lastName? callee == some function then args.head?.bind text? else none
  | .annotated _ inner => anchor? function inner
  | _ => none

/-- The route of `.route("/users/{id}", web::get().to(show))`, or of `.route(web::get().to(show))` on
a resource. The path of a scope comes first. -/
def routeTo? (call : Call) : Option (List Registration) :=
  match call.method.text, call.args with
  | "route", [path, target] =>
    match text? path, target? target with
    | some path, some (method, handler) =>
      let full :=
        match anchor? "scope" call.receiver with
        | some scope => joinPaths scope path
        | none => path
      some [⟨some method, full, handler⟩]
    | _, _ => none
  | "route", [target] =>
    match target? target, anchor? "resource" call.receiver with
    | some (method, handler), some path => some [⟨some method, path, handler⟩]
    | _, _ => none
  | _, _ => none

/-! ## Qualifiers -/

/-- The distinct members of a list, in order of their first occurrence. -/
def distinct {α : Type} [BEq α] (l : List α) : List α :=
  l.foldl (fun found a ↦ if found.contains a then found else found ++ [a]) []

/-- The path and the handler of `.handle("/users", show)`. -/
def registration? : Expr → Option (String × Expr)
  | .methodCall _ method _ [path, handler] =>
    if ["handle", "handle_func", "route"].contains method.text then
      (text? path).map fun path ↦ (path, handler)
    else none
  | .annotated _ inner => registration? inner
  | _ => none

/-- The routes of `router.handle("/users/<id>", show).methods(["GET", "PUT"])`. -/
def methodQualifier? (call : Call) : Option (List Registration) :=
  if call.method.text == "method" || call.method.text == "methods" then
    (registration? call.receiver).map fun (path, handler) ↦
      (distinct ((call.args.flatMap elements).filterMap method?)).map
        fun method ↦ ⟨some method, path, handler⟩
  else none

/-! ## Patterns -/

/-- Splits a method off the front of a pattern such as `GET /users`. -/
def splitPattern (pattern : String) : Option Method × String :=
  let cs := Text.trim pattern.toList
  let word := cs.takeWhile fun c ↦ !Text.isBlank c
  match cs.dropWhile fun c ↦ !Text.isBlank c with
  | [] => (none, String.ofList cs)
  | _ :: rest =>
    match Method.ofName? (String.ofList word) with
    | some method => (some method, String.ofList (Text.trimStart rest))
    | none => (none, String.ofList cs)

/-- The route of `router.handle("GET /users/{id}", show)`. -/
def dispatch? (call : Call) : Option (List Registration) :=
  match call.args with
  | [pattern, handler] =>
    if ["handle", "handle_func", "add"].contains call.method.text then
      (text? pattern).map fun pattern ↦
        let (method, path) := splitPattern pattern
        [⟨method, path, handler⟩]
    else none
  | _ => none

/-! ## All strategies -/

namespace Strategy

/-- The name of a strategy. -/
def name : Strategy → String
  | .methodRouter => "method-router"
  | .verbCall => "verb-call"
  | .resourceVerb => "resource-verb"
  | .routeTo => "route-to"
  | .methodQualifier => "method-qualifier"
  | .dispatch => "dispatch"

/-- All strategies, in the order in which they are asked. -/
def all : List Strategy :=
  [.methodRouter, .verbCall, .resourceVerb, .routeTo, .methodQualifier, .dispatch]

/-- What a strategy reads off a call, if the call has its shape. -/
def read? : Strategy → Call → Option (List Registration)
  | .methodRouter => methodRouter?
  | .verbCall => verbCall?
  | .resourceVerb => resourceVerb?
  | .routeTo => routeTo?
  | .methodQualifier => methodQualifier?
  | .dispatch => dispatch?

/-- Whether a call has the shape of a strategy. -/
def accepts (s : Strategy) (call : Call) : Bool :=
  (s.read? call).isSome

/-- Whether the receiver belongs to the shape, so that no other route is read off it. -/
def takesReceiver (s : Strategy) : Bool :=
  s == .methodQualifier

end Strategy

end ApiAtlas.Route

import ApiAtlas.Generator.Schema

/-!
# The generator

Makes component schemas on demand and keeps them. A component that is being made is marked as such,
so that types that refer to each other in a circle are made once. A session is a generator with the
notices reported so far; running a traced value in a session takes its steps in order.
-/

namespace ApiAtlas

/-- The state of a component. -/
inductive Slot
  | inProgress
  | ready (schema : Schema)

/-- The component of a slot, if it is made. -/
def Slot.schema? : Slot → Option Schema
  | .inProgress => none
  | .ready schema => some schema

/-- What has been made so far. -/
structure Generator where
  /-- The components, sorted by name. -/
  registry : List (String × Slot) := []
  /-- The labels of the unions already checked. -/
  checked : List String := []
  /-- Notices about unions, for the result of the run. -/
  diagnostics : List Notice := []

namespace Generator

/-- The components made so far. -/
def schemas (g : Generator) : List (String × Schema) :=
  g.registry.filterMap fun (name, slot) ↦ slot.schema?.map fun schema ↦ (name, schema)

/-- Marks a component as being made. -/
def start (g : Generator) (name : String) : Generator :=
  { g with registry := Keyed.insert name .inProgress g.registry }

/-- Stores a component. -/
def finish (g : Generator) (name : String) (schema : Schema) : Generator :=
  { g with registry := Keyed.insert name (.ready schema) g.registry }

end Generator

/-- A generator with the notices reported so far. -/
structure Session where
  generator : Generator := {}
  log : List Notice := []

namespace Session

/-- Reports notices. -/
def report (s : Session) (notices : List Notice) : Session :=
  { s with log := s.log ++ notices }

/-- Checks a union for alternatives that cannot be told apart, once per label. -/
def meet (env : Env) (s : Session) (label : String) (u : Union) : Session :=
  if env.config.subsetWarnings && !s.generator.checked.contains label then
    let notices := u.subsetNotices env.catalog label
    let next : Generator :=
      { s.generator with
        checked := label :: s.generator.checked
        diagnostics := s.generator.diagnostics ++ notices }
    ⟨next, s.log ++ notices⟩
  else s

/-- Takes a step, with a given way to make components. -/
def take (env : Env) (make : Session → String → Session) (s : Session) : Step → Session
  | .mention name => make s name
  | .meet label u => meet env s label u
  | .report notice => s.report [notice]

/-- Makes a component and those it mentions, unless it is made or being made. The depth bounds how
many components are being made at the same time; there are never more than types. -/
def makeWithin (env : Env) : (depth : Nat) → Session → String → Session
  | 0, s, _ => s
  | depth + 1, s, name =>
    match Keyed.get? name s.generator.registry, env.catalog.type? name with
    | none, some d =>
      let made := env.component d
      let inside := made.steps.foldl (take env (makeWithin env depth))
        { s with generator := s.generator.start name }
      { inside with generator := inside.generator.finish name made.value }
    | _, _ => s

/-- Makes a component and those it mentions. -/
def make (env : Env) (s : Session) (name : String) : Session :=
  makeWithin env env.catalog.types.length s name

/-- Runs a traced value. -/
def run {α : Type} (env : Env) (s : Session) (x : Traced α) : α × Session :=
  (x.value, x.steps.foldl (take env (make env)) s)

/-- Makes a component and gives its schema, if the name is known. -/
def generate (env : Env) (s : Session) (name : String) : Option Schema × Session :=
  let next := make env s name
  ((Keyed.get? name next.generator.registry).bind Slot.schema?, next)

end Session

end ApiAtlas

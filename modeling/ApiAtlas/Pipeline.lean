import ApiAtlas.Accessors
import ApiAtlas.Document.Builder
import ApiAtlas.Extraction
import ApiAtlas.Route.Search

/-!
# A whole run

From parsed source files to a document: the types and handlers are extracted, routes are searched,
and every route is added to the document. Unions that no route reaches are described as well.
-/

namespace ApiAtlas.Pipeline

open Source

/-- What a run counts. -/
structure Stats where
  files : Nat
  types : Nat
  handlers : Nat
  routes : Nat
  operations : Nat
  deriving DecidableEq, Repr

/-- The result of a run. -/
structure Output where
  document : Document
  diagnostics : List Notice
  accessors : List Accessors.Companion
  stats : Stats
  /-- All notices in order. -/
  log : List Notice

/-- Runs over parsed files. Routes are searched in files of their own, or in all files if there are
none. -/
def run (config : Config) (sources routeFiles : List SourceFile) : Output :=
  let (catalog, duplicates) := (Extraction.ofFiles config sources).catalog
  let routes := Route.ofFiles config (if routeFiles.isEmpty then sources else routeFiles)
  let env : Env := ⟨catalog, config⟩
  let start : Session := { log := duplicates ++ if routes.isEmpty then [.noRoutes] else [] }
  let (operations, builder, session) := Builder.addRoutes env (Builder.new config) start routes
  let session := catalog.unions.foldl (fun s d ↦ Session.make env s d.name) session
  { document := builder.build session.generator
    diagnostics := builder.diagnostics ++ session.generator.diagnostics
    accessors := Accessors.all catalog
    stats := ⟨sources.length, catalog.types.length, catalog.handlers.length, routes.length, operations⟩
    log := session.log }

end ApiAtlas.Pipeline

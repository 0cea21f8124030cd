import EntityAtlas.Build
import EntityAtlas.Document.Wire
import EntityAtlas.SurrogateTable

/-!
# A document service

A service builds the document of its source when it is first asked for, and then serves the same
document until it is told to rebuild. A build that fails leaves everything as it was: the document
that is served and the surrogates that go with it.
-/

set_option autoImplicit false

namespace EntityAtlas

/-- Why a document could not be built. -/
inductive Failure where
  /-- A mapping was refused. -/
  | refused (error : BuildError)
  /-- The source could not list its entities. -/
  | unreadable (message : String)
  /-- The source describes no entities at all. -/
  | unsupported

namespace Failure

/-- The kind of a failure. -/
def kind : Failure → String
  | .refused error => error.report.kind
  | .unreadable _ => "RuntimeError"
  | .unsupported => "NotImplementedError"

/-- The wording of a failure. -/
def message : Failure → String
  | .refused error => error.report.message
  | .unreadable message => message
  | .unsupported => ""

end Failure

/-! ## Sources -/

/-- Where entities come from. -/
structure Source where
  catalogue : Catalogue := {}
  /-- The catalogue that the next reload brings. -/
  staged : Option Catalogue := none
  /-- Why the entities cannot be listed at the moment. -/
  outage : Option Failure := none
  /-- Why the surrogates of a build cannot be kept at the moment. -/
  refusal : Option Failure := none
  reloads : Nat := 0

namespace Source

/-- All entities. -/
def list (source : Source) : Except Failure Catalogue :=
  match source.outage with
  | some failure => .error failure
  | none => .ok source.catalogue

/-- The entity with a key. A source that describes no entities cannot look any up. -/
def find? (source : Source) (key : String) : Except Failure (Option Entity) :=
  match source.outage with
  | some .unsupported => .error .unsupported
  | _ => .ok (source.catalogue.find? key)

/-- Surrogates as the source keeps them: every type has taken over those of its superclasses. -/
def keep (source : Source) (surrogates : SurrogateTable) : Except Failure SurrogateTable :=
  match source.refusal with
  | some failure => .error failure
  | none => .ok (SurrogateTable.inherited source.catalogue surrogates)

/-- The source after reading the mappings again. -/
def reload (source : Source) : Source :=
  { source with
    catalogue := source.staged.getD source.catalogue
    staged := none
    reloads := source.reloads + 1 }

end Source

/-- What a build brings: a document, and the surrogates that go with it. -/
structure Release where
  document : Document
  surrogates : SurrogateTable

/-- Builds the document of a source. The surrogates are kept last, when nothing else can fail. -/
def Source.release (source : Source) (options : BuildOptions) : Except Failure Release := do
  let catalogue ← source.list
  let edition ← (build catalogue options).mapError .refused
  let surrogates ← source.keep edition.surrogates
  return { document := edition.document, surrogates }

/-! ## The service -/

/-- A document with the number of the successful build that made it. -/
structure Publication where
  number : Nat
  document : Document

/-- A source with the document built from it, if any, and the surrogates that go with it. -/
structure Service where
  source : Source
  options : BuildOptions
  current : Option Publication := none
  surrogates : SurrogateTable := []
  /-- How many builds have succeeded. -/
  builds : Nat := 0
  /-- How many builds have been tried. -/
  attempts : Nat := 0

namespace Service

/-- Builds the document. Only success changes what is served. -/
def rebuild (service : Service) : Except Failure Publication × Service :=
  let service := { service with attempts := service.attempts + 1 }
  match service.source.release service.options with
  | .error failure => (.error failure, service)
  | .ok release =>
    let publication := { number := service.builds, document := release.document }
    (.ok publication,
      { service with
        current := some publication
        surrogates := release.surrogates
        builds := service.builds + 1 })

/-- The current document, built now if there is none. -/
def document (service : Service) : Except Failure Publication × Service :=
  match service.current with
  | some publication => (.ok publication, service)
  | none => service.rebuild

/-- The current document as a record. -/
def metadata (service : Service) : Except Failure Json × Service :=
  let (publication, service) := service.document
  (publication.map (·.document.toJson), service)

/-- The index of foreign keys of the current document. -/
def foreignKeys (service : Service) : Except Failure (List (String × String)) × Service :=
  let (publication, service) := service.document
  (publication.map (·.document.foreignKeys), service)

/-- Reads the mappings again and rebuilds the document. -/
def refresh (service : Service) : Except Failure Publication × Service :=
  { service with source := service.source.reload }.rebuild

end Service

end EntityAtlas

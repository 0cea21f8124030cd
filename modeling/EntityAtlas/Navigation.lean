import EntityAtlas.Association
import EntityAtlas.KeyCarrier
import EntityAtlas.Worksheet

/-!
# Navigation properties

How an association becomes a navigation property. What it says is settled by functions of the
mapping and of the data properties so far (`Entity.relatedType`, `Entity.foreignKeyColumns`,
`Scope.keyCarrier`); `describeAssociation` carries the outcome out on the worksheet.
-/

set_option autoImplicit false

namespace EntityAtlas

open ColumnName (associationName)

/-- The navigation property of an association, before its foreign key is known. -/
def Scope.navigation (scope : Scope) (entity : Entity) (association : Member) (related : TypeExpr)
    (columns : List String) : NavigationProperty :=
  { nameOnServer := association.name
    entityTypeName := some related.key
    isScalar := !association.isCollection
    associationName := some
      (associationName entity.type.name (scope.associationTypeName related association.name)
        columns)
    hasOrphanDelete := if scope.orphanDelete then some association.orphanDelete else none
    name := (scope.overrides.ofMember entity.type association.name).clientName? }

/-- A navigation property with the names of the members that carry its foreign key, on this end
or on the other. -/
def NavigationProperty.withKeyNames (navigation : NavigationProperty) (onThisEnd : Bool)
    (names : List (Option String)) : NavigationProperty :=
  if onThisEnd then { navigation with foreignKeyNames := some names }
  else { navigation with inverseForeignKeyNames := some names }

/-- Makes the navigation property of an association to one entity: settles what carries the
foreign key, records its columns, and for a part of the key marks the members that carry it. An
association over several columns that no member carries is recorded and then refused. -/
def describeReference (scope : Scope) (entity : Entity) (association : Member)
    (partOfKey : Bool) (related : TypeExpr) (columns : List String) :
    Describing NavigationProperty := do
  let carrier ← decided (scope.keyCarrier entity association related columns (← get).properties)
  let relationship := relationshipName entity.type association.name
  match carrier with
  | .nothing =>
    onDraft (Draft.recordForeignKey relationship columns)
    throw (.unresolvedForeignKey entity.type association.name columns)
  | .members _ => pure ()
  | .surrogate surrogate property => modify (·.addSurrogate entity surrogate property)
  onDraft (Draft.recordForeignKey relationship columns)
  if partOfKey then
    modify (·.markKey carrier.names)
  return (scope.navigation entity association related columns).withKeyNames
    association.keyOnDeclarer carrier.names

/-- Makes the navigation property of an association. A collection leaves the worksheet alone. -/
def describeAssociation (scope : Scope) (entity : Entity) (association : Member)
    (partOfKey : Bool) : Describing NavigationProperty := do
  let related ← decided (entity.relatedType association)
  let columns ← decided (entity.foreignKeyColumns association)
  if association.isCollection then
    let names ← decided (scope.collectionKeyNames association related columns)
    return { scope.navigation entity association related columns with
      inverseForeignKeyNames := names }
  else describeReference scope entity association partOfKey related columns

end EntityAtlas

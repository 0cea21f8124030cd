import EntityAtlas.ColumnSearch
import EntityAtlas.DataMember

/-!
# Carriers of foreign keys

Which members carry the foreign key of an association. A single column that no member carries
gets a surrogate on the entity that has the column; several such columns have no carrier. The
choice depends on what has been published before in one way only: a surrogate that the entity
already has is used again (`Scope.surrogateCarrier`).
-/

set_option autoImplicit false

namespace EntityAtlas

open ColumnName (pascal)

/-! ## Mapped members -/

namespace Scope

/-- The members on the other end that carry the key of a collection. Two collections that lead to
each other have no such members. -/
def collectionKeyNames (scope : Scope) (association : Member) (related : TypeExpr)
    (columns : List String) : Except BuildError (Option (List (Option String))) :=
  if association.manyToMany then .ok none
  else
    match scope.catalogue.find? related.key with
    | none => .ok none
    | some element => element.namesOver (columns.map some) true

/-- The members that carry the key of an association to one entity. They are looked for on the
end that has the key, and in the end on the entity itself. -/
def mappedKeyNames (scope : Scope) (entity : Entity) (association : Member) (related : TypeExpr)
    (columns : List String) : Except BuildError (Option (List (Option String))) := do
  let onOtherEnd ←
    match association.keyOnDeclarer, scope.catalogue.find? related.key with
    | false, some other => other.namesOver (columns.map some) true
    | _, _ => pure none
  match onOtherEnd with
  | some names => return some names
  | none => entity.namesOver (columns.map some) true

end Scope

/-! ## Carriers -/

/-- What carries the foreign key of an association to one entity. -/
inductive KeyCarrier where
  /-- Members with these names. -/
  | members (names : List (Option String))
  /-- A new surrogate, with its data property. -/
  | surrogate (surrogate : Surrogate) (property : DataProperty)
  /-- Nothing: there are several columns, and no member carries any. -/
  | nothing

/-- The names of the members that carry a foreign key. -/
def KeyCarrier.names : KeyCarrier → List (Option String)
  | .members names => names
  | .surrogate made _ => [some made.name]
  | .nothing => []

namespace Scope

/-- The surrogate for a column, named after it: one that the entity already has, or a new one
typed like the identifier of the related entity. -/
def surrogateCarrier (scope : Scope) (entity : Entity) (association : Member)
    (related : TypeExpr) (column : String) (properties : List DataProperty) :
    Except BuildError KeyCarrier :=
  let name := pascal column
  if (findProperty? properties (some name)).any (·.isUnmapped) then .ok (.members [some name])
  else
    match (scope.catalogue.find? related.key).bind (·.identifier) with
    | none => .error (.missingEntity entity.type related association.name column)
    | some identifier =>
      .ok (.surrogate
        { name
          association := association.name
          relatedType := related
          keyType := identifier.type
          keyName := identifier.name
          isNullable := association.nullable }
        { DataProperty.scalar (some (scope.overrides.ofMember entity.type (some name)))
            (some name) identifier.type.name (.ofBool association.nullable) identifier.length with
          isUnmapped := true })

/-- What carries the foreign key of an association to one entity, where the entity has the given
data properties so far. A key on the other end that no member carries is named as the surrogate
over there will be. -/
def keyCarrier (scope : Scope) (entity : Entity) (association : Member) (related : TypeExpr)
    (columns : List String) (properties : List DataProperty) : Except BuildError KeyCarrier := do
  match ← scope.mappedKeyNames entity association related columns with
  | some names => return .members names
  | none =>
    match columns with
    | [column] =>
      if association.keyOnDeclarer then
        scope.surrogateCarrier entity association related column properties
      else return .members [some (pascal column)]
    | _ => return .nothing

end Scope

end EntityAtlas

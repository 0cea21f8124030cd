import EntityAtlas.Ascending
import EntityAtlas.Catalogue
import EntityAtlas.Mapper.Identifier

/-!
# Registries of mappers

All mappers of an application, described as a catalogue of entities. A class is named in other
mappers by its class name alone; of several classes with one name the last is meant.
-/

set_option autoImplicit false

namespace EntityAtlas

namespace MapperRegistry

/-- The position of the last mapper of a class. -/
def position? (registry : MapperRegistry) (className : String) : Option Nat :=
  ((registry.mappers.zipIdx.filter (·.1.className == className)).getLast?).map (·.2)

/-- The last mapper of a class. -/
def find? (registry : MapperRegistry) (className : String) : Option Mapper :=
  (registry.mappers.filter (·.className == className)).getLast?

/-- The type of a class, by its mapper if it has one. -/
def typeOf (registry : MapperRegistry) (className : String) : TypeExpr :=
  ((registry.find? className).map (·.type)).getD { name := className }

/-- Whether a mapper is the one at a position or extends it in at most so many steps. -/
def descends (registry : MapperRegistry) (ancestor : Nat) : Nat → Nat → Bool
  | 0, position => position == ancestor
  | steps + 1, position =>
    position == ancestor ||
      match (registry.mappers[position]?.bind (·.inherits)).bind registry.position? with
      | some base => registry.descends ancestor steps base
      | none => false

/-- Whether the class at a position shares its table with another class of its hierarchy. -/
def sharesTable (registry : MapperRegistry) (position : Nat) : Bool :=
  registry.mappers.zipIdx.any fun (mapper, other) =>
    mapper.isSingle && registry.descends position registry.mappers.length other

/-- The member of a relationship. Over a table in between, both ends see the same columns of that
table; otherwise the columns are on this end for a many-to-one relationship, and on the other end
for any other. -/
def relationshipMember (registry : MapperRegistry) (name : String) (relationship : Relationship) :
    Member :=
  let target := registry.typeOf relationship.target
  let base : Member :=
    { name := some name
      type :=
        if relationship.isList then
          { name := relationship.collection.getD "list", arguments := [target] }
        else target
      isAssociation := true
      isCollection := relationship.isList
      orphanDelete := relationship.deleteOrphan }
  match relationship.secondary with
  | some columns =>
    let names := (columns.filter (·.isForeignKey)).map (·.name)
    { base with
      manyToMany := true
      referencedColumns := (ascending (fun left right => decide (left ≤ right)) names).map some }
  | none =>
    if relationship.isManyToOne then
      { base with
        columns := relationship.pairs.map (some ·.1.name)
        nullable := relationship.pairs.all (·.1.nullable) }
    else
      { base with
        referencedColumns := relationship.pairs.map (some ·.2.name)
        keyOnDeclarer := false }

/-- The members that an attribute of a mapper makes: one, or none for columns that are claimed by
the key or by a composite. -/
def attributeMembers (registry : MapperRegistry) (mapper : Mapper) :
    String × Attribute → List Member
  | (name, .columns columns) =>
    if mapper.claims columns then [] else (columnMember name columns).toList
  | (name, .composite type columns) => [compositeMember name type columns]
  | (name, .relationship relationship) => [registry.relationshipMember name relationship]
  | (_, .other) => []

/-- Whether a column stores a part of the natural key. An expression stores nothing. -/
def storesNaturalKey (column : TableColumn) : Bool := column.isNaturalKey && !column.isExpression

/-- The attributes over columns of the natural key. -/
def naturalKey (mapper : Mapper) : List (Option String) :=
  mapper.attributes.filterMap fun (name, content) =>
    match content with
    | .columns columns =>
      if !mapper.claims columns && columns.any storesNaturalKey then some (some name) else none
    | _ => none

/-- The mapper at a position as an entity. -/
def entityOf (registry : MapperRegistry) (attributeOf : AttributeLookup) (mapper : Mapper)
    (position : Nat) : Except UnmappedColumn Entity := do
  let (identifier, keySource) ← mapper.identifier attributeOf
  let versionMember ←
    match mapper.version with
    | some column => (attributeOf column).map some
    | none => pure none
  return {
    type := mapper.type
    identifier
    keyColumns := mapper.primaryKey.map (some ·.name)
    members := mapper.attributes.flatMap (registry.attributeMembers mapper)
    superclass := mapper.inherits.map registry.typeOf
    keySource
    naturalKey := naturalKey mapper
    versionMember
    discriminator :=
      if mapper.isPolymorphic && registry.sharesTable position then mapper.identity else .null
    mappedClass := some (mapper.space ++ "." ++ mapper.className) }

/-- Whether a mapper stands before another: by namespace, then by class. -/
def inOrder (left right : Mapper × Nat) : Bool :=
  decide (left.1.space < right.1.space) ||
    (left.1.space == right.1.space && decide (left.1.className ≤ right.1.className))

/-- Describes mappers in order. -/
def entitiesOf (registry : MapperRegistry) :
    List (Mapper × Nat) → Except UnmappedColumn (List Entity)
  | [] => .ok []
  | (mapper, position) :: rest => do
    let entity ← registry.entityOf mapper.attributeOf mapper position
    let entities ← registry.entitiesOf rest
    return entity :: entities

/-- The catalogue of the mapped classes, by namespace and class name. -/
def catalogue (registry : MapperRegistry) : Except UnmappedColumn Catalogue := do
  let entities ← registry.entitiesOf (ascending inOrder registry.mappers.zipIdx)
  return { entities }

end MapperRegistry

end EntityAtlas

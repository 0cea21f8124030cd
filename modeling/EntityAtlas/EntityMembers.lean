import EntityAtlas.Embedding
import EntityAtlas.Navigation

/-!
# Members of an entity type

How the members of an entity are sorted into data properties and navigation properties. Members
that a participating ancestor declares are left to it, and ignored members are left out. Data
properties are made first, because the foreign keys of associations are looked up among them. The
identifier, or the scalar parts of a composite one, comes before all other data properties, and
what has no mapping comes after them.
-/

set_option autoImplicit false

namespace EntityAtlas

/-- The data property of a member that is no association, as a member of an entity. -/
def draftMember (scope : Scope) (entity : Entity) (member : Member) : Drafting DataProperty :=
  match member.embedded? with
  | some component => do
    let complexTypeName ← publishComponent scope component
    return scope.embeddedProperty entity.type member complexTypeName
  | none => do
    let property ← draftScalar scope entity.type member member.nullable
    return { property with
      isPartOfKey := entity.naturalKey.contains member.name
      isConcurrencyToken := member.name == entity.versionMember }

/-- The data properties of the members that are no associations, in order. -/
def draftMembers (scope : Scope) (entity : Entity) (inherited : List (Option String)) :
    List Member → Drafting (List DataProperty)
  | [] => pure []
  | member :: rest => do
    if inherited.contains member.name || member.isAssociation
        || (scope.overrides.ofMember entity.type member.name).ignored.holds then
      draftMembers scope entity inherited rest
    else
      let property ← draftMember scope entity member
      let properties ← draftMembers scope entity inherited rest
      return property :: properties

/-- The data property of a part of the key. -/
def draftKey (scope : Scope) (entity : Entity) (part : Member) (isNullable : Bool) :
    Drafting DataProperty := do
  let property ← draftScalar scope entity.type part isNullable
  return { property with isPartOfKey := true }

/-- Puts the scalar parts of a composite identifier in front, from a position on, and gives the
navigation properties of the other parts. -/
def describeKeyParts (scope : Scope) (entity : Entity) (inherited : List (Option String)) :
    Nat → List Member → Describing (List NavigationProperty)
  | _, [] => pure []
  | position, part :: rest => do
    if inherited.contains part.name then
      describeKeyParts scope entity inherited position rest
    else if part.isAssociation then
      let navigation ← describeAssociation scope entity part true
      let navigations ← describeKeyParts scope entity inherited position rest
      return navigation :: navigations
    else
      let property ← onDraft (draftKey scope entity part part.nullable)
      modify (·.insertProperty position property)
      describeKeyParts scope entity inherited (position + 1) rest

/-- Puts the identifier in front of the data properties. A single identifier is never null. -/
def describeIdentifier (scope : Scope) (entity : Entity) (inherited : List (Option String)) :
    Describing (List NavigationProperty) :=
  match entity.identifier, entity.keyParts? with
  | none, _ => pure []
  | some _, some parts => describeKeyParts scope entity inherited 0 parts
  | some identifier, none => do
    if !inherited.contains identifier.name then
      let property ← onDraft (draftKey scope entity identifier false)
      modify (·.insertProperty 0 property)
    return []

/-- The data properties of members that the application declares without a mapping. -/
def customProperties (scope : Scope) (entity : Entity) : List DataProperty :=
  let mapped := entity.memberNames ++ entity.identifierNames
  ((scope.overrides.ofType entity.type).members.filter fun (name, override) =>
      !override.ignored.holds && (override.isCustom.holds || !mapped.contains (some name))).map
    fun (name, override) =>
      { DataProperty.scalar (some override) (some name) override.dataTypeName override.isNullable
          none with
        isUnmapped := true }

/-- The navigation properties of the associations, in order. For an inherited association the
entity only gets a place for surrogates, which it will share with its ancestor. -/
def describeAssociations (scope : Scope) (entity : Entity) (inherited : List (Option String)) :
    List Member → Describing (List NavigationProperty)
  | [] => pure []
  | member :: rest => do
    if !member.isAssociation then
      describeAssociations scope entity inherited rest
    else if inherited.contains member.name then
      onDraft (modify (·.ensureSurrogates entity.type))
      describeAssociations scope entity inherited rest
    else if (scope.overrides.ofMember entity.type member.name).ignored.holds then
      describeAssociations scope entity inherited rest
    else
      let navigation ← describeAssociation scope entity member false
      let navigations ← describeAssociations scope entity inherited rest
      return navigation :: navigations

/-- Fills the worksheet with the data properties of an entity and gives its navigation
properties. -/
def describeMembers (scope : Scope) (entity : Entity) : Describing (List NavigationProperty) := do
  let inherited := scope.inheritedNames entity
  let properties ← onDraft (draftMembers scope entity inherited entity.members)
  modify ({ · with properties })
  let keyNavigations ← describeIdentifier scope entity inherited
  modify fun sheet =>
    { sheet with properties := sheet.properties ++ customProperties scope entity }
  let navigations ← describeAssociations scope entity inherited entity.members
  return keyNavigations ++ navigations

/-- The data properties and the navigation properties of an entity. -/
def describeEntity (scope : Scope) (entity : Entity) :
    Drafting (List DataProperty × List NavigationProperty) := fun draft =>
  match describeMembers scope entity { draft } with
  | .ok navigations sheet => .ok (sheet.properties, navigations) sheet.draft
  | .error error sheet => .error error sheet.draft

end EntityAtlas

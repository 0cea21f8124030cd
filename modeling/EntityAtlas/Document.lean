import EntityAtlas.Datum
import EntityAtlas.Mapping

/-!
# Published documents

The document that clients read: structural types with their data and navigation properties,
resource names and enumerations. Beside it stands the index of foreign keys, which stays on the
server. A built document has all its names; in one that is put together otherwise some may be
missing.
-/

set_option autoImplicit false

namespace EntityAtlas

/-- A check that a client runs on a value. -/
structure Validator where
  name : String
  maxLength : Option Int := none

/-- What a data property holds: a value of a data type, or of a complex type. -/
inductive PropertyType where
  | data (name : Option String)
  | complex (typeName : String)

/-- A scalar or complex member of a structural type. -/
structure DataProperty where
  nameOnServer : Option String := none
  type : PropertyType
  isNullable : Datum := .ofBool true
  /-- What clients see in place of the name on the server. -/
  name : Option Datum := none
  /-- The default value; null for none. -/
  defaultValue : Datum := .null
  isPartOfKey : Bool := false
  isConcurrencyToken : Bool := false
  maxLength : Option Int := none
  validators : List Validator := []
  isUnmapped : Bool := false

/-- A member of a structural type that leads to another entity type. -/
structure NavigationProperty where
  nameOnServer : Option String := none
  entityTypeName : Option String := none
  isScalar : Bool := false
  associationName : Option String := none
  hasOrphanDelete : Option Bool := none
  /-- What clients see in place of the name on the server. -/
  name : Option Datum := none
  /-- The members that carry the foreign key on this end. -/
  foreignKeyNames : Option (List (Option String)) := none
  /-- The members that carry the foreign key on the other end. -/
  inverseForeignKeyNames : Option (List (Option String)) := none

/-- What a structural type is: an embedded type, or an entity type with its base, its source of
keys and its resource. -/
inductive TypeRole where
  | complex
  | entity (baseTypeName keyGeneration resourceName : Option String)

/-- An entity type or a complex type. -/
structure StructuralType where
  shortName : Option String := none
  space : Option String := none
  role : TypeRole
  dataProperties : List DataProperty := []
  navigationProperties : List NavigationProperty := []

namespace StructuralType

/-- The key by which clients know the type. -/
def key (type : StructuralType) : String :=
  shownName type.shortName ++ ":#" ++ shownName type.space

/-- The key of a type with names is that of the type it publishes. -/
theorem key_of_names (type : TypeExpr) (role : TypeRole) :
    key { shortName := some type.name, space := some type.space, role } = type.key := rfl

/-- The first data property with a name. -/
def dataProperty? (type : StructuralType) (name : Option String) : Option DataProperty :=
  type.dataProperties.find? (·.nameOnServer == name)

/-- The first navigation property with a name. -/
def navigationProperty? (type : StructuralType) (name : Option String) :
    Option NavigationProperty :=
  type.navigationProperties.find? (·.nameOnServer == name)

/-- An embedded type without members yet. -/
def emptyComplex (type : TypeExpr) : StructuralType :=
  { shortName := some type.name, space := some type.space, role := .complex }

end StructuralType

/-- An enumeration as clients see it. -/
structure EnumType where
  shortName : String
  space : String := ""
  values : List String := []

/-- The comparison rules that clients use in local queries unless told otherwise. -/
def defaultComparisonOptions : String := "caseInsensitiveSQL"

/-- A finished document with the index of foreign keys. -/
structure Document where
  comparisonOptions : String := defaultComparisonOptions
  structuralTypes : List StructuralType := []
  /-- Resource names with the type keys they stand for. -/
  resources : List (String × String) := []
  enumTypes : List EnumType := []
  /-- Associations with the names of their foreign key columns, joined by commas. -/
  foreignKeys : List (String × String) := []

/-- The first structural type with a key. -/
def Document.type? (document : Document) (key : String) : Option StructuralType :=
  document.structuralTypes.find? (·.key == key)

end EntityAtlas

import EntityAtlas.Document

/-!
# Documents on the wire

The records that clients read. What holds by default is left out: empty names, null defaults,
flags that are off, absent lengths and lists. The order of the fields is fixed, so the same
document always has the same text.
-/

set_option autoImplicit false

namespace EntityAtlas

open Json (field field?)

/-- Names, each a text or null. -/
def Json.ofNames (names : List (Option String)) : Json := .list (names.map .ofText?)

/-- Pairs of texts as the fields of a record. -/
def Json.ofPairs (pairs : List (String × String)) : Json :=
  .record (pairs.map fun (name, value) => (name, .text value))

/-- A name as a field, if there is one and it is not empty. -/
def nameField (label : String) (name : Option String) : List (String × Json) :=
  field? label ((name.filter (· ≠ "")).map .text)

/-- What clients see in place of a name as a field, if it counts as true. -/
def clientNameField (name : Option Datum) : List (String × Json) :=
  field? "name" ((name.filter (·.holds)).map (·.toJson))

/-- A validator as a record. -/
def Validator.toJson (validator : Validator) : Json :=
  .record
    (field? "maxLength" (validator.maxLength.map .integer) ++ [("name", .text validator.name)])

/-- What a data property holds, as a field. -/
def PropertyType.toField : PropertyType → String × Json
  | .data name => ("dataType", .ofText? name)
  | .complex typeName => ("complexTypeName", .text typeName)

/-- A data property as a record. -/
def DataProperty.toJson (property : DataProperty) : Json :=
  .record
    (nameField "nameOnServer" property.nameOnServer ++
      [property.type.toField, ("isNullable", property.isNullable.toJson)] ++
      clientNameField property.name ++
      field (!property.defaultValue.isNull) "defaultValue" property.defaultValue.toJson ++
      field property.isPartOfKey "isPartOfKey" (.bool true) ++
      field property.isConcurrencyToken "concurrencyMode" (.text "Fixed") ++
      field? "maxLength" (property.maxLength.map .integer) ++
      field (!property.validators.isEmpty) "validators"
        (.list (property.validators.map (·.toJson))) ++
      field property.isUnmapped "isUnmapped" (.bool true))

/-- A navigation property as a record. -/
def NavigationProperty.toJson (property : NavigationProperty) : Json :=
  .record
    ([ ("nameOnServer", .ofText? property.nameOnServer),
        ("entityTypeName", .ofText? property.entityTypeName),
        ("isScalar", .bool property.isScalar),
        ("associationName", .ofText? property.associationName) ] ++
      field? "hasOrphanDelete" (property.hasOrphanDelete.map .bool) ++
      clientNameField property.name ++
      field? "foreignKeyNamesOnServer" (property.foreignKeyNames.map .ofNames) ++
      field? "invForeignKeyNamesOnServer" (property.inverseForeignKeyNames.map .ofNames))

/-- A structural type as a record. A complex type has data properties only. -/
def StructuralType.toJson (type : StructuralType) : Json :=
  let dataProperties := ("dataProperties", Json.list (type.dataProperties.map (·.toJson)))
  match type.role with
  | .complex =>
    .record
      [ ("shortName", .ofText? type.shortName), ("namespace", .ofText? type.space),
        ("isComplexType", .bool true), dataProperties ]
  | .entity baseTypeName keyGeneration resourceName =>
    .record
      ([("shortName", .ofText? type.shortName), ("namespace", .ofText? type.space)] ++
        nameField "baseTypeName" baseTypeName ++
        nameField "autoGeneratedKeyType" keyGeneration ++
        [ ("defaultResourceName", .ofText? resourceName), dataProperties,
          ("navigationProperties", .list (type.navigationProperties.map (·.toJson))) ])

/-- An enumeration as a record. -/
def EnumType.toJson (type : EnumType) : Json :=
  .record
    [ ("shortName", .text type.shortName), ("namespace", .text type.space),
      ("values", .list (type.values.map .text)) ]

/-- The document as clients read it. -/
def Document.toJson (document : Document) : Json :=
  .record
    [ ("localQueryComparisonOptions", .text document.comparisonOptions),
      ("structuralTypes", .list (document.structuralTypes.map (·.toJson))),
      ("resourceEntityTypeMap", .ofPairs document.resources),
      ("enumTypes", .list (document.enumTypes.map (·.toJson))) ]

/-- The index of foreign keys as a record. -/
def Document.foreignKeysJson (document : Document) : Json := .ofPairs document.foreignKeys

end EntityAtlas

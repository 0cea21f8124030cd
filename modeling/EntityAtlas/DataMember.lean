import EntityAtlas.DataType
import EntityAtlas.Draft
import EntityAtlas.Scope

/-!
# Data properties of members

How a scalar or embedded member becomes a data property. The validators of a scalar come in a
fixed order: required, maximal length, and the validator of the data type.
-/

set_option autoImplicit false

namespace EntityAtlas

namespace DataProperty

/-- The validators of a scalar. -/
def scalarValidators (isNullable : Datum) (length : Option Int) (dataType : String) :
    List Validator :=
  (if isNullable.holds then [] else [{ name := "required" }]) ++
    (length.map fun length => { name := "maxLength", maxLength := some length }).toList ++
    ((DataType.validator? dataType).map fun name => { name := name }).toList

/-- The data property of a scalar of a mapped type, under what was said about it. -/
def scalar (override : Option MemberOverride) (name : Option String) (typeName : String)
    (isNullable : Datum) (length : Option Int) : DataProperty :=
  let dataType := DataType.clientName typeName
  { nameOnServer := name
    type := .data (some dataType)
    isNullable
    name := override.bind (·.clientName?)
    defaultValue := (override.map (·.defaultValue)).getD .null
    maxLength := length
    validators := scalarValidators isNullable length dataType }

/-- The data property of an embedded member, under what was said about it. -/
def embedded (override : Option MemberOverride) (name : Option String) (complexTypeName : String)
    (isNullable : Bool) : DataProperty :=
  { nameOnServer := name
    type := .complex complexTypeName
    isNullable := .ofBool isNullable
    name := override.bind (·.clientName?) }

end DataProperty

/-- The first data property with a name. -/
def findProperty? (properties : List DataProperty) (name : Option String) : Option DataProperty :=
  properties.find? (·.nameOnServer == name)

namespace Scope

/-- The data property of a scalar member. -/
def scalarProperty (scope : Scope) (owner : TypeExpr) (member : Member) (isNullable : Bool) :
    DataProperty :=
  .scalar (some (scope.overrides.ofMember owner member.name)) member.name member.type.name
    (.ofBool isNullable) member.length

/-- The data property of an embedded member. -/
def embeddedProperty (scope : Scope) (owner : TypeExpr) (member : Member)
    (complexTypeName : String) : DataProperty :=
  .embedded (some (scope.overrides.ofMember owner member.name)) member.name complexTypeName
    member.nullable

end Scope

/-- The draft with the enumeration of a member, if it has one. -/
def Draft.listEnumerationOf (draft : Draft) (member : Member) : Draft :=
  match member.enumeration with
  | some enumeration => draft.listEnumeration enumeration
  | none => draft

/-- Publishes the enumeration of a scalar member and gives its data property. -/
def draftScalar (scope : Scope) (owner : TypeExpr) (member : Member) (isNullable : Bool) :
    Drafting DataProperty := do
  modify (·.listEnumerationOf member)
  return scope.scalarProperty owner member isNullable

end EntityAtlas

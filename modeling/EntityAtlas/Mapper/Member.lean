import EntityAtlas.Mapper

/-!
# Members over columns

The members that columns and composites of columns make, and where the values of a key column come
from.
-/

set_option autoImplicit false

namespace EntityAtlas

namespace TableColumn

/-- The types of texts, which have a length. -/
def textTypes : List String :=
  [ "String", "Text", "Unicode", "UnicodeText", "VARCHAR", "NVARCHAR", "CHAR", "NCHAR", "TEXT",
    "CLOB" ]

/-- The type of the values of a column. A type with a short name has its full name here. -/
def valueType (column : TableColumn) : TypeExpr :=
  { name := if column.typeName = "INT" then "INTEGER" else column.typeName }

/-- The scalar member that a column makes. -/
def toMember (column : TableColumn) (name : String) : Member :=
  { name := some name
    type := column.valueType
    nullable := column.nullable
    columns := [some column.name]
    length := if textTypes.contains column.typeName then column.length else none
    enumeration := if column.typeName = "Enum" then column.enumeration else none }

/-- Where the values of a single key column come from. -/
def keySource (column : TableColumn) : KeySource :=
  if column.isNumbered then .identity
  else if column.hasDefault then .generator
  else if column.isForeignKey then .foreign
  else .assigned

end TableColumn

/-- Whether a column is among some columns. -/
def holdsColumn (columns : List TableColumn) (column : TableColumn) : Bool :=
  columns.any (·.label == column.label)

/-- The member of an attribute over columns. An expression has no column. -/
def columnMember (name : String) (columns : List TableColumn) : Option Member :=
  match columns with
  | [] => none
  | first :: _ =>
    if first.isExpression then
      some { name := some name, type := first.valueType, columns := [none] }
    else
      let stored := columns.filter (!·.isExpression)
      some
        { first.toMember name with
          columns := stored.map (some ·.name)
          nullable := stored.all (·.nullable) }

/-- The member of a composite. Its parts are named after the fields of a record class, else after
the columns. -/
def compositeMember (name : String) (composite : CompositeClass) (columns : List TableColumn) :
    Member :=
  let type : TypeExpr := { name := composite.name, space := composite.space }
  let names := composite.fields.getD (columns.map (·.key))
  { name := some name
    type
    nullable := columns.all (·.nullable)
    columns := columns.map (some ·.name)
    isEmbedded := true
    component := some
      { type, members := (names.zip columns).map fun (name, column) => column.toMember name } }

end EntityAtlas

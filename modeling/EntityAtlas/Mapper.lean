import EntityAtlas.Mapping

/-!
# Relational mappers

A mapper ties a class to table columns: its primary key, and its attributes, which are columns,
composites of columns, or relationships over pairs of columns.
-/

set_option autoImplicit false

namespace EntityAtlas

/-- A column of a table, or an expression in the place of one. Columns are told apart by their
label. -/
structure TableColumn where
  label : String
  name : String := ""
  /-- The name of the column on the side of the program. -/
  key : String := ""
  typeName : String := "Integer"
  length : Option Int := none
  nullable : Bool := true
  hasDefault : Bool := false
  isForeignKey : Bool := false
  /-- Whether the table numbers its rows by this column. -/
  isNumbered : Bool := false
  /-- Whether the column is part of the natural key. -/
  isNaturalKey : Bool := false
  isExpression : Bool := false
  /-- The class whose members the column stores. -/
  enumeration : Option Enumeration := none

/-- A class made of columns; a record class has fields with names. -/
structure CompositeClass where
  name : String
  space : String
  fields : Option (List String) := none

/-- A relationship to the class of another mapper. -/
structure Relationship where
  target : String
  /-- The columns on this end with those on the other. -/
  pairs : List (TableColumn × TableColumn) := []
  /-- The columns of the table between the two ends, if there is one. -/
  secondary : Option (List TableColumn) := none
  isManyToOne : Bool := true
  isList : Bool := false
  /-- The name of the class that collects the related instances. -/
  collection : Option String := none
  deleteOrphan : Bool := false

/-- What an attribute is mapped to. -/
inductive Attribute where
  | columns (columns : List TableColumn)
  | composite (type : CompositeClass) (columns : List TableColumn)
  | relationship (relationship : Relationship)
  /-- Something that is not published. -/
  | other

/-- The mapping of one class. -/
structure Mapper where
  className : String
  space : String
  primaryKey : List TableColumn := []
  /-- The attributes by name, in the order of the mapping. -/
  attributes : List (String × Attribute) := []
  /-- The class that the class extends. -/
  inherits : Option String := none
  version : Option TableColumn := none
  /-- Whether a column tells the classes of the hierarchy apart. -/
  isPolymorphic : Bool := false
  identity : Json := .null
  /-- Whether the class shares the table of the class that it extends. -/
  isSingle : Bool := false

/-- The type of the mapped class. -/
def Mapper.type (mapper : Mapper) : TypeExpr := { name := mapper.className, space := mapper.space }

/-- A column that no attribute holds. -/
structure UnmappedColumn where
  column : TableColumn

/-- All mappers of an application. -/
structure MapperRegistry where
  mappers : List Mapper

end EntityAtlas

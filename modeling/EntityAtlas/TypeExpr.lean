/-!
# Type expressions

A type expression names a mapped or primitive type. A collection carries the type of its
elements either as its one argument or as an element type of its own.
-/

set_option autoImplicit false

namespace EntityAtlas

/-- A type by name and namespace, with its arguments and its element type. -/
structure TypeExpr where
  name : String
  /-- The namespace, empty for a type that has none. -/
  space : String := ""
  arguments : List TypeExpr := []
  element : Option TypeExpr := none
deriving Inhabited

namespace TypeExpr

/-- The key by which clients know the type. The separator stands there also without a
namespace. -/
def key (type : TypeExpr) : String := type.name ++ ":#" ++ type.space

/-- The name with its namespace in front, if it has one. -/
def fullName (type : TypeExpr) : String :=
  if type.space = "" then type.name else type.space ++ "." ++ type.name

end TypeExpr

end EntityAtlas

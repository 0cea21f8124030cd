import EntityAtlas.Decimal
import EntityAtlas.Json.Display

/-!
# Data that an application gives

What an application may give where a document holds a value of any kind: a JSON value, a class, or
a decimal number. It is kept as it was given. Whether it counts as true, how it reads as a name and
what a document shows of it are functions of it.
-/

set_option autoImplicit false

namespace EntityAtlas

/-- A value as an application gives it. -/
inductive Datum where
  | plain (value : Json)
  /-- A class, by its name. -/
  | type (name : String)
  | decimal (number : Decimal)
deriving Inhabited

namespace Datum

/-- No value. -/
def null : Datum := .plain .null

/-- A truth value. -/
def ofBool (value : Bool) : Datum := .plain (.bool value)

/-- A text. -/
def ofText (value : String) : Datum := .plain (.text value)

/-- Whether a value is null. -/
def isNull : Datum → Bool
  | .plain value => value.isNull
  | _ => false

/-- Whether a value is a class. -/
def isType : Datum → Bool
  | .type _ => true
  | _ => false

/-- Whether a value counts as true. A class does, and so does a decimal number but zero. -/
def holds : Datum → Bool
  | .plain value => value.holds
  | .type _ => true
  | .decimal number => !number.isZero

/-- A value as the name of a data type. A class gives its own name. -/
def typeName : Datum → String
  | .plain value => value.display
  | .type name => name
  | .decimal number => number.text

/-- What a document shows of a value. -/
def toJson : Datum → Json
  | .plain value => value
  | .type name => .text ("<class '" ++ name ++ "'>")
  | .decimal number => .text number.text

/-- A truth value counts as what it is. -/
@[simp]
theorem holds_ofBool (value : Bool) : (ofBool value).holds = value := rfl

/-- A text counts as true unless it is empty. -/
theorem holds_ofText (value : String) : (ofText value).holds = !value.isEmpty := rfl

end Datum

end EntityAtlas

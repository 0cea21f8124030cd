import EntityAtlas.Ascending

/-!
# JSON values

A value as a document holds it: records keep their fields in the order in which they were
written, and numbers keep the digits they were given.
-/

set_option autoImplicit false

namespace EntityAtlas

/-- A JSON value. -/
inductive Json where
  | null
  | bool (value : Bool)
  | integer (value : Int)
  /-- The number `digits / 10 ^ places`, written with that many decimal places. -/
  | decimal (digits : Int) (places : Nat)
  | text (value : String)
  | list (items : List Json)
  | record (fields : List (String × Json))
deriving Inhabited

namespace Json

/-- Whether a value is null. -/
def isNull : Json → Bool
  | .null => true
  | _ => false

/-- Whether a value counts as true: neither null nor false nor zero nor empty. -/
def holds : Json → Bool
  | .null => false
  | .bool value => value
  | .integer value => value != 0
  | .decimal digits _ => digits != 0
  | .text value => !value.isEmpty
  | .list items => !items.isEmpty
  | .record fields => !fields.isEmpty

/-- A text, or null where there is none. -/
def ofText? : Option String → Json
  | some value => .text value
  | none => .null

/-- A field that is written only under a condition. -/
def field (shown : Bool) (name : String) (value : Json) : List (String × Json) :=
  if shown then [(name, value)] else []

/-- A field that is written only when there is a value for it. -/
def field? (name : String) : Option Json → List (String × Json)
  | some value => [(name, value)]
  | none => []

/-- The value of a field of a record. -/
def find? (name : String) : Json → Option Json
  | .record fields => fields.lookup name
  | _ => none

/-! ## Ascending keys -/

mutual

/-- The value with the fields of all its records in the order of their names. -/
def keysAscending : Json → Json
  | .list items => .list (itemsAscending items)
  | .record fields => .record (fieldsAscending fields)
  | value => value

/-- The items of a list, each with its keys ascending. -/
def itemsAscending : List Json → List Json
  | [] => []
  | item :: rest => item.keysAscending :: itemsAscending rest

/-- The fields of a record in the order of their names, each value with its keys ascending. -/
def fieldsAscending : List (String × Json) → List (String × Json)
  | [] => []
  | (name, value) :: rest =>
    insertAscending (fun left right => decide (left.1 ≤ right.1)) (name, value.keysAscending)
      (fieldsAscending rest)

end

end Json

end EntityAtlas

import EntityAtlas.Json.Display
import EntityAtlas.TypeExpr

/-!
# Mappings

What a persistence layer says of the entities it maps: their members with the columns behind
them, the value types they embed, their identifiers and the hierarchy they stand in. A name is
missing where the mapping has none, and a column name is missing where a formula stands in place
of the column.
-/

set_option autoImplicit false

namespace EntityAtlas

/-- An enumeration with its values in order. -/
structure Enumeration where
  name : String
  space : String := ""
  values : List String := []

/-- An embedded value type, which has no identity of its own, over its kind of members. -/
structure ComponentOf (Part : Type) where
  type : TypeExpr
  members : List Part := []

/-- One mapped member of an entity or of an embedded type. -/
structure Member where
  name : Option String := none
  type : TypeExpr
  nullable : Bool := true
  columns : List (Option String) := []
  length : Option Int := none
  isAssociation : Bool := false
  isCollection : Bool := false
  isEmbedded : Bool := false
  component : Option (ComponentOf Member) := none
  enumeration : Option Enumeration := none
  /-- The columns on the other table, for an association whose key lies there. -/
  referencedColumns : List (Option String) := []
  manyToMany : Bool := false
  /-- Whether the foreign key lies on the entity that declares the association. -/
  keyOnDeclarer : Bool := true
  orphanDelete : Bool := false
deriving Inhabited

/-- An embedded value type. -/
abbrev Component := ComponentOf Member

/-- The embedded type of a member that embeds one. -/
def Member.embedded? (member : Member) : Option Component :=
  if member.isEmbedded then member.component else none

/-- A name as it stands in a text. -/
def shownName (name : Option String) : String := name.getD "None"

/-- The names of a list in which none is missing. -/
def presentNames? : List (Option String) → Option (List String)
  | [] => some []
  | none :: _ => none
  | some name :: rest => (presentNames? rest).map (name :: ·)

/-- Of names none is missing. -/
theorem presentNames?_map_some (names : List String) :
    presentNames? (names.map some) = some names := by
  induction names with
  | nil => rfl
  | cons name rest ih => rw [List.map_cons, presentNames?, ih, Option.map_some]

/-! ## Identifier values -/

/-- How the identifier of an entity gets its value. -/
inductive KeySource where
  | identity
  | assigned
  | foreign
  | generator

namespace KeySource

/-- The word for a key source. -/
def word : KeySource → String
  | .identity => "identity"
  | .assigned => "assigned"
  | .foreign => "foreign"
  | .generator => "generator"

/-- The key source that a word stands for. -/
def ofWord? : String → Option KeySource
  | "identity" => some .identity
  | "assigned" => some .assigned
  | "foreign" => some .foreign
  | "generator" => some .generator
  | _ => none

/-- What is said of a value that stands for no key source. -/
def unknownMessage (given : Json) : String := given.spelled ++ " is not a valid KeyGeneration"

/-- What a client is told about new keys: whether the store or a generator makes them. -/
def clientName : KeySource → String
  | .identity => "Identity"
  | .assigned => "None"
  | .foreign => "None"
  | .generator => "KeyGenerator"

end KeySource

/-! ## Entities -/

/-- The mapping of one entity type. Its members are all mapped members but the identifier, those
declared by its mapped ancestors included. -/
structure Entity where
  type : TypeExpr
  identifier : Option Member := none
  keyColumns : List (Option String) := []
  members : List Member := []
  superclass : Option TypeExpr := none
  keySource : Option KeySource := none
  /-- The names of the members of the natural key. -/
  naturalKey : List (Option String) := []
  versionMember : Option String := none
  /-- The value that tells the type apart in a table shared with other types; null for none. -/
  discriminator : Json := .null
  /-- The class that the entity maps, as a filter of entities sees it. -/
  mappedClass : Option String := none

namespace Entity

/-- The key of the entity's type. -/
def key (entity : Entity) : String := entity.type.key

/-- The names of the members, the identifier aside. -/
def memberNames (entity : Entity) : List (Option String) := entity.members.map (·.name)

/-- The parts of a composite identifier. -/
def keyParts? (entity : Entity) : Option (List Member) :=
  match entity.identifier with
  | some identifier => identifier.embedded?.map (·.members)
  | none => none

/-- The name of the identifier, unless it has none. -/
def identifierName? (entity : Entity) : Option String :=
  match entity.identifier with
  | some identifier => identifier.name.filter (· ≠ "")
  | none => none

/-- The names that the identifier takes up: its own and those of its parts. -/
def identifierNames (entity : Entity) : List (Option String) :=
  (entity.identifierName?.map some).toList ++ (entity.keyParts?.getD []).map (·.name)

/-- The first member with a name. -/
def member? (entity : Entity) (name : Option String) : Option Member :=
  entity.members.find? (·.name == name)

/-- Whether an entity declares a member with a name. -/
def declares (entity : Entity) (name : Option String) : Bool := (entity.member? name).isSome

end Entity

/-- A scalar member that stands in for a foreign key column without a member of its own. Its
value is read through the association: the key of the related entity. -/
structure Surrogate where
  name : String
  /-- The association through which the value is read. -/
  association : Option String
  relatedType : TypeExpr
  keyType : TypeExpr
  /-- The identifier of the related entity, if it has a single one with a name. -/
  keyName : Option String := none
  isNullable : Bool := true

end EntityAtlas

import EntityAtlas.Mapper.Member

/-!
# Identifiers of mappers

The identifier of a mapped class. Columns that belong to the primary key or to a composite are no
members of their own (`Mapper.claims`): they come back in the identifier and in the embedded type.
Which attribute holds a column is asked of a lookup, here that of the first one
(`Mapper.attributeOf`).
-/

set_option autoImplicit false

namespace EntityAtlas

/-- Finds the attribute that holds a column, by name. -/
abbrev AttributeLookup := TableColumn → Except UnmappedColumn String

namespace Mapper

/-- The columns that composites are made of. -/
def compositeColumns (mapper : Mapper) : List TableColumn :=
  mapper.attributes.flatMap fun (_, content) =>
    match content with
    | .composite _ columns => columns
    | _ => []

/-- Whether one of some columns belongs to the primary key or to a composite. -/
def claims (mapper : Mapper) (columns : List TableColumn) : Bool :=
  columns.any fun column =>
    holdsColumn mapper.primaryKey column || holdsColumn mapper.compositeColumns column

/-- The first attribute over columns that holds a column. -/
def attributeOf (mapper : Mapper) : AttributeLookup := fun column =>
  let found := mapper.attributes.find? fun (_, content) =>
    match content with
    | .columns columns => holdsColumn columns column
    | _ => false
  match found with
  | some (name, _) => .ok name
  | none => .error ⟨column⟩

/-- The parts of the primary key as members that are never null. -/
def keyMembers (attributeOf : AttributeLookup) :
    List TableColumn → Except UnmappedColumn (List Member)
  | [] => .ok []
  | column :: rest => do
    let name ← attributeOf column
    let members ← keyMembers attributeOf rest
    return { column.toMember name with nullable := false } :: members

/-- The identifier and the source of its values. Several key columns make up a type of their
own. -/
def identifier (mapper : Mapper) (attributeOf : AttributeLookup) :
    Except UnmappedColumn (Option Member × Option KeySource) := do
  let parts ← keyMembers attributeOf mapper.primaryKey
  match mapper.primaryKey, parts with
  | [column], [part] => return (some part, some column.keySource)
  | [], _ => return (none, none)
  | columns, _ =>
    let type : TypeExpr := { name := mapper.className ++ "Key", space := mapper.space }
    return (some
      { type
        nullable := false
        columns := columns.map (some ·.name)
        isEmbedded := true
        component := some { type, members := parts } }, some .assigned)

end Mapper

end EntityAtlas

import EntityAtlas.ColumnSearch
import EntityAtlas.Scope

/-!
# Associations

What a mapping says of an association: the type it leads to, the columns of its foreign key, and
the name of the related type that goes into the name shared by the two ends. None of it depends on
what has been published before.
-/

set_option autoImplicit false

namespace EntityAtlas

open ColumnName (unquote)

namespace Member

/-- The type that an association leads to, if it tells. Collections are opened one level. -/
def relatedType? (association : Member) : Option TypeExpr :=
  if association.isCollection then
    match association.type.element, association.type.arguments with
    | some element, _ => some element
    | none, [argument] => some argument
    | none, _ => none
  else some association.type

/-- The columns of an association itself, on whichever end they lie. -/
def ownColumns (association : Member) : List (Option String) :=
  if association.isCollection || !association.keyOnDeclarer then association.referencedColumns
  else association.columns

/-- Columns, with the name of the association in place of a formula. -/
def withoutFormula (association : Member) (columns : List (Option String)) :
    List (Option String) :=
  if startsWithColumn columns then columns else [association.name]

/-- Whether a column name of an association that says everything about itself is missing. Then the
association is refused before it is asked to which entity it belongs. -/
def lacksColumnName (association : Member) : Bool :=
  association.relatedType?.isSome && !association.ownColumns.isEmpty &&
    (presentNames? (association.withoutFormula association.ownColumns)).isNone

end Member

namespace Entity

/-- The type that an association leads to. -/
def relatedType (entity : Entity) (association : Member) : Except BuildError TypeExpr :=
  match association.relatedType? with
  | some type => .ok type
  | none => .error (.unknownElementType entity.type association.type association.name)

/-- The columns of an association as the mapping gives them. An association without columns of its
own is part of the key. -/
def mappedColumns (entity : Entity) (association : Member) : List (Option String) :=
  let own := association.ownColumns
  association.withoutFormula (if own.isEmpty then entity.keyColumns else own)

/-- The names of the foreign key columns of an association, without quotes. -/
def foreignKeyColumns (entity : Entity) (association : Member) :
    Except BuildError (List String) :=
  match presentNames? (entity.mappedColumns association) with
  | some names => .ok (names.map unquote)
  | none => .error .missingColumnName

end Entity

namespace Scope

/-- The most distant ancestor that declares a member, as far as every ancestor on the way
declares it, or the entity itself. -/
def declarer (scope : Scope) (entity : Entity) (name : Option String) : Entity :=
  (((scope.ancestors false entity).takeWhile (·.declares name)).getLast?).getD entity

/-- The name of a related type as the name of the association uses it. If the related type
declares a member of the same name in a hierarchy that shares a table, the declaring type stands
for all its subtypes. -/
def associationTypeName (scope : Scope) (related : TypeExpr) (name : Option String) : String :=
  match scope.catalogue.find? related.key with
  | none => related.name
  | some entity =>
    if entity.declares name && !(scope.declarer entity name).discriminator.isNull then
      (scope.declarer entity name).type.name
    else related.name

end Scope

end EntityAtlas

import EntityAtlas.Json
import EntityAtlas.Mapping

/-!
# Refused mappings

Each way in which a mapping cannot be published, with the facts of the case. A report gives the
kind and the wording, and the entity, member and columns that are to blame.
-/

set_option autoImplicit false

namespace EntityAtlas

/-- What is told about a refused mapping. -/
structure Report where
  kind : String
  message : String
  entity : Option String := none
  property : Option String := none
  columns : List (Option String) := []

/-- A report as a record. -/
def Report.toJson (report : Report) : Json :=
  .record
    [ ("error", .text report.message), ("error_type", .text report.kind),
      ("entity", .ofText? report.entity), ("property", .ofText? report.property),
      ("columns", .list (report.columns.map .ofText?)) ]

/-- Why a build was refused. -/
inductive BuildError where
  /-- Two entities have one type key. -/
  | duplicateType (key : String)
  /-- Two entity types have one resource name. -/
  | duplicateResource (resource key holder : String)
  /-- One association was recorded twice in the index of foreign keys. -/
  | duplicateForeignKey (relationship : String) (columns : List (Option String))
  /-- A collection does not tell the type of its elements. -/
  | unknownElementType (entity collection : TypeExpr) (association : Option String)
  /-- No member carries the columns of an association over several columns. -/
  | unresolvedForeignKey (entity : TypeExpr) (association : Option String) (columns : List String)
  /-- The related entity, whose identifier a surrogate needs, is unknown or has none. -/
  | missingEntity (entity related : TypeExpr) (association : Option String) (column : String)
  /-- An embedded type has an association. -/
  | embeddedAssociation (key : String) (association : Option String)
  /-- A column name that had to be read is missing. -/
  | missingColumnName
  /-- A type name has no word that could be in the plural. -/
  | wordlessName

/-- The part of a text before its last point, or all of it. -/
def beforeLastPoint (text : String) : String :=
  match text.toList.reverse.dropWhile (· ≠ '.') with
  | [] => text
  | _ :: before => String.ofList before.reverse

/-- The part of a text after its last point, or all of it. -/
def afterLastPoint (text : String) : String :=
  String.ofList (text.toList.reverse.takeWhile (· ≠ '.')).reverse

/-- The name of an association in the index of foreign keys. -/
def relationshipName (entity : TypeExpr) (association : Option String) : String :=
  entity.fullName ++ "." ++ shownName association

namespace BuildError

/-- The report of a refusal. -/
def report : BuildError → Report
  | .duplicateType key =>
    { kind := "DuplicateTypeError"
      message := "Type " ++ key ++ " is mapped more than once"
      entity := some key }
  | .duplicateResource resource key holder =>
    { kind := "DuplicateResourceNameError"
      message := "Resource name '" ++ resource ++ "' of " ++ key ++ " is already used by " ++ holder
        ++ "; configure a resource name override"
      entity := some key }
  | .duplicateForeignKey relationship columns =>
    { kind := "DuplicateForeignKeyError"
      message := "Foreign key for " ++ relationship ++ " recorded twice"
      entity := some (beforeLastPoint relationship)
      property := some (afterLastPoint relationship)
      columns }
  | .unknownElementType entity collection association =>
    { kind := "UnknownRelatedTypeError"
      message := "Don't know how to handle collection type " ++ collection.fullName ++ " of "
        ++ relationshipName entity association
      entity := some entity.key
      property := association }
  | .unresolvedForeignKey entity association columns =>
    { kind := "UnresolvableForeignKeyError"
      message := "Could not find matching fk for property " ++ relationshipName entity association
        ++ " (columns: " ++ ", ".intercalate columns ++ ")"
      entity := some entity.key
      property := association
      columns := columns.map some }
  | .missingEntity entity related association column =>
    { kind := "MissingEntityMetadataError"
      message := "Could not find related entity of type " ++ related.fullName
      entity := some entity.key
      property := association
      columns := [some column] }
  | .embeddedAssociation key association =>
    { kind := "UnsupportedComplexTypeError"
      message := "Association " ++ shownName association ++ " is not supported inside complex type "
        ++ key
      entity := some key
      property := association }
  | .missingColumnName =>
    { kind := "TypeError"
      message := "object of type 'NoneType' has no len()" }
  | .wordlessName => { kind := "IndexError", message := "list index out of range" }

/-- Whether a refusal blames the mapping of an entity. A missing column name and a name without a
word do not: they are met while reading, where no entity is known. -/
def blamesMapping : BuildError → Bool
  | .missingColumnName => false
  | .wordlessName => false
  | _ => true

end BuildError

end EntityAtlas

import EntityAtlas.BuildError
import EntityAtlas.ColumnName

/-!
# Members behind columns

Which members of an entity carry given columns. A member over exactly these columns answers
first, then the identifier. Otherwise several columns may be carried by several members, each
column found on its own. The answer is never an association.

Lists of different length never name the same columns. Only lists of one length have their names
read, and then a missing name is an error.
-/

set_option autoImplicit false

namespace EntityAtlas

/-- Whether two lists, in which names may be missing, name the same columns. -/
def sameColumns? (left right : List (Option String)) : Except BuildError Bool :=
  if left.length = right.length then
    match presentNames? left, presentNames? right with
    | some left, some right => .ok (ColumnName.sameColumns left right)
    | _, _ => .error .missingColumnName
  else .ok false

/-- Whether a list of columns starts with a column and not with a formula. -/
def startsWithColumn : List (Option String) → Bool
  | some _ :: _ => true
  | _ => false

/-- The first member over exactly the given columns. -/
def memberOver? (columns : List (Option String)) : List Member → Except BuildError (Option Member)
  | [] => .ok none
  | member :: rest =>
    if startsWithColumn member.columns then
      match sameColumns? member.columns columns with
      | .ok true => .ok (some member)
      | .ok false => memberOver? columns rest
      | .error error => .error error
    else memberOver? columns rest

/-- Names with those of another list that they do not hold yet, each once. -/
def withNewNames (names others : List (Option String)) : List (Option String) :=
  others.foldl (fun names name => if names.contains name then names else names ++ [name]) names

namespace Entity

/-- The members that a search for columns looks through: the members and the parts of a composite
identifier, without the associations among them. -/
def searched (entity : Entity) : List Member :=
  (entity.members ++ entity.keyParts?.getD []).filter (!·.isAssociation)

/-- The names that the identifier answers with: its own, or those of its parts. -/
def answeringNames? (entity : Entity) : Option (List (Option String)) :=
  match entity.identifierName? with
  | some name => some [some name]
  | none => entity.keyParts?.map fun parts => parts.map (·.name)

/-- Whether the identifier is mapped to exactly the given columns. -/
def isKeyedBy (entity : Entity) (columns : List (Option String)) : Except BuildError Bool :=
  if entity.identifier.isSome && !entity.keyColumns.isEmpty then
    sameColumns? entity.keyColumns columns
  else .ok false

/-- The names of the one member over exactly the given columns, or of the identifier over
them. -/
def namesOverExactly (entity : Entity) (columns : List (Option String)) :
    Except BuildError (Option (List (Option String))) := do
  match ← memberOver? columns entity.searched with
  | some member => return some [member.name]
  | none =>
    match ← entity.isKeyedBy columns with
    | true => return entity.answeringNames?
    | false => return none

/-- The names found for single columns, each once, in the order of the columns. -/
def namesOverEach (entity : Entity) (found : List (Option String)) :
    List (Option String) → Except BuildError (List (Option String))
  | [] => .ok found
  | column :: rest => do
    let names ← entity.namesOverExactly [column]
    entity.namesOverEach (withNewNames found (names.getD [])) rest

/-- The names of the members that carry the given columns. Columns that are not carried together
are looked up one by one if `decompose` allows it. -/
def namesOver (entity : Entity) (columns : List (Option String)) (decompose : Bool) :
    Except BuildError (Option (List (Option String))) := do
  match ← entity.namesOverExactly columns with
  | some names => return some names
  | none =>
    if decompose && columns.length > 1 then
      let found ← entity.namesOverEach [] columns
      return if found.isEmpty then none else some found
    else return none

end Entity

end EntityAtlas

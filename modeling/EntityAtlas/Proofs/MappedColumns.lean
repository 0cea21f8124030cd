import EntityAtlas.Proofs.ColumnReadings

/-!
# Changed column names

What becomes of members and entities when the names of their columns are changed, at every place
where one stands. Names, types and all else stay. A search for columns answers the same as long as
the change is faithful, that is, if a changed name without its quotes is the name without its quotes
(`namesOver_mapColumns`), and an association has the same columns (`foreignKeyColumns_mapColumns`).
-/

set_option autoImplicit false

namespace EntityAtlas

open ColumnName (unquote folded foldedAscending sameColumns)

/-! ## Members -/

mutual

/-- An embedded type with every column name changed. -/
def Component.mapColumns (change : String → String) : Component → Component
  | ⟨type, members⟩ => ⟨type, mapColumnsAmong change members⟩

/-- Members with every column name changed. -/
def mapColumnsAmong (change : String → String) : List Member → List Member
  | [] => []
  | member :: rest => member.mapColumns change :: mapColumnsAmong change rest

/-- What a member embeds, with every column name changed. -/
def mapColumnsWithin (change : String → String) : Option Component → Option Component
  | none => none
  | some component => some (component.mapColumns change)

/-- A member with every column name changed, those of the type that it embeds included. -/
def Member.mapColumns (change : String → String) : Member → Member
  | ⟨name, type, nullable, columns, length, isAssociation, isCollection, isEmbedded, component,
      enumeration, referencedColumns, manyToMany, keyOnDeclarer, orphanDelete⟩ =>
    { name, type, nullable, length, isAssociation, isCollection, isEmbedded, enumeration,
      manyToMany, keyOnDeclarer, orphanDelete
      columns := columns.map (Option.map change)
      component := mapColumnsWithin change component
      referencedColumns := referencedColumns.map (Option.map change) }

end

theorem mapColumnsAmong_eq_map (change : String → String) (members : List Member) :
    mapColumnsAmong change members = members.map (Member.mapColumns change) := by
  induction members with
  | nil => rfl
  | cons member rest ih => rw [mapColumnsAmong, ih, List.map_cons]

theorem mapColumnsWithin_eq_map (change : String → String) (component : Option Component) :
    mapColumnsWithin change component = component.map (Component.mapColumns change) := by
  cases component <;> rfl

section Fields

variable (change : String → String) (member : Member)

@[simp]
theorem Member.name_mapColumns : (member.mapColumns change).name = member.name := by
  cases member
  rfl

@[simp]
theorem Member.type_mapColumns : (member.mapColumns change).type = member.type := by
  cases member
  rfl

@[simp]
theorem Member.nullable_mapColumns :
    (member.mapColumns change).nullable = member.nullable := by
  cases member
  rfl

@[simp]
theorem Member.columns_mapColumns :
    (member.mapColumns change).columns = member.columns.map (Option.map change) := by
  cases member
  rfl

@[simp]
theorem Member.length_mapColumns : (member.mapColumns change).length = member.length := by
  cases member
  rfl

@[simp]
theorem Member.isAssociation_mapColumns :
    (member.mapColumns change).isAssociation = member.isAssociation := by
  cases member
  rfl

@[simp]
theorem Member.isCollection_mapColumns :
    (member.mapColumns change).isCollection = member.isCollection := by
  cases member
  rfl

@[simp]
theorem Member.enumeration_mapColumns :
    (member.mapColumns change).enumeration = member.enumeration := by
  cases member
  rfl

@[simp]
theorem Member.referencedColumns_mapColumns :
    (member.mapColumns change).referencedColumns =
      member.referencedColumns.map (Option.map change) := by
  cases member
  rfl

@[simp]
theorem Member.manyToMany_mapColumns :
    (member.mapColumns change).manyToMany = member.manyToMany := by
  cases member
  rfl

@[simp]
theorem Member.keyOnDeclarer_mapColumns :
    (member.mapColumns change).keyOnDeclarer = member.keyOnDeclarer := by
  cases member
  rfl

@[simp]
theorem Member.orphanDelete_mapColumns :
    (member.mapColumns change).orphanDelete = member.orphanDelete := by
  cases member
  rfl

@[simp]
theorem Member.embedded?_mapColumns :
    (member.mapColumns change).embedded? = member.embedded?.map (Component.mapColumns change) := by
  obtain ⟨_, _, _, _, _, _, _, isEmbedded, _, _, _, _, _, _⟩ := member
  cases isEmbedded with
  | false => rfl
  | true => exact mapColumnsWithin_eq_map ..

@[simp]
theorem Member.relatedType?_mapColumns :
    (member.mapColumns change).relatedType? = member.relatedType? := by
  cases member
  rfl

theorem Member.ownColumns_mapColumns :
    (member.mapColumns change).ownColumns = member.ownColumns.map (Option.map change) := by
  simp only [Member.ownColumns, Member.isCollection_mapColumns, Member.keyOnDeclarer_mapColumns,
    Member.referencedColumns_mapColumns, Member.columns_mapColumns]
  split <;> rfl

end Fields

@[simp]
theorem Component.members_mapColumns (change : String → String) (component : Component) :
    (component.mapColumns change).members =
      component.members.map (Member.mapColumns change) := by
  cases component
  exact mapColumnsAmong_eq_map ..

/-! ## Entities -/

/-- An entity with every column name changed. -/
def Entity.mapColumns (change : String → String) (entity : Entity) : Entity :=
  { entity with
    identifier := entity.identifier.map (Member.mapColumns change)
    keyColumns := entity.keyColumns.map (Option.map change)
    members := entity.members.map (Member.mapColumns change) }

namespace Entity

variable (change : String → String) (entity : Entity)

@[simp]
theorem key_mapColumns : (entity.mapColumns change).key = entity.key := rfl

@[simp]
theorem memberNames_mapColumns : (entity.mapColumns change).memberNames = entity.memberNames := by
  simp [memberNames, mapColumns]

@[simp]
theorem keyParts?_mapColumns :
    (entity.mapColumns change).keyParts? =
      entity.keyParts?.map (List.map (Member.mapColumns change)) := by
  simp only [keyParts?, mapColumns]
  cases entity.identifier with
  | none => rfl
  | some identifier => cases embeds : identifier.embedded? <;> simp [embeds]

@[simp]
theorem identifierName?_mapColumns :
    (entity.mapColumns change).identifierName? = entity.identifierName? := by
  simp only [identifierName?, mapColumns]
  cases entity.identifier <;> simp

@[simp]
theorem identifierNames_mapColumns :
    (entity.mapColumns change).identifierNames = entity.identifierNames := by
  simp only [identifierNames, identifierName?_mapColumns, keyParts?_mapColumns]
  cases entity.keyParts? <;> simp

@[simp]
theorem declares_mapColumns (name : Option String) :
    (entity.mapColumns change).declares name = entity.declares name := by
  have members : (entity.mapColumns change).members =
      entity.members.map (Member.mapColumns change) := rfl
  have named : (fun member : Member => member.name == name) ∘ Member.mapColumns change =
      fun member => member.name == name :=
    funext fun member => by rw [Function.comp_apply, Member.name_mapColumns]
  rw [declares, declares, member?, member?, members, List.find?_map, Option.isSome_map, named]

@[simp]
theorem answeringNames?_mapColumns :
    (entity.mapColumns change).answeringNames? = entity.answeringNames? := by
  simp only [answeringNames?, identifierName?_mapColumns, keyParts?_mapColumns]
  cases entity.identifierName? with
  | some name => rfl
  | none => cases entity.keyParts? <;> simp

theorem searched_mapColumns :
    (entity.mapColumns change).searched = entity.searched.map (Member.mapColumns change) := by
  have parts : (entity.keyParts?.map (List.map (Member.mapColumns change))).getD [] =
      (entity.keyParts?.getD []).map (Member.mapColumns change) := by
    cases entity.keyParts? <;> rfl
  simp only [searched, keyParts?_mapColumns, parts]
  simp [mapColumns, List.filter_map, Function.comp_def]

@[simp]
theorem relatedType_mapColumns (association : Member) :
    (entity.mapColumns change).relatedType (association.mapColumns change) =
      entity.relatedType association := by
  simp [relatedType, mapColumns]

end Entity

/-! ## Searches -/

section Searches

variable {change : String → String} (faithful : ∀ name, unquote (change name) = unquote name)
include faithful

theorem sameColumns_map (columns others : List String) :
    sameColumns (columns.map change) others = sameColumns columns others := by
  have readings : (columns.map change).map folded = columns.map folded := by
    rw [List.map_map]
    refine List.map_congr_left fun name _ => ?_
    simp only [Function.comp, folded, faithful]
  simp only [sameColumns, foldedAscending, readings, List.length_map]

theorem sameColumns?_map (columns others : List (Option String)) :
    sameColumns? (columns.map (Option.map change)) others = sameColumns? columns others := by
  simp only [sameColumns?, List.length_map, presentNames?_map]
  cases presentNames? columns with
  | none => rfl
  | some names =>
      cases presentNames? others with
      | none => rfl
      | some given => simp only [Option.map_some, sameColumns_map faithful]

theorem memberOver?_mapColumns (columns : List (Option String)) (members : List Member) :
    memberOver? columns (members.map (Member.mapColumns change)) =
      (memberOver? columns members).map (Option.map (Member.mapColumns change)) := by
  induction members with
  | nil => rfl
  | cons member rest ih =>
      simp only [List.map_cons, memberOver?, Member.columns_mapColumns, startsWithColumn_map,
        sameColumns?_map faithful, ih]
      split
      · split <;> rfl
      · rfl

theorem isKeyedBy_mapColumns (entity : Entity) (columns : List (Option String)) :
    (entity.mapColumns change).isKeyedBy columns = entity.isKeyedBy columns := by
  simp only [Entity.isKeyedBy, Entity.mapColumns, Option.isSome_map, List.isEmpty_map,
    sameColumns?_map faithful]

theorem namesOverExactly_mapColumns (entity : Entity) (columns : List (Option String)) :
    (entity.mapColumns change).namesOverExactly columns = entity.namesOverExactly columns := by
  rw [Entity.namesOverExactly, Entity.namesOverExactly, Entity.searched_mapColumns,
    memberOver?_mapColumns faithful, isKeyedBy_mapColumns faithful,
    Entity.answeringNames?_mapColumns]
  cases memberOver? columns entity.searched with
  | error error => rfl
  | ok found =>
      cases found with
      | none => rfl
      | some member => simp [Except.map, bind, Except.bind]

theorem namesOverEach_mapColumns (entity : Entity) (columns found : List (Option String)) :
    (entity.mapColumns change).namesOverEach found columns =
      entity.namesOverEach found columns := by
  induction columns generalizing found with
  | nil => rfl
  | cons column rest ih =>
      simp only [Entity.namesOverEach, namesOverExactly_mapColumns faithful, ih]

/-- **Searches.** A faithful change of column names leaves the answer to a search alone. -/
theorem namesOver_mapColumns (entity : Entity) (columns : List (Option String))
    (decompose : Bool) :
    (entity.mapColumns change).namesOver columns decompose =
      entity.namesOver columns decompose := by
  simp only [Entity.namesOver, namesOverExactly_mapColumns faithful,
    namesOverEach_mapColumns faithful]

theorem withoutFormula_mapColumns (association : Member) (columns : List (Option String)) :
    ((association.mapColumns change).withoutFormula (columns.map (Option.map change))).map
        (Option.map unquote) =
      (association.withoutFormula columns).map (Option.map unquote) := by
  have unquoted : Option.map unquote ∘ Option.map change = Option.map unquote := by
    funext name
    simp [Function.comp_def, faithful]
  simp only [Member.withoutFormula, startsWithColumn_map, Member.name_mapColumns]
  split
  · rw [List.map_map, unquoted]
  · rfl

/-- **Foreign keys.** A faithful change of column names leaves the columns of an association
alone. -/
theorem foreignKeyColumns_mapColumns (entity : Entity) (association : Member) :
    (entity.mapColumns change).foreignKeyColumns (association.mapColumns change) =
      entity.foreignKeyColumns association := by
  have own : (if (association.mapColumns change).ownColumns.isEmpty then
        (entity.mapColumns change).keyColumns
      else (association.mapColumns change).ownColumns) =
      (if association.ownColumns.isEmpty then entity.keyColumns
        else association.ownColumns).map (Option.map change) := by
    simp only [Member.ownColumns_mapColumns, List.isEmpty_map, Entity.mapColumns]
    split <;> rfl
  simp only [Entity.foreignKeyColumns_eq, Entity.mappedColumns, own,
    withoutFormula_mapColumns faithful]

end Searches

end EntityAtlas

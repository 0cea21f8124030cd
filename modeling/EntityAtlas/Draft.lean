import EntityAtlas.BuildError
import EntityAtlas.Document
import EntityAtlas.Keyed

/-!
# Drafts

The document while it is being built, together with the surrogates found so far. Embedded types
go to the front as they are met and entity types to the end. A refusal leaves the draft as it
stood at that moment. What may be refused has an equation that says when it is and what it does
otherwise (`openEntityType_apply`, `nameResource_apply`, `recordColumns_apply`,
`recordForeignKey_apply`).
-/

set_option autoImplicit false

namespace EntityAtlas

/-- A document under construction. -/
structure Draft where
  /-- The embedded types, the latest one first. -/
  complexTypes : List StructuralType := []
  entityTypes : List StructuralType := []
  resources : List (String × String) := []
  enumTypes : List EnumType := []
  foreignKeys : List (String × String) := []
  /-- The surrogates of each type key that has a place for them. -/
  surrogates : List (String × List Surrogate) := []

/-- A step of building that may be refused. -/
abbrev Drafting := EStateM BuildError Draft

namespace Draft

theorem get_apply (draft : Draft) : (get : Drafting Draft) draft = .ok draft draft := rfl

/-- The structural types in the order of the document. -/
def structuralTypes (draft : Draft) : List StructuralType :=
  draft.complexTypes ++ draft.entityTypes

/-- Whether a type with a key is in the draft. -/
def holdsType (draft : Draft) (key : String) : Bool :=
  draft.structuralTypes.any (·.key == key)

/-- The draft as a document. -/
def document (draft : Draft) (comparisonOptions : String) : Document :=
  { comparisonOptions
    structuralTypes := draft.structuralTypes
    resources := draft.resources
    enumTypes := draft.enumTypes
    foreignKeys := draft.foreignKeys }

/-! ## Types -/

/-- Puts a structural type at the front. -/
def openComplexType (draft : Draft) (type : StructuralType) : Draft :=
  { draft with complexTypes := type :: draft.complexTypes }

/-- Adds a data property to the embedded type with a key. -/
def extendComplexType (draft : Draft) (key : String) (property : DataProperty) : Draft :=
  { draft with
    complexTypes := draft.complexTypes.map fun type =>
      if type.key == key then { type with dataProperties := type.dataProperties ++ [property] }
      else type }

/-- Puts a structural type at the end, unless its key is taken. -/
def openEntityType (type : StructuralType) : Drafting Unit := do
  if (← get).holdsType type.key then
    throw (.duplicateType type.key)
  modify fun draft => { draft with entityTypes := draft.entityTypes ++ [type] }

/-- A type whose key is taken is refused, and any other comes to stand at the end. -/
theorem openEntityType_apply (type : StructuralType) (draft : Draft) :
    openEntityType type draft =
      if draft.holdsType type.key then .error (.duplicateType type.key) draft
      else .ok () { draft with entityTypes := draft.entityTypes ++ [type] } := by
  simp only [openEntityType, bind, EStateM.bind, get_apply]
  cases draft.holdsType type.key <;> rfl

/-- Gives the entity type with a key its members. -/
def closeEntityType (draft : Draft) (key : String) (dataProperties : List DataProperty)
    (navigationProperties : List NavigationProperty) : Draft :=
  { draft with
    entityTypes := draft.entityTypes.map fun type =>
      if type.key == key then { type with dataProperties, navigationProperties } else type }

/-! ## Names, enumerations and foreign keys -/

/-- Gives a resource name to a type, unless the name is taken. -/
def nameResource (resource key : String) : Drafting Unit := do
  match (← get).resources.lookup resource with
  | some holder => throw (.duplicateResource resource key holder)
  | none => modify fun draft => { draft with resources := draft.resources ++ [(resource, key)] }

/-- A name that is taken is refused together with its holder, and any other is written down. -/
theorem nameResource_apply (resource key : String) (draft : Draft) :
    nameResource resource key draft =
      match draft.resources.lookup resource with
      | some holder => .error (.duplicateResource resource key holder) draft
      | none => .ok () { draft with resources := draft.resources ++ [(resource, key)] } := by
  simp only [nameResource, bind, EStateM.bind, get_apply]
  cases draft.resources.lookup resource <;> rfl

/-- Adds an enumeration, unless one of its name is there. -/
def listEnumeration (draft : Draft) (enumeration : Enumeration) : Draft :=
  if draft.enumTypes.any (·.shortName == enumeration.name) then draft
  else
    { draft with
      enumTypes := draft.enumTypes ++
        [{ shortName := enumeration.name, space := enumeration.space,
           values := enumeration.values }] }

/-- Records an association over columns given by names, unless it has been recorded before. No name
may be missing. -/
def recordColumns (relationship : String) (names : List (Option String)) : Drafting Unit := do
  if ((← get).foreignKeys.lookup relationship).isSome then
    throw (.duplicateForeignKey relationship names)
  match presentNames? names with
  | none => throw .missingColumnName
  | some columns =>
    modify fun draft =>
      { draft with foreignKeys := draft.foreignKeys ++ [(relationship, ",".intercalate columns)] }

/-- An association that has been recorded is refused, then one over a column without a name, and
any other is recorded. -/
theorem recordColumns_apply (relationship : String) (names : List (Option String))
    (draft : Draft) :
    recordColumns relationship names draft =
      if (draft.foreignKeys.lookup relationship).isSome then
        .error (.duplicateForeignKey relationship names) draft
      else
        match presentNames? names with
        | none => .error .missingColumnName draft
        | some columns =>
          .ok ()
            { draft with
              foreignKeys := draft.foreignKeys ++ [(relationship, ",".intercalate columns)] } := by
  simp only [recordColumns, bind, EStateM.bind, get_apply]
  cases draft.foreignKeys.lookup relationship with
  | some recorded => rfl
  | none => cases presentNames? names <;> rfl

/-- Records the columns of an association, unless it has been recorded before. -/
def recordForeignKey (relationship : String) (columns : List String) : Drafting Unit :=
  recordColumns relationship (columns.map some)

/-- An association that has been recorded is refused, and any other is recorded. -/
theorem recordForeignKey_apply (relationship : String) (columns : List String) (draft : Draft) :
    recordForeignKey relationship columns draft =
      if (draft.foreignKeys.lookup relationship).isSome then
        .error (.duplicateForeignKey relationship (columns.map some)) draft
      else
        .ok ()
          { draft with
            foreignKeys := draft.foreignKeys ++ [(relationship, ",".intercalate columns)] } := by
  rw [recordForeignKey, recordColumns_apply, presentNames?_map_some]

/-! ## Surrogates -/

/-- Adds a surrogate to those of a type. -/
def addSurrogate (draft : Draft) (type : TypeExpr) (surrogate : Surrogate) : Draft :=
  { draft with surrogates := Keyed.update type.key [] (· ++ [surrogate]) draft.surrogates }

theorem lookup_surrogates_addSurrogate (draft : Draft) (type : TypeExpr) (surrogate : Surrogate) :
    (draft.addSurrogate type surrogate).surrogates.lookup type.key =
      some ((draft.surrogates.lookup type.key).getD [] ++ [surrogate]) :=
  Keyed.lookup_update_self ..

/-- Makes sure that a type has a place for surrogates, even if it stays empty. -/
def ensureSurrogates (draft : Draft) (type : TypeExpr) : Draft :=
  { draft with surrogates := Keyed.update type.key [] id draft.surrogates }

end Draft

end EntityAtlas

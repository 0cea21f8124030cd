import EntityAtlas.Draft

/-!
# Worksheets

The members of one entity are described on a worksheet: the draft of the document together with
the data properties that the entity has so far. Later steps add surrogates, put the parts of the
key in front and mark members as part of it, which leaves their names and order alone
(`map_nameOnServer_withKeyPart`).
-/

set_option autoImplicit false

namespace EntityAtlas

/-- The draft together with the data properties of the entity that is being described. -/
structure Worksheet where
  draft : Draft := {}
  properties : List DataProperty := []

/-- A step of describing an entity that may be refused. -/
abbrev Describing := EStateM BuildError Worksheet

/-- A step on the draft as a step on the worksheet. -/
def onDraft {α : Type} (step : Drafting α) : Describing α := fun sheet =>
  match step sheet.draft with
  | .ok value draft => .ok value { sheet with draft }
  | .error error draft => .error error { sheet with draft }

/-- A decision as a step that changes nothing. -/
def decided {α : Type} : Except BuildError α → Describing α
  | .ok value => pure value
  | .error error => throw error

theorem decided_ok {α : Type} (value : α) (sheet : Worksheet) :
    decided (.ok value) sheet = .ok value sheet := rfl

theorem decided_error {α : Type} (error : BuildError) (sheet : Worksheet) :
    (decided (.error error) : Describing α) sheet = .error error sheet := rfl

/-- The data properties with the first one of a name made part of the key. -/
def withKeyPart (name : Option String) : List DataProperty → List DataProperty
  | [] => []
  | property :: rest =>
    if property.nameOnServer == name then { property with isPartOfKey := true } :: rest
    else property :: withKeyPart name rest

/-- Marking changes no names. -/
theorem map_nameOnServer_withKeyPart (name : Option String) (properties : List DataProperty) :
    (withKeyPart name properties).map (·.nameOnServer) = properties.map (·.nameOnServer) := by
  induction properties with
  | nil => rfl
  | cons property rest ih =>
    unfold withKeyPart
    split
    · rfl
    · simp [ih]

/-- The worksheet with a data property put at a position. -/
def Worksheet.insertProperty (sheet : Worksheet) (position : Nat) (property : DataProperty) :
    Worksheet :=
  { sheet with properties := sheet.properties.insertIdx position property }

/-- The worksheet with a new surrogate of an entity. -/
def Worksheet.addSurrogate (sheet : Worksheet) (entity : Entity) (surrogate : Surrogate)
    (property : DataProperty) : Worksheet :=
  { draft := sheet.draft.addSurrogate entity.type surrogate
    properties := sheet.properties ++ [property] }

/-- The worksheet with the data properties of some names made part of the key. -/
def Worksheet.markKey (sheet : Worksheet) (names : List (Option String)) : Worksheet :=
  { sheet with
    properties := names.foldl (fun properties name => withKeyPart name properties)
      sheet.properties }

end EntityAtlas

import EntityAtlas.Build
import Mathlib.Data.List.InsertIdx

/-!
# Members under other names

Clients see another name in place of the members of one name, on the types with one key
(`Relabelling`). A relabelling acts on properties and on all that holds properties, and changes
nothing but what clients see. So it does not matter whether something is done to a draft or to a
worksheet before the relabelling or after it. What is said about one member adds to what was said
about it, and to nothing else (`ofMember_configureMember`).
-/

set_option autoImplicit false

namespace EntityAtlas

/-- Clients see a value in place of the members of one name, on the types with one key. -/
structure Relabelling where
  key : String
  name : String
  shown : Datum

namespace Relabelling

variable (relabelling : Relabelling)

/-- What clients see in place of a member of a type with a key, where they saw something given. -/
def clientName (owner : String) (name : Option String) (given : Option Datum) : Option Datum :=
  if owner = relabelling.key ∧ name = some relabelling.name then some relabelling.shown else given

/-- A data property of a type with a key under its new name. -/
def property (owner : String) (property : DataProperty) : DataProperty :=
  { property with name := relabelling.clientName owner property.nameOnServer property.name }

/-- A navigation property of a type with a key under its new name. -/
def navigation (owner : String) (navigation : NavigationProperty) : NavigationProperty :=
  { navigation with name := relabelling.clientName owner navigation.nameOnServer navigation.name }

/-- A structural type with its properties under their new names. -/
def type (type : StructuralType) : StructuralType :=
  { type with
    dataProperties := type.dataProperties.map (relabelling.property type.key)
    navigationProperties := type.navigationProperties.map (relabelling.navigation type.key) }

/-- A draft with the properties of its types under their new names. -/
def draft (draft : Draft) : Draft :=
  { draft with
    complexTypes := draft.complexTypes.map relabelling.type
    entityTypes := draft.entityTypes.map relabelling.type }

/-- The worksheet of an entity with a key, with all properties under their new names. -/
def sheet (owner : String) (sheet : Worksheet) : Worksheet :=
  { draft := relabelling.draft sheet.draft
    properties := sheet.properties.map (relabelling.property owner) }

/-- A document with the properties of its types under their new names. -/
def document (document : Document) : Document :=
  { document with structuralTypes := document.structuralTypes.map relabelling.type }

/-- An edition with the properties of its document under their new names. -/
def edition (edition : Edition) : Edition :=
  { edition with document := relabelling.document edition.document }

/-! ## Properties -/

/-- On the types with other keys nothing changes. -/
theorem property_of_ne {owner : String} (apart : owner ≠ relabelling.key) :
    relabelling.property owner = id := by
  funext property
  simp [Relabelling.property, clientName, apart]

/-- Members of other names stay as they are. -/
theorem property_eq_self {owner : String} {property : DataProperty}
    (apart : property.nameOnServer ≠ some relabelling.name) :
    relabelling.property owner property = property := by
  simp [Relabelling.property, clientName, apart]

theorem findProperty?_map (owner : String) (properties : List DataProperty)
    (name : Option String) :
    findProperty? (properties.map (relabelling.property owner)) name =
      (findProperty? properties name).map (relabelling.property owner) := by
  rw [findProperty?, List.find?_map]
  rfl

theorem withKeyPart_map (owner : String) (name : Option String)
    (properties : List DataProperty) :
    withKeyPart name (properties.map (relabelling.property owner)) =
      (withKeyPart name properties).map (relabelling.property owner) := by
  induction properties with
  | nil => rfl
  | cons property rest ih =>
      rw [List.map_cons, withKeyPart, withKeyPart, ih]
      by_cases named : property.nameOnServer = name <;> simp [Relabelling.property, named]

/-! ## Worksheets -/

theorem markKey_sheet (owner : String) (sheet : Worksheet) (names : List (Option String)) :
    (relabelling.sheet owner sheet).markKey names =
      relabelling.sheet owner (sheet.markKey names) := by
  obtain ⟨draft, properties⟩ := sheet
  induction names generalizing properties with
  | nil => rfl
  | cons name rest ih =>
      have marked := ih (withKeyPart name properties)
      simpa only [Worksheet.markKey, Relabelling.sheet, List.foldl_cons,
        relabelling.withKeyPart_map] using marked

theorem insertProperty_sheet (owner : String) (sheet : Worksheet) (position : Nat)
    (property : DataProperty) :
    (relabelling.sheet owner sheet).insertProperty position (relabelling.property owner property) =
      relabelling.sheet owner (sheet.insertProperty position property) := by
  simp only [Worksheet.insertProperty, Relabelling.sheet, List.map_insertIdx]

theorem addSurrogate_sheet (owner : String) (sheet : Worksheet) (entity : Entity)
    (surrogate : Surrogate) (property : DataProperty) :
    (relabelling.sheet owner sheet).addSurrogate entity surrogate
        (relabelling.property owner property) =
      relabelling.sheet owner (sheet.addSurrogate entity surrogate property) := by
  simp only [Worksheet.addSurrogate, Relabelling.sheet, List.map_append, List.map_cons,
    List.map_nil]
  rfl

/-! ## Drafts -/

@[simp]
theorem key_type (type : StructuralType) : (relabelling.type type).key = type.key := rfl

@[simp]
theorem holdsType_draft (draft : Draft) (key : String) :
    (relabelling.draft draft).holdsType key = draft.holdsType key := by
  simp [Draft.holdsType, Draft.structuralTypes, Relabelling.draft, List.any_map, Function.comp_def]

theorem openComplexType_draft (draft : Draft) (type : TypeExpr) :
    (relabelling.draft draft).openComplexType (.emptyComplex type) =
      relabelling.draft (draft.openComplexType (.emptyComplex type)) := rfl

theorem extendComplexType_draft (draft : Draft) (owner : String) (property : DataProperty) :
    (relabelling.draft draft).extendComplexType owner (relabelling.property owner property) =
      relabelling.draft (draft.extendComplexType owner property) := by
  simp only [Draft.extendComplexType, Relabelling.draft, List.map_map]
  congr 1
  refine List.map_congr_left fun type _ => ?_
  by_cases same : type.key = owner
  · subst same
    simp [Relabelling.type, StructuralType.key]
  · simp [same]

theorem closeEntityType_draft (draft : Draft) (owner : String)
    (properties : List DataProperty) (navigations : List NavigationProperty) :
    (relabelling.draft draft).closeEntityType owner (properties.map (relabelling.property owner))
        (navigations.map (relabelling.navigation owner)) =
      relabelling.draft (draft.closeEntityType owner properties navigations) := by
  simp only [Draft.closeEntityType, Relabelling.draft, List.map_map]
  congr 1
  refine List.map_congr_left fun type _ => ?_
  by_cases same : type.key = owner
  · subst same
    simp [Relabelling.type, StructuralType.key]
  · simp [same]

theorem listEnumerationOf_draft (draft : Draft) (member : Member) :
    (relabelling.draft draft).listEnumerationOf member =
      relabelling.draft (draft.listEnumerationOf member) := by
  simp only [Draft.listEnumerationOf]
  cases member.enumeration with
  | none => rfl
  | some enumeration =>
      have sameTypes : (relabelling.draft draft).enumTypes = draft.enumTypes := rfl
      simp only [Draft.listEnumeration, sameTypes]
      split <;> rfl

theorem document_draft (draft : Draft) (comparisonOptions : String) :
    (relabelling.draft draft).document comparisonOptions =
      relabelling.document (draft.document comparisonOptions) := by
  simp only [Draft.document, Draft.structuralTypes, Relabelling.draft, Relabelling.document,
    List.map_append]

theorem type?_document (document : Document) (key : String) :
    (relabelling.document document).type? key = (document.type? key).map relabelling.type := by
  rw [Document.type?, Relabelling.document, List.find?_map]
  rfl

end Relabelling

/-! ## Overrides -/

namespace Overrides

variable (overrides : Overrides) (type owner : TypeExpr) (name : String)
  (settings : List MemberSetting)

theorem ofType_configureMember :
    (overrides.configureMember type name settings).ofType owner =
      if owner.key = type.key then
        { overrides.ofType type with
          members := Keyed.update name {} (settings.foldl MemberOverride.apply)
            (overrides.ofType type).members }
      else overrides.ofType owner := by
  rw [ofType, configureMember]
  split
  next same => rw [same, Keyed.lookup_update_self, Option.getD_some, ofType]
  next apart => rw [Keyed.lookup_update_of_ne apart, ofType]

/-- Saying things about a member adds to what was said about it, and to nothing else. -/
theorem ofMember_configureMember (other : Option String) :
    (overrides.configureMember type name settings).ofMember owner other =
      if owner.key = type.key ∧ other = some name then
        settings.foldl MemberOverride.apply (overrides.ofMember owner other)
      else overrides.ofMember owner other := by
  cases other with
  | none => simp [ofMember]
  | some other =>
      simp only [ofMember, ofType_configureMember, TypeOverride.ofMember]
      by_cases same : owner.key = type.key
      · have sameType : overrides.ofType owner = overrides.ofType type := by
          rw [ofType, ofType, same]
        by_cases here : other = name
        · subst here
          simp [same, sameType, Keyed.lookup_update_self]
        · simp [same, sameType, here, Keyed.lookup_update_of_ne here]
      · simp [same]

end Overrides

end EntityAtlas

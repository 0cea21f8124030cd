import EntityAtlas.Navigation
import EntityAtlas.Proofs.Steps

/-!
# What an association comes to

Describing an association reads the data properties found so far and nothing else of the worksheet.
What it comes to is a value (`Scope.resolution`): the navigation property, the carrier of the
foreign key, and what is recorded in the index of foreign keys. The draft has one say only, whether
the association has been recorded before (`describeAssociation_ok_iff`).
-/

set_option autoImplicit false

namespace EntityAtlas

open ColumnName (pascal)

/-! ## Notes on a draft -/

/-- Associations that may be recorded: no two have one name, and none has been recorded. -/
structure Draft.Admits (draft : Draft) (entries : List (String × String)) : Prop where
  distinct : (entries.map Prod.fst).Nodup
  fresh : ∀ entry ∈ entries, entry.1 ∉ draft.foreignKeys.map Prod.fst

/-- The draft with associations recorded and with further surrogates of a type. Even without any
the type may be given a place for surrogates. -/
def Draft.note (draft : Draft) (key : String) (entries : List (String × String)) (opens : Bool)
    (made : List Surrogate) : Draft :=
  { draft with
    foreignKeys := draft.foreignKeys ++ entries
    surrogates :=
      if opens || !made.isEmpty then Keyed.update key [] (· ++ made) draft.surrogates
      else draft.surrogates }

theorem note_nil (draft : Draft) (key : String) : draft.note key [] false [] = draft := by
  simp [Draft.note]

theorem note_note (draft : Draft) (key : String) (first second : List (String × String))
    (opens reopens : Bool) (made more : List Surrogate) :
    (draft.note key first opens made).note key second reopens more =
      draft.note key (first ++ second) (opens || reopens) (made ++ more) := by
  cases opens <;> cases reopens <;> cases made <;> cases more <;>
    simp [Draft.note, Keyed.update_update]

theorem ensureSurrogates_eq_note (draft : Draft) (type : TypeExpr) :
    draft.ensureSurrogates type = draft.note type.key [] true [] := by
  have same : (id : List Surrogate → List Surrogate) = (· ++ []) := by
    funext surrogates
    simp
  simp [Draft.ensureSurrogates, Draft.note, same]

namespace Draft.Admits

variable {draft : Draft} {entries : List (String × String)}

theorem nil (draft : Draft) : draft.Admits [] := ⟨by simp, by simp⟩

theorem single_iff {entry : String × String} :
    draft.Admits [entry] ↔ draft.foreignKeys.lookup entry.1 = none := by
  rw [Keyed.lookup_eq_none_iff]
  constructor
  · intro admits
    exact admits.fresh entry List.mem_cons_self
  · intro fresh
    refine ⟨by simp, ?_⟩
    intro other among
    exact List.mem_singleton.mp among ▸ fresh

/-- Recording two lists in turn is recording them together. -/
theorem append_iff (key : String) (first second : List (String × String)) (opens : Bool)
    (made : List Surrogate) :
    draft.Admits (first ++ second) ↔
      draft.Admits first ∧ (draft.note key first opens made).Admits second := by
  constructor
  · rintro ⟨distinct, fresh⟩
    rw [List.map_append, List.nodup_append] at distinct
    refine ⟨⟨distinct.1, fun entry among => fresh entry (List.mem_append_left _ among)⟩,
      distinct.2.1, fun entry among held => ?_⟩
    simp only [note, List.map_append, List.mem_append] at held
    rcases held with before | now
    · exact fresh entry (List.mem_append_right _ among) before
    · exact distinct.2.2 entry.1 now entry.1 (List.mem_map_of_mem among) rfl
  · rintro ⟨⟨distinct, fresh⟩, distinct', fresh'⟩
    simp only [note, List.map_append, List.mem_append, not_or] at fresh'
    constructor
    · rw [List.map_append, List.nodup_append]
      refine ⟨distinct, distinct', ?_⟩
      rintro _ early _ late rfl
      obtain ⟨entry, among, rfl⟩ := List.mem_map.mp late
      exact (fresh' entry among).2 early
    · intro entry among
      rcases List.mem_append.mp among with early | late
      · exact fresh entry early
      · exact (fresh' entry late).1

theorem note_iff {key : String} {opens : Bool} {made : List Surrogate} :
    (draft.note key [] opens made).Admits entries ↔ draft.Admits entries :=
  ((append_iff key [] entries opens made).trans (and_iff_right (nil draft))).symm

end Draft.Admits

/-! ## Resolutions -/

namespace KeyCarrier

/-- The data properties that a carrier adds to those of its entity. -/
def properties : KeyCarrier → List DataProperty
  | .surrogate _ property => [property]
  | _ => []

/-- The surrogates that a carrier adds to those of its entity. -/
def surrogates : KeyCarrier → List Surrogate
  | .surrogate made _ => [made]
  | _ => []

end KeyCarrier

/-- What an association comes to: its navigation property, the carrier of its foreign key, and
what is recorded of it. A collection has no carrier and is not recorded. -/
structure Resolution where
  navigation : NavigationProperty
  carrier : KeyCarrier := .members []
  entries : List (String × String) := []

namespace Resolution

/-- The data properties of an entity once one of its associations is resolved. -/
def onto (resolution : Resolution) (partOfKey : Bool) (properties : List DataProperty) :
    List DataProperty :=
  let carried := properties ++ resolution.carrier.properties
  if partOfKey then
    resolution.carrier.names.foldl (fun properties name => withKeyPart name properties) carried
  else carried

end Resolution

namespace Scope

/-- What an association to one entity comes to. -/
def reference (scope : Scope) (entity : Entity) (association : Member) (related : TypeExpr)
    (columns : List String) : KeyCarrier → Except BuildError Resolution
  | .nothing => .error (.unresolvedForeignKey entity.type association.name columns)
  | carrier =>
    .ok
      { navigation := (scope.navigation entity association related columns).withKeyNames
          association.keyOnDeclarer carrier.names
        carrier
        entries := [(relationshipName entity.type association.name, ",".intercalate columns)] }

/-- What an association comes to on an entity that has the given data properties so far. -/
def resolution (scope : Scope) (entity : Entity) (association : Member)
    (properties : List DataProperty) : Except BuildError Resolution := do
  let related ← entity.relatedType association
  let columns ← entity.foreignKeyColumns association
  if association.isCollection then
    let names ← scope.collectionKeyNames association related columns
    return { navigation :=
      { scope.navigation entity association related columns with inverseForeignKeyNames := names } }
  else
    let carrier ← scope.keyCarrier entity association related columns properties
    scope.reference entity association related columns carrier

end Scope

/-- The worksheet of an entity once one of its associations is resolved. -/
def Worksheet.resolved (sheet : Worksheet) (entity : Entity) (partOfKey : Bool)
    (resolution : Resolution) : Worksheet :=
  { draft := sheet.draft.note entity.key resolution.entries false resolution.carrier.surrogates
    properties := resolution.onto partOfKey sheet.properties }

theorem recordForeignKey_ok_iff {relationship : String} {columns : List String}
    {before after : Draft} {value : Unit} (key : String) :
    Draft.recordForeignKey relationship columns before = .ok value after ↔
      before.Admits [(relationship, ",".intercalate columns)] ∧
        after = before.note key [(relationship, ",".intercalate columns)] false [] := by
  rw [Draft.recordForeignKey_apply, Draft.Admits.single_iff]
  cases before.foreignKeys.lookup relationship with
  | none => simp [Draft.note, eq_comm]
  | some recorded => simp

theorem addSurrogate_eq_note (sheet : Worksheet) (entity : Entity) (made : Surrogate)
    (property : DataProperty) :
    sheet.addSurrogate entity made property =
      { draft := sheet.draft.note entity.key [] false [made]
        properties := sheet.properties ++ [property] } := by
  simp [Worksheet.addSurrogate, Draft.addSurrogate, Draft.note, Entity.key]

/-- The last steps of describing an association to one entity: it is recorded, and for a part of
the key the members that carry it are marked. -/
theorem recordThenMark_ok_iff {relationship : String} {columns : List String} {partOfKey : Bool}
    {names : List (Option String)} {before after : Worksheet}
    {given navigation : NavigationProperty} (key : String) :
    (do
        onDraft (Draft.recordForeignKey relationship columns)
        if partOfKey then
          modify (·.markKey names)
        return given : Describing NavigationProperty) before = .ok navigation after ↔
      before.draft.Admits [(relationship, ",".intercalate columns)] ∧ navigation = given ∧
        after =
          { draft := before.draft.note key [(relationship, ",".intercalate columns)] false []
            properties :=
              if partOfKey then
                names.foldl (fun properties name => withKeyPart name properties) before.properties
              else before.properties } := by
  cases partOfKey <;>
    simp only [bind_ok_iff, onDraft_ok_iff, recordForeignKey_ok_iff key, pure_ok_iff, modify_ok_iff,
      Bool.false_eq_true, ↓reduceIte, Worksheet.markKey] <;> grind

/-- Describing an association to one entity settles a carrier, and then only records. -/
theorem describeReference_ok_iff {scope : Scope} {entity : Entity} {association : Member}
    {partOfKey : Bool} {related : TypeExpr} {columns : List String} {before after : Worksheet}
    {navigation : NavigationProperty} :
    describeReference scope entity association partOfKey related columns before =
        .ok navigation after ↔
      ∃ carrier, scope.keyCarrier entity association related columns before.properties =
          .ok carrier ∧
        ∃ resolution, scope.reference entity association related columns carrier = .ok resolution ∧
          before.draft.Admits resolution.entries ∧ navigation = resolution.navigation ∧
          after = before.resolved entity partOfKey resolution := by
  rw [describeReference, bind_ok_iff]
  simp only [get_ok_iff, exists_and_left, and_assoc, exists_eq_left']
  rw [bind_ok_iff]
  simp only [decided_ok_iff, exists_and_left, and_assoc, exists_eq_left']
  refine exists_congr fun carrier => and_congr_right fun _ => ?_
  cases carrier with
  | nothing => simp [Scope.reference, bind_ok_iff, throw_ok_iff]
  | members names =>
      rw [recordThenMark_ok_iff entity.key]
      simp only [Scope.reference, Except.ok.injEq, exists_eq_left', Worksheet.resolved,
        Resolution.onto, KeyCarrier.names, KeyCarrier.properties,
        KeyCarrier.surrogates, List.append_nil]
  | surrogate made property =>
      rw [bind_ok_iff]
      simp only [modify_ok_iff, exists_const, exists_eq_left']
      rw [recordThenMark_ok_iff entity.key]
      simp only [Scope.reference, Except.ok.injEq, exists_eq_left', Worksheet.resolved,
        Resolution.onto, KeyCarrier.properties, KeyCarrier.surrogates,
        addSurrogate_eq_note, Draft.Admits.note_iff, note_note,
        List.nil_append, List.append_nil, Bool.or_self]

/-- **Describing an association.** It succeeds exactly when the association comes to something that
has not been recorded before. -/
theorem describeAssociation_ok_iff {scope : Scope} {entity : Entity} {association : Member}
    {partOfKey : Bool} {before after : Worksheet} {navigation : NavigationProperty} :
    describeAssociation scope entity association partOfKey before = .ok navigation after ↔
      ∃ resolution, scope.resolution entity association before.properties = .ok resolution ∧
        before.draft.Admits resolution.entries ∧ navigation = resolution.navigation ∧
        after = before.resolved entity partOfKey resolution := by
  simp only [describeAssociation, Scope.resolution, bind_ok_iff, decided_ok_iff,
    except_bind_ok_iff]
  cases collection : association.isCollection with
  | true =>
      have collected : ∀ given : NavigationProperty, before.resolved entity partOfKey
          { navigation := given } = before := by
        intro given
        cases partOfKey <;>
          simp [Worksheet.resolved, Resolution.onto, KeyCarrier.properties,
            KeyCarrier.surrogates, KeyCarrier.names, note_nil]
      simp only [↓reduceIte, bind_ok_iff, decided_ok_iff, pure_ok_iff, except_bind_ok_iff,
        except_pure_ok_iff]
      constructor
      · rintro ⟨related, _, ⟨leads, rfl⟩, columns, _, ⟨read, rfl⟩, names, _, ⟨found, rfl⟩, rfl, rfl⟩
        exact ⟨_, ⟨related, leads, columns, read, names, found, rfl⟩, .nil _, rfl,
          (collected _).symm⟩
      · rintro ⟨_, ⟨related, leads, columns, read, names, found, rfl⟩, -, rfl, rfl⟩
        exact ⟨related, before, ⟨leads, rfl⟩, columns, before, ⟨read, rfl⟩, names, before,
          ⟨found, rfl⟩, rfl, (collected _).symm⟩
  | false =>
      simp only [Bool.false_eq_true, ↓reduceIte, describeReference_ok_iff, except_bind_ok_iff]
      constructor
      · rintro ⟨related, _, ⟨leads, rfl⟩, columns, _, ⟨read, rfl⟩, carrier, carried, resolution,
          refers, admitted, outcome⟩
        exact ⟨resolution, ⟨related, leads, columns, read, carrier, carried, refers⟩, admitted,
          outcome⟩
      · rintro ⟨resolution, ⟨related, leads, columns, read, carrier, carried, refers⟩, admitted,
          outcome⟩
        exact ⟨related, before, ⟨leads, rfl⟩, columns, before, ⟨read, rfl⟩, carrier, carried,
          resolution, refers, admitted, outcome⟩

/-! ## Carriers -/

section Carriers

variable {scope : Scope} {entity : Entity} {association : Member} {related : TypeExpr}
  {columns : List String} {properties : List DataProperty} {carrier : KeyCarrier}
  {resolution : Resolution}

/-- A surrogate is one that is there, or a new one whose data property has no mapping. -/
theorem surrogateCarrier_ok {column : String}
    (settled : scope.surrogateCarrier entity association related column properties = .ok carrier) :
    (carrier = .members [some (pascal column)] ∧
        ∃ property ∈ properties, property.nameOnServer = some (pascal column)) ∨
      ∃ made property, carrier = .surrogate made property ∧
        property.nameOnServer = some made.name ∧ property.isUnmapped = true := by
  simp only [Scope.surrogateCarrier] at settled
  split at settled
  next there =>
    cases settled
    obtain ⟨property, found, -⟩ := (Option.any_eq_true _ _).mp there
    exact .inl ⟨rfl, property, List.mem_of_find?_eq_some found, by
      simpa using List.find?_some found⟩
  next absent =>
    split at settled
    next => cases settled
    next identifier found =>
      cases settled
      exact .inr ⟨_, _, rfl, rfl, rfl⟩

/-- A carrier is made of mapped members, or it is named after the one column, or there is none. -/
theorem keyCarrier_ok
    (settled : scope.keyCarrier entity association related columns properties = .ok carrier) :
    (∃ names, scope.mappedKeyNames entity association related columns = .ok (some names) ∧
        carrier = .members names) ∨
      scope.mappedKeyNames entity association related columns = .ok none ∧
        ((∃ column, columns = [column] ∧ association.keyOnDeclarer = true ∧
            scope.surrogateCarrier entity association related column properties = .ok carrier) ∨
          (∃ column, columns = [column] ∧ association.keyOnDeclarer = false ∧
            carrier = .members [some (pascal column)]) ∨
          carrier = .nothing) := by
  unfold Scope.keyCarrier at settled
  obtain ⟨mapped, names, settled⟩ := except_bind_ok_iff.mp settled
  cases mapped with
  | some given =>
      cases settled
      exact .inl ⟨given, names, rfl⟩
  | none =>
      refine .inr ⟨names, ?_⟩
      rcases columns with _ | ⟨column, _ | ⟨second, rest⟩⟩
      · cases settled
        exact .inr (.inr rfl)
      · cases onDeclarer : association.keyOnDeclarer with
        | true =>
            simp only [onDeclarer, ↓reduceIte] at settled
            exact .inl ⟨column, rfl, rfl, settled⟩
        | false =>
            simp only [onDeclarer, Bool.false_eq_true, ↓reduceIte] at settled
            cases settled
            exact .inr (.inl ⟨column, rfl, rfl, rfl⟩)
      · cases settled
        exact .inr (.inr rfl)

/-- The data property of a surrogate bears its name and has no mapping. -/
theorem carrier_property
    (settled : scope.keyCarrier entity association related columns properties = .ok carrier)
    {property : DataProperty} (among : property ∈ carrier.properties) :
    property.nameOnServer ∈ carrier.names ∧ property.isUnmapped = true := by
  cases carrier with
  | nothing => cases among
  | members names => cases among
  | surrogate made given =>
      obtain rfl := List.mem_singleton.mp among
      rcases keyCarrier_ok settled with ⟨_, -, same⟩ | ⟨-, found | ⟨_, -, -, same⟩ | same⟩
      · cases same
      · obtain ⟨column, -, -, settled⟩ := found
        rcases surrogateCarrier_ok settled with ⟨same, -⟩ | ⟨_, _, same, named, unmapped⟩
        · cases same
        · cases same
          exact ⟨List.mem_singleton.mpr named, unmapped⟩
      · cases same
      · cases same

/-- What an association comes to: for a collection only a navigation property, otherwise a carrier
as well, and a record under the name of the association. -/
theorem resolution_ok (comes : scope.resolution entity association properties = .ok resolution) :
    ∃ related columns, entity.relatedType association = .ok related ∧
      entity.foreignKeyColumns association = .ok columns ∧
      ((association.isCollection = true ∧
          ∃ names, scope.collectionKeyNames association related columns = .ok names ∧
            resolution = { navigation :=
              { scope.navigation entity association related columns with
                inverseForeignKeyNames := names } }) ∨
        (association.isCollection = false ∧
          ∃ carrier, scope.keyCarrier entity association related columns properties = .ok carrier ∧
            resolution =
              { navigation := (scope.navigation entity association related columns).withKeyNames
                  association.keyOnDeclarer carrier.names
                carrier
                entries := [(relationshipName entity.type association.name,
                  ",".intercalate columns)] })) := by
  simp only [Scope.resolution, except_bind_ok_iff] at comes
  obtain ⟨related, leads, columns, mapped, comes⟩ := comes
  refine ⟨related, columns, leads, mapped, ?_⟩
  cases collection : association.isCollection with
  | true =>
      rw [collection, if_pos rfl, except_bind_ok_iff] at comes
      obtain ⟨names, found, comes⟩ := comes
      exact .inl ⟨rfl, names, found, (except_pure_ok_iff.mp comes).symm⟩
  | false =>
      rw [collection, if_neg (by simp), except_bind_ok_iff] at comes
      obtain ⟨carrier, settled, comes⟩ := comes
      refine .inr ⟨rfl, carrier, settled, ?_⟩
      cases carrier <;> cases comes <;> rfl

/-- The navigation property of an association bears its name and says whether it leads to one
entity. Only then is the association recorded, under its own name. -/
theorem navigation_of_resolution
    (comes : scope.resolution entity association properties = .ok resolution) :
    resolution.navigation.nameOnServer = association.name ∧
      resolution.navigation.isScalar = !association.isCollection ∧
      resolution.entries.map Prod.fst =
        if association.isCollection then []
        else [relationshipName entity.type association.name] := by
  obtain ⟨related, columns, -, -, ⟨collection, names, -, rfl⟩ | ⟨one, carrier, -, rfl⟩⟩ :=
    resolution_ok comes
  · simp [collection, Scope.navigation]
  · cases onDeclarer : association.keyOnDeclarer <;>
      simp [one, Scope.navigation, NavigationProperty.withKeyNames]

/-- The data properties that an association adds have no mapping. -/
theorem isUnmapped_of_resolution
    (comes : scope.resolution entity association properties = .ok resolution) :
    ∀ property ∈ resolution.carrier.properties, property.isUnmapped = true := by
  obtain ⟨related, columns, -, -, ⟨-, names, -, rfl⟩ | ⟨-, carrier, settled, rfl⟩⟩ :=
    resolution_ok comes
  · exact fun property among => by cases among
  · exact fun property among => (carrier_property settled among).2

end Carriers

end EntityAtlas

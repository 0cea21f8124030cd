import EntityAtlas.Proofs.DocumentShape
import EntityAtlas.Proofs.Members

/-!
# The index of foreign keys

Clients see the associations to one entity as navigation properties; the server keeps the columns
behind them in an index. The two never part: read in the order of the document, the navigation
properties to one entity are the entries of the index, one for one (`build_indexesReferences`).
Both follow the published associations of the participants. What one association comes to is a
navigation property and at most one record (`shows_of_resolves`), and lists of associations only put
these together.
-/

set_option autoImplicit false

namespace EntityAtlas

/-- The name of a structural type with its namespace in front, if it has one. -/
def StructuralType.fullName (type : StructuralType) : String :=
  TypeExpr.fullName { name := shownName type.shortName, space := type.space.getD "" }

namespace Document

/-- The navigation properties to one entity, each with its type: those of the first entity type,
then those of the next. -/
def references (document : Document) : List (StructuralType × NavigationProperty) :=
  document.entityTypes.flatMap fun type =>
    (type.navigationProperties.filter (·.isScalar)).map fun navigation => (type, navigation)

/-- The index of foreign keys mirrors the navigation properties of a document, which come from the
given associations of entities. -/
structure IndexesReferences (document : Document) (associations : List (Entity × Member)) :
    Prop where
  /-- The navigation properties to one entity are those of the associations, in order. -/
  references : (document.references.map fun shown => (shown.1.key, shown.2.nameOnServer)) =
    associations.map fun given => (given.1.key, given.2.name)
  /-- Each has an entry under the name of its type and its own name, and there are no others. -/
  names : document.foreignKeys.map Prod.fst = document.references.map fun shown =>
    shown.1.fullName ++ "." ++ shownName shown.2.nameOnServer
  /-- The entry holds the columns of the association. -/
  columns : (document.foreignKeys.map fun entry => Except.ok entry.2) =
    associations.map fun given => (given.1.foreignKeyColumns given.2).map (",".intercalate ·)
  /-- No two navigation properties share an entry. -/
  distinct : (document.foreignKeys.map Prod.fst).Nodup
  /-- Complex types have no navigation properties. -/
  complexTypes : ∀ type ∈ document.complexTypes, type.navigationProperties = []

end Document

/-- The associations to one entity that become navigation properties, those of the key first. -/
def Scope.references (scope : Scope) (entity : Entity) : List Member :=
  (scope.keyLinks entity ++ scope.linkMembers entity).filter (!·.isCollection)

/-- The associations of the participants that lead to one entity, in the order of the
participants. -/
def BuildOptions.references (options : BuildOptions) (catalogue : Catalogue) :
    List (Entity × Member) :=
  (options.participants catalogue).flatMap fun entity =>
    ((options.scope catalogue).references entity).map fun association => (entity, association)

/-! ## Names in the index -/

/-- What stands before the last point and what stands after it are known from the whole. -/
theorem eq_of_append_point {before front : List Char} {after back : List Char}
    (last : '.' ∉ after) (final : '.' ∉ back)
    (same : before ++ '.' :: after = front ++ '.' :: back) : before = front ∧ after = back := by
  -- If one side were longer before its point, the point of the other would stand after it.
  rcases List.append_eq_append_iff.mp same with ⟨between, rfl, tail⟩ | ⟨between, rfl, tail⟩
  · cases between with
    | nil => exact ⟨(List.append_nil before).symm, (List.cons.inj tail).2⟩
    | cons char rest => exact (last (by simp [(List.cons.inj tail).2])).elim
  · cases between with
    | nil => exact ⟨List.append_nil front, (List.cons.inj tail).2.symm⟩
    | cons char rest => exact (final (by simp [(List.cons.inj tail).2])).elim

/-- Types with one full name have one key, if their own names have no points. -/
theorem TypeExpr.key_of_fullName {type other : TypeExpr} (plain : '.' ∉ type.name.toList)
    (plain' : '.' ∉ other.name.toList) (same : type.fullName = other.fullName) :
    type.key = other.key := by
  have letters := congrArg String.toList same
  unfold TypeExpr.fullName at letters
  unfold TypeExpr.key
  split at letters <;> split at letters
  next bare bare' => rw [bare, bare', String.toList_injective letters]
  next bare spaced => exact (plain (by simp [letters])).elim
  next spaced bare => exact (plain' (by simp [← letters])).elim
  next spaced spaced' =>
    simp only [String.toList_append, List.append_assoc] at letters
    obtain ⟨spaces, names⟩ := eq_of_append_point plain plain' letters
    rw [String.toList_injective spaces, String.toList_injective names]

/-- The name in the index tells the type and the association, if their names have no points. -/
theorem relationshipName_inj {type other : TypeExpr} {name otherName : String}
    (plain : '.' ∉ type.name.toList ∧ '.' ∉ name.toList)
    (plain' : '.' ∉ other.name.toList ∧ '.' ∉ otherName.toList)
    (same : relationshipName type (some name) = relationshipName other (some otherName)) :
    type.key = other.key ∧ name = otherName := by
  have letters := congrArg String.toList same
  simp only [relationshipName, String.toList_append, List.append_assoc] at letters
  obtain ⟨types, names⟩ := eq_of_append_point plain.2 plain'.2 letters
  exact ⟨TypeExpr.key_of_fullName plain.1 plain'.1 (String.toList_injective types),
    String.toList_injective names⟩

/-! ## Entries of one entity -/

section Entities

variable {scope : Scope} {entity : Entity}

/-- What an association comes to: a record of its columns if it leads to one entity, and none if it
is a collection. -/
theorem columns_of_resolution {association : Member} {properties : List DataProperty}
    {resolution : Resolution}
    (comes : scope.resolution entity association properties = .ok resolution) :
    (resolution.entries.map fun entry => (Except.ok entry.2 : Except BuildError String)) =
      if association.isCollection then []
      else [(entity.foreignKeyColumns association).map (",".intercalate ·)] := by
  obtain ⟨related, columns, -, read, ⟨collection, names, -, rfl⟩ | ⟨one, carrier, -, rfl⟩⟩ :=
    resolution_ok comes
  · simp [collection]
  · simp [one, read, Except.map]

/-- The records of some associations hold the columns of those that lead to one entity. -/
theorem columns_of_resolves {names : List (Option String)} {members : List Member}
    {resolutions : List Resolution}
    (resolves : List.Forall₂ (scope.Resolves entity names) members resolutions) :
    ((resolutions.flatMap (·.entries)).map fun entry => Except.ok entry.2) =
      (members.filter (!·.isCollection)).map fun association =>
        (entity.foreignKeyColumns association).map (",".intercalate ·) := by
  induction resolves with
  | nil => rfl
  | @cons member resolution members resolutions first rest ih =>
      obtain ⟨_, comes, -⟩ := first
      rw [List.flatMap_cons, List.map_append, ih, columns_of_resolution comes]
      cases collection : member.isCollection <;> simp [collection]

/-- The navigation properties to one entity come from the associations that lead to one entity. -/
theorem references_of_resolves {names : List (Option String)} {members : List Member}
    {resolutions : List Resolution}
    (resolves : List.Forall₂ (scope.Resolves entity names) members resolutions) :
    ((resolutions.map (·.navigation)).filter (·.isScalar)).map (·.nameOnServer) =
      (members.filter (!·.isCollection)).map (·.name) := by
  induction resolves with
  | nil => rfl
  | @cons member resolution members resolutions first rest ih =>
      obtain ⟨_, comes, -⟩ := first
      obtain ⟨named, scalar, -⟩ := navigation_of_resolution comes
      rw [List.map_cons]
      cases collection : member.isCollection <;> simp [scalar, collection, named, ih]

variable (profiled : scope.profile entity = .ok (scope.profileOf entity))
include profiled

theorem columns_profileOf :
    ((scope.profileOf entity).entries.map fun entry => Except.ok entry.2) =
      (scope.references entity).map fun association =>
        (entity.foreignKeyColumns association).map (",".intercalate ·) :=
  columns_of_resolves (profile_resolves profiled).2

theorem references_profileOf :
    ((scope.profileOf entity).navigations.filter (·.isScalar)).map (·.nameOnServer) =
      (scope.references entity).map (·.name) :=
  references_of_resolves (profile_resolves profiled).2

theorem names_profileOf :
    (scope.profileOf entity).entries.map Prod.fst =
      ((scope.profileOf entity).navigations.filter (·.isScalar)).map fun navigation =>
        relationshipName entity.type navigation.nameOnServer :=
  entries_of_resolves (profile_resolves profiled).2

end Entities

/-! ## Builds -/

section Builds

variable {catalogue : Catalogue} {options : BuildOptions}

/-- The navigation properties to one entity in a draft, entity by entity. -/
theorem references_document {scope : Scope} {resourceName : TypeExpr → Option String}
    {done : List Entity} {draft : Draft} (published : Published scope resourceName done draft)
    (comparisonOptions : String) :
    (draft.document comparisonOptions).references = done.flatMap fun entity =>
      ((scope.profileOf entity).navigations.filter (·.isScalar)).map fun navigation =>
        (scope.node entity (resourceName entity.type), navigation) := by
  rw [Document.references, entityTypes_document published, published.entityTypes, List.flatMap_map]
  rfl

/-- **The index of foreign keys.** In the document of a build that succeeds it mirrors the
navigation properties to one entity. -/
theorem build_indexesReferences {edition : Edition}
    (built : build catalogue options = .ok edition) :
    edition.document.IndexesReferences (options.references catalogue) := by
  obtain ⟨draft, published, document, -⟩ := build_published built
  have references := references_document published options.comparisonOptions
  have foreignKeys : edition.document.foreignKeys = (options.participants catalogue).flatMap
      fun entity => ((options.scope catalogue).profileOf entity).entries :=
    document ▸ published.foreignKeys
  rw [← document] at references
  exact {
    references := by
      rw [references, BuildOptions.references, List.map_flatMap, List.map_flatMap]
      refine List.flatMap_congr fun entity among => ?_
      have shown := congrArg (List.map fun name => (entity.key, name))
        (references_profileOf (published.profiled entity among))
      rw [List.map_map, List.map_map] at shown ⊢
      exact shown
    names := by
      rw [references, foreignKeys, List.map_flatMap, List.map_flatMap]
      refine List.flatMap_congr fun entity among => ?_
      rw [names_profileOf (published.profiled entity among), List.map_map]
      rfl
    columns := by
      rw [foreignKeys, BuildOptions.references, List.map_flatMap, List.map_flatMap]
      refine List.flatMap_congr fun entity among => ?_
      rw [columns_profileOf (published.profiled entity among), List.map_map]
      rfl
    distinct := document ▸ published.distinctForeignKeys
    complexTypes := fun type among => by
      rw [document, complexTypes_document published] at among
      obtain ⟨component, rfl⟩ := exists_component_of_mem published among
      rfl }

end Builds

/-- The index of the sample mirrors its document. -/
theorem build_indexesReferences_sample :
    ∃ edition, build Sample.catalogue Sample.options = .ok edition ∧
      edition.document.IndexesReferences (Sample.options.references Sample.catalogue) := by
  obtain ⟨edition, built⟩ := Sample.exists_edition
  exact ⟨edition, built, build_indexesReferences built⟩

end EntityAtlas

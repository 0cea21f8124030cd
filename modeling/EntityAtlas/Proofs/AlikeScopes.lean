import EntityAtlas.Proofs.Hierarchy
import EntityAtlas.Proofs.Publication
import EntityAtlas.SurrogateTable
import Mathlib.Data.List.Flatten

/-!
# Scopes that are alike

An entity comes to the same in two scopes that answer its questions alike (`Scope.Alike`): with the
same overrides and lookups, and with the same names and the same base inherited. Related entities
are looked up without regard to who takes part, so the rest of the participants does not matter.
-/

set_option autoImplicit false

namespace EntityAtlas

/-- Two scopes answer alike what an entity asks of them. -/
structure Scope.Alike (scope other : Scope) (entity : Entity) : Prop where
  overrides : scope.overrides = other.overrides
  orphanDelete : scope.orphanDelete = other.orphanDelete
  lookups : ∀ key, scope.catalogue.find? key = other.catalogue.find? key
  inheritedNames : scope.inheritedNames entity = other.inheritedNames entity
  base : (entity.superclass.map (·.key)).filter scope.includes =
    (entity.superclass.map (·.key)).filter other.includes

namespace Scope

/-- The contents of a complex type depend on the overrides only. -/
theorem complexType_congr {scope other : Scope} (overrides : scope.overrides = other.overrides) :
    scope.complexType = other.complexType := by
  have parts : scope.partProperty = other.partProperty := by
    funext owner member
    simp only [partProperty, embeddedProperty, scalarProperty, overrides]
  funext component
  rw [complexType, complexType, parts]

/-- Walks that pass over who takes part depend on the lookups only. -/
theorem ancestors_false_congr {scope other : Scope}
    (lookups : ∀ key, scope.catalogue.find? key = other.catalogue.find? key) (entity : Entity) :
    scope.ancestors false entity = other.ancestors false entity :=
  Catalogue.lineageFrom_congr (fun _ => True)
    (fun entity _ => by simp only [Catalogue.parent?, lookups])
    (fun _ _ _ _ => ⟨trivial, rfl⟩) _ entity trivial

namespace Alike

variable {scope other : Scope} {entity : Entity}

/-- Scopes are alike for an entity if from it on they let the same superclasses take part. -/
theorem of_includes (overrides : scope.overrides = other.overrides)
    (orphanDelete : scope.orphanDelete = other.orphanDelete)
    (lookups : ∀ key, scope.catalogue.find? key = other.catalogue.find? key)
    (stays : Entity → Prop)
    (includes : ∀ entity, stays entity → ∀ base, entity.superclass = some base →
      scope.includes base.key = other.includes base.key)
    (climbs : ∀ entity, stays entity → ∀ parent,
      scope.catalogue.parent? entity = some parent → stays parent)
    (here : stays entity) : scope.Alike other entity := by
  have parents : ∀ entity, scope.catalogue.parent? entity = other.catalogue.parent? entity := by
    intro entity
    simp only [Catalogue.parent?, lookups]
  have ancestors : scope.ancestors true entity = other.ancestors true entity := by
    refine Catalogue.lineageFrom_congr stays (fun entity _ => parents entity) ?_ _ entity here
    intro entity here parent leads
    obtain ⟨base, based, found⟩ := Option.bind_eq_some_iff.mp leads
    refine ⟨climbs entity here parent leads, ?_⟩
    rw [Catalogue.key_of_find? found, includes entity here base based]
  refine ⟨overrides, orphanDelete, lookups, ?_, ?_⟩
  · rw [Scope.inheritedNames, Scope.inheritedNames, ancestors]
  · cases based : entity.superclass with
    | none => rfl
    | some base =>
        rw [Option.map_some, Option.filter_some, Option.filter_some,
          includes entity here base based]

/-! ## Members -/

theorem publishesData_eq (alike : scope.Alike other entity) :
    scope.publishesData entity = other.publishesData entity := by
  funext member
  rw [publishesData, publishesData, alike.inheritedNames, alike.overrides]

theorem dataMembers_eq (alike : scope.Alike other entity) :
    scope.dataMembers entity = other.dataMembers entity := by
  rw [dataMembers, dataMembers, alike.publishesData_eq]

theorem scalarProperty_eq (alike : scope.Alike other entity) :
    scope.scalarProperty = other.scalarProperty := by
  funext owner member isNullable
  rw [scalarProperty, scalarProperty, alike.overrides]

theorem memberProperty_eq (alike : scope.Alike other entity) :
    scope.memberProperty entity = other.memberProperty entity := by
  funext member
  rw [memberProperty, memberProperty, alike.scalarProperty_eq]
  simp only [embeddedProperty, alike.overrides]

theorem keyProperty_eq (alike : scope.Alike other entity) :
    scope.keyProperty entity = other.keyProperty entity := by
  funext part isNullable
  rw [keyProperty, keyProperty, alike.scalarProperty_eq]

theorem keyMembers_eq (alike : scope.Alike other entity) :
    scope.keyMembers entity = other.keyMembers entity := by
  have parts : scope.publishesPart entity = other.publishesPart entity := by
    funext part
    rw [publishesPart, publishesPart, alike.inheritedNames]
  simp only [keyMembers, parts, alike.inheritedNames]

theorem linkMembers_eq (alike : scope.Alike other entity) :
    scope.linkMembers entity = other.linkMembers entity := by
  have links : scope.publishesLink entity = other.publishesLink entity := by
    funext member
    rw [publishesLink, publishesLink, alike.inheritedNames, alike.overrides]
  rw [linkMembers, linkMembers, links]

theorem inheritsLink_eq (alike : scope.Alike other entity) :
    scope.inheritsLink entity = other.inheritsLink entity := by
  funext members
  rw [inheritsLink, inheritsLink, alike.inheritedNames]

theorem customProperties_eq (alike : scope.Alike other entity) :
    customProperties scope entity = customProperties other entity := by
  rw [customProperties, customProperties, alike.overrides]

/-! ## Associations -/

theorem navigation_eq (alike : scope.Alike other entity) :
    scope.navigation entity = other.navigation entity := by
  funext association related columns
  have declarer : scope.declarer = other.declarer := by
    funext entity name
    rw [Scope.declarer, Scope.declarer, ancestors_false_congr alike.lookups]
  simp only [navigation, associationTypeName, declarer, alike.overrides, alike.orphanDelete,
    alike.lookups]

theorem keyCarrier_eq (alike : scope.Alike other entity) :
    scope.keyCarrier entity = other.keyCarrier entity := by
  funext association related columns properties
  simp only [keyCarrier, mappedKeyNames, surrogateCarrier, alike.lookups, alike.overrides]

theorem resolution_eq (alike : scope.Alike other entity) :
    scope.resolution entity = other.resolution entity := by
  funext association properties
  have reference : scope.reference entity association = other.reference entity association := by
    funext related columns carrier
    cases carrier <;> simp only [Scope.reference, alike.navigation_eq]
  simp only [resolution, collectionKeyNames, alike.lookups, alike.navigation_eq,
    alike.keyCarrier_eq, reference]

theorem partResolutions_eq (alike : scope.Alike other entity) (position : Nat)
    (parts : List Member) (properties : List DataProperty) :
    scope.partResolutions entity position parts properties =
      other.partResolutions entity position parts properties := by
  induction parts generalizing position properties with
  | nil => rfl
  | cons part rest ih =>
      simp only [partResolutions, alike.inheritedNames, alike.resolution_eq, alike.keyProperty_eq,
        ih]

theorem keyResolutions_eq (alike : scope.Alike other entity) :
    scope.keyResolutions entity = other.keyResolutions entity := by
  funext properties
  simp only [keyResolutions, alike.inheritedNames, alike.keyProperty_eq, alike.partResolutions_eq]

theorem linkResolutions_eq (alike : scope.Alike other entity) (members : List Member)
    (properties : List DataProperty) :
    scope.linkResolutions entity members properties =
      other.linkResolutions entity members properties := by
  induction members generalizing properties with
  | nil => rfl
  | cons member rest ih => simp only [linkResolutions, alike.resolution_eq, ih]

/-! ## The entity -/

/-- **Alike scopes give an entity one profile.** -/
theorem profile_eq (alike : scope.Alike other entity) :
    scope.profile entity = other.profile entity := by
  simp only [profile, alike.dataMembers_eq, alike.memberProperty_eq, alike.keyResolutions_eq,
    alike.linkMembers_eq, alike.customProperties_eq, alike.linkResolutions_eq]

theorem profileOf_eq (alike : scope.Alike other entity) :
    scope.profileOf entity = other.profileOf entity := by
  rw [profileOf, profileOf, alike.profile_eq]

theorem node_eq (alike : scope.Alike other entity) (resource : Option String) :
    scope.node entity resource = other.node entity resource := by
  rw [node, node, entityType, entityType, alike.base, alike.profileOf_eq]

theorem embeddedTypes_eq (alike : scope.Alike other entity) :
    scope.embeddedTypes entity = other.embeddedTypes entity := by
  rw [embeddedTypes, embeddedTypes, alike.dataMembers_eq]

theorem mentioned_eq (alike : scope.Alike other entity) :
    scope.mentioned entity = other.mentioned entity := by
  rw [mentioned, mentioned, alike.dataMembers_eq, alike.embeddedTypes_eq, alike.keyMembers_eq]

theorem keepsSurrogates_eq (alike : scope.Alike other entity) :
    scope.keepsSurrogates entity = other.keepsSurrogates entity := by
  rw [keepsSurrogates, keepsSurrogates, alike.inheritsLink_eq, alike.profileOf_eq]

end Alike

end Scope

/-! ## Publishable entities -/

namespace Publishable

variable {scope other : Scope} {resourceName : TypeExpr → Option String}
  {entities others : List Entity}

/-- Entities stay publishable in a scope that is alike for each of them. -/
theorem congr (publishable : Publishable scope resourceName entities)
    (alike : ∀ entity ∈ entities, scope.Alike other entity) :
    Publishable other resourceName entities := by
  have types : entities.flatMap scope.embeddedTypes = entities.flatMap other.embeddedTypes :=
    List.flatMap_congr fun entity among => (alike entity among).embeddedTypes_eq
  have entries : (entities.flatMap fun entity => (scope.profileOf entity).entries) =
      entities.flatMap fun entity => (other.profileOf entity).entries :=
    List.flatMap_congr fun entity among => by rw [(alike entity among).profileOf_eq]
  exact {
    distinctKeys := publishable.distinctKeys
    named := publishable.named
    distinctNames := publishable.distinctNames
    profiled := fun entity among => by
      rw [← (alike entity among).profile_eq, ← (alike entity among).profileOf_eq]
      exact publishable.profiled entity among
    distinctEntries := entries ▸ publishable.distinctEntries
    plain := types ▸ publishable.plain
    apart := types ▸ publishable.apart }

/-- Publishable entities may come in any order. -/
theorem of_perm (publishable : Publishable scope resourceName entities)
    (perm : entities.Perm others) : Publishable scope resourceName others where
  distinctKeys := (perm.map _).nodup publishable.distinctKeys
  named entity among := publishable.named entity (perm.mem_iff.mpr among)
  distinctNames := (perm.map _).nodup publishable.distinctNames
  profiled entity among := publishable.profiled entity (perm.mem_iff.mpr among)
  distinctEntries := ((perm.flatMap_right _).map _).nodup publishable.distinctEntries
  plain := publishable.plain.of_subset fun _ among => (perm.flatMap_right _).mem_iff.mpr among
  apart component among taken := publishable.apart component
    ((perm.flatMap_right _).mem_iff.mpr among) ((perm.map _).mem_iff.mpr taken)

/-- Some of the publishable entities are publishable. -/
theorem of_sublist (publishable : Publishable scope resourceName entities)
    (sublist : others.Sublist entities) : Publishable scope resourceName others where
  distinctKeys := (sublist.map _).nodup publishable.distinctKeys
  named entity among := publishable.named entity (sublist.mem among)
  distinctNames := (sublist.map _).nodup publishable.distinctNames
  profiled entity among := publishable.profiled entity (sublist.mem among)
  distinctEntries := ((sublist.flatMap _).map _).nodup publishable.distinctEntries
  plain := publishable.plain.of_subset fun _ among => (sublist.flatMap _).mem among
  apart component among taken := publishable.apart component ((sublist.flatMap _).mem among)
    ((sublist.map _).mem taken)

end Publishable

/-! ## Surrogates -/

namespace SurrogateTable

/-- Taking over asks a table for a type and its superclasses only. -/
theorem ofKey_inherited_congr (catalogue : Catalogue) {table other : SurrogateTable} {key : String}
    (own : table.lookup key = other.lookup key)
    (above : ∀ superclass ∈ catalogue.superclassKeys key,
      table.lookup superclass = other.lookup superclass) :
    (inherited catalogue table).ofKey key = (inherited catalogue other).ofKey key := by
  rw [ofKey_inherited, ofKey_inherited, own]
  refine congrArg (Option.getD · []) (congrArg (Option.map · _) (funext fun made => ?_))
  apply List.foldl_ext
  intro _ superclass among
  rw [ofKey, ofKey, above superclass among]

end SurrogateTable

end EntityAtlas

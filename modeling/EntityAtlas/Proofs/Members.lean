import EntityAtlas.Proofs.Publication
import Mathlib.Data.List.Flatten
import Mathlib.Data.List.Forall2

/-!
# Members of a profile

The data properties of a profile that are mapped are those of its data members and of its key, each
once, and its navigation properties are those of the associations of the key and then of the others
(`profile_resolves`). What an association says of its foreign key was settled on data properties
that are still there in the end.
-/

set_option autoImplicit false

namespace EntityAtlas

/-! ## Names of data properties -/

/-- The names of the data properties that have a mapping. -/
def mappedNames (properties : List DataProperty) : List (Option String) :=
  (properties.filter (!·.isUnmapped)).map (·.nameOnServer)

theorem mappedNames_append (properties others : List DataProperty) :
    mappedNames (properties ++ others) = mappedNames properties ++ mappedNames others := by
  simp [mappedNames]

theorem mappedNames_of_mapped {properties : List DataProperty}
    (mapped : ∀ property ∈ properties, property.isUnmapped = false) :
    mappedNames properties = properties.map (·.nameOnServer) := by
  rw [mappedNames, List.filter_eq_self.mpr]
  exact fun property among => by simp [mapped property among]

theorem mappedNames_of_unmapped {properties : List DataProperty}
    (unmapped : ∀ property ∈ properties, property.isUnmapped = true) :
    mappedNames properties = [] := by
  rw [mappedNames, List.filter_eq_nil_iff.mpr, List.map_nil]
  exact fun property among => by simp [unmapped property among]

/-- Marking parts of the key leaves open what is mapped. -/
theorem mappedNames_withKeyPart (name : Option String) (properties : List DataProperty) :
    mappedNames (withKeyPart name properties) = mappedNames properties := by
  induction properties with
  | nil => rfl
  | cons property rest ih =>
      unfold mappedNames at ih ⊢
      unfold withKeyPart
      split
      next => cases unmapped : property.isUnmapped <;> simp [unmapped]
      next => cases unmapped : property.isUnmapped <;> simp [unmapped, ih]

/-- What marking a part of the key keeps, marking several parts keeps. -/
theorem foldl_withKeyPart {α : Type} (view : List DataProperty → α)
    (kept : ∀ name properties, view (withKeyPart name properties) = view properties)
    (names : List (Option String)) (properties : List DataProperty) :
    view (names.foldl (fun properties name => withKeyPart name properties) properties) =
      view properties := by
  induction names generalizing properties with
  | nil => rfl
  | cons name rest ih => rw [List.foldl_cons, ih, kept]

namespace Resolution

theorem names_onto (resolution : Resolution) (partOfKey : Bool) (properties : List DataProperty) :
    (resolution.onto partOfKey properties).map (·.nameOnServer) =
      (properties ++ resolution.carrier.properties).map (·.nameOnServer) := by
  cases partOfKey with
  | false => rfl
  | true => exact foldl_withKeyPart _ map_nameOnServer_withKeyPart _ _

/-- An association adds nothing that is mapped. -/
theorem mappedNames_onto {resolution : Resolution}
    (unmapped : ∀ property ∈ resolution.carrier.properties, property.isUnmapped = true)
    (partOfKey : Bool) (properties : List DataProperty) :
    mappedNames (resolution.onto partOfKey properties) = mappedNames properties := by
  have carried : mappedNames (properties ++ resolution.carrier.properties) =
      mappedNames properties := by
    rw [mappedNames_append, mappedNames_of_unmapped unmapped, List.append_nil]
  cases partOfKey with
  | false => exact carried
  | true => exact (foldl_withKeyPart _ mappedNames_withKeyPart _ _).trans carried

theorem length_onto_le (resolution : Resolution) (partOfKey : Bool)
    (properties : List DataProperty) :
    properties.length ≤ (resolution.onto partOfKey properties).length := by
  have names := congrArg List.length (resolution.names_onto partOfKey properties)
  simp only [List.length_map, List.length_append] at names
  omega

end Resolution

/-! ## Associations in order -/

/-- An association came to something over data properties whose names, with that of a surrogate made
for it, are among the given ones. -/
def Scope.Resolves (scope : Scope) (entity : Entity) (names : List (Option String))
    (association : Member) (resolution : Resolution) : Prop :=
  ∃ properties, scope.resolution entity association properties = .ok resolution ∧
    (properties ++ resolution.carrier.properties).map (·.nameOnServer) ⊆ names

/-- The associations among the parts of a composite identifier that become navigation
properties. -/
def Scope.keyLinks (scope : Scope) (entity : Entity) : List Member :=
  (entity.keyParts?.getD []).filter fun part =>
    !(scope.inheritedNames entity).contains part.name && part.isAssociation

section Order

variable {scope : Scope} {entity : Entity}

theorem linkResolutions_resolves {members : List Member} {properties final : List DataProperty}
    {resolutions : List Resolution}
    (planned : scope.linkResolutions entity members properties = .ok (resolutions, final)) :
    properties.map (·.nameOnServer) ⊆ final.map (·.nameOnServer) ∧
      mappedNames final = mappedNames properties ∧
      List.Forall₂ (scope.Resolves entity (final.map (·.nameOnServer))) members resolutions := by
  induction members generalizing properties resolutions with
  | nil =>
      cases planned
      exact ⟨List.Subset.refl _, rfl, .nil⟩
  | cons member rest ih =>
      simp only [Scope.linkResolutions, except_bind_ok_iff, except_pure_ok_iff, Prod.exists,
        Prod.mk.injEq] at planned
      obtain ⟨resolution, comes, resolutions, _, restPlanned, rfl, rfl⟩ := planned
      obtain ⟨kept, mapped, resolves⟩ := ih restPlanned
      rw [Resolution.names_onto] at kept
      rw [Resolution.mappedNames_onto (isUnmapped_of_resolution comes)] at mapped
      refine ⟨fun name among => kept ?_, mapped, .cons ⟨properties, comes, kept⟩ resolves⟩
      rw [List.map_append]
      exact List.mem_append_left _ among

/-- The scalar parts of a composite identifier are put in front, and the associations among its
parts are resolved, in order. -/
theorem partResolutions_resolves {position : Nat} {parts : List Member}
    {properties final : List DataProperty} {resolutions : List Resolution}
    (inside : position ≤ properties.length)
    (planned : scope.partResolutions entity position parts properties = .ok (resolutions, final)) :
    properties.map (·.nameOnServer) ⊆ final.map (·.nameOnServer) ∧
      (mappedNames final).Perm
        ((parts.filter (scope.publishesPart entity)).map (·.name) ++ mappedNames properties) ∧
      List.Forall₂ (scope.Resolves entity (final.map (·.nameOnServer)))
        (parts.filter fun part =>
          !(scope.inheritedNames entity).contains part.name && part.isAssociation)
        resolutions := by
  induction parts generalizing position properties resolutions with
  | nil =>
      cases planned
      exact ⟨List.Subset.refl _, .refl _, .nil⟩
  | cons part rest ih =>
      unfold Scope.partResolutions at planned
      cases inherited : (scope.inheritedNames entity).contains part.name with
      | true =>
          rw [inherited, if_pos rfl] at planned
          obtain ⟨kept, mapped, resolves⟩ := ih inside planned
          rw [List.filter_cons_of_neg (by simp only [Scope.publishesPart, inherited]; simp),
            List.filter_cons_of_neg (by simp only [inherited]; simp)]
          exact ⟨kept, mapped, resolves⟩
      | false =>
          rw [inherited, if_neg (by simp)] at planned
          cases association : part.isAssociation with
          | true =>
              rw [association, if_pos rfl] at planned
              simp only [except_bind_ok_iff, except_pure_ok_iff, Prod.exists,
                Prod.mk.injEq] at planned
              obtain ⟨resolution, comes, resolutions, _, restPlanned, rfl, rfl⟩ := planned
              obtain ⟨kept, mapped, resolves⟩ :=
                ih (Nat.le_trans inside (resolution.length_onto_le true properties)) restPlanned
              rw [Resolution.names_onto] at kept
              rw [Resolution.mappedNames_onto (isUnmapped_of_resolution comes)] at mapped
              rw [List.filter_cons_of_neg (by simp [Scope.publishesPart, association]),
                List.filter_cons_of_pos (by simp only [inherited, association]; rfl)]
              refine ⟨fun name among => kept ?_, mapped, .cons ⟨properties, comes, kept⟩ resolves⟩
              rw [List.map_append]
              exact List.mem_append_left _ among
          | false =>
              rw [association, if_neg (by simp)] at planned
              have inserted := List.perm_insertIdx (scope.keyProperty entity part part.nullable)
                properties inside
              obtain ⟨kept, mapped, resolves⟩ := ih
                (by rw [List.length_insertIdx_of_le_length inside]; omega) planned
              rw [List.filter_cons_of_pos (by
                  simp only [Scope.publishesPart, inherited, association]; rfl),
                List.filter_cons_of_neg (by simp [association])]
              refine ⟨fun name among => kept ?_, ?_, resolves⟩
              · exact (inserted.map _).mem_iff.mpr (List.mem_cons_of_mem _ among)
              · refine mapped.trans ?_
                have step : (mappedNames (properties.insertIdx position
                    (scope.keyProperty entity part part.nullable))).Perm
                      (part.name :: mappedNames properties) :=
                  ((inserted.filter _).map _).trans (.of_eq rfl)
                exact (step.append_left _).trans List.perm_middle

theorem keyResolutions_resolves {properties final : List DataProperty}
    {resolutions : List Resolution}
    (planned : scope.keyResolutions entity properties = .ok (resolutions, final)) :
    properties.map (·.nameOnServer) ⊆ final.map (·.nameOnServer) ∧
      (mappedNames final).Perm
        ((scope.keyMembers entity).map (·.name) ++ mappedNames properties) ∧
      List.Forall₂ (scope.Resolves entity (final.map (·.nameOnServer))) (scope.keyLinks entity)
        resolutions := by
  unfold Scope.keyResolutions at planned
  unfold Scope.keyMembers Scope.keyLinks
  cases identified : entity.identifier with
  | none =>
      have unparted : entity.keyParts? = none := by simp [Entity.keyParts?, identified]
      simp only [identified, unparted] at planned ⊢
      cases planned
      exact ⟨List.Subset.refl _, .refl _, .nil⟩
  | some identifier =>
      cases parted : entity.keyParts? with
      | some parts =>
          simp only [identified, parted] at planned ⊢
          exact partResolutions_resolves (Nat.zero_le _) planned
      | none =>
          simp only [identified, parted] at planned ⊢
          split at planned
          next inherited =>
            cases planned
            rw [if_pos inherited]
            exact ⟨List.Subset.refl _, .refl _, .nil⟩
          next declared =>
            cases planned
            rw [if_neg declared]
            refine ⟨fun name among => ?_, ?_, .nil⟩
            · exact List.mem_cons_of_mem _ among
            · exact .refl _

theorem nameOnServer_memberProperty (scope : Scope) (entity : Entity) (member : Member) :
    (scope.memberProperty entity member).nameOnServer = member.name := by
  unfold Scope.memberProperty
  split <;> rfl

theorem names_memberProperties (scope : Scope) (entity : Entity) :
    ((scope.dataMembers entity).map (scope.memberProperty entity)).map (·.nameOnServer) =
      (scope.dataMembers entity).map (·.name) := by
  rw [List.map_map]
  exact List.map_congr_left fun member _ => nameOnServer_memberProperty scope entity member

theorem isUnmapped_memberProperty (scope : Scope) (entity : Entity) (member : Member) :
    (scope.memberProperty entity member).isUnmapped = false := by
  unfold Scope.memberProperty
  split <;> rfl

theorem isUnmapped_customProperties (scope : Scope) (entity : Entity) :
    ∀ property ∈ customProperties scope entity, property.isUnmapped = true := by
  intro property among
  obtain ⟨_, -, rfl⟩ := List.mem_map.mp among
  rfl

/-- **The members of a profile.** What is mapped among its data properties are the members of the
key and the data members, each once. Its navigation properties are what the associations of the key
and the other associations come to. -/
theorem profile_resolves {profile : Profile} (profiled : scope.profile entity = .ok profile) :
    (mappedNames profile.properties).Perm
        ((scope.keyMembers entity ++ scope.dataMembers entity).map (·.name)) ∧
      List.Forall₂ (scope.Resolves entity (profile.properties.map (·.nameOnServer)))
        (scope.keyLinks entity ++ scope.linkMembers entity) profile.resolutions := by
  obtain ⟨keys, properties, links, ofKey, ofLinks, resolutions⟩ := profile_ok_iff.mp profiled
  obtain ⟨-, keyMapped, keyResolves⟩ := keyResolutions_resolves ofKey
  obtain ⟨kept, linkMapped, linkResolves⟩ := linkResolutions_resolves ofLinks
  have drafted : mappedNames ((scope.dataMembers entity).map (scope.memberProperty entity)) =
      (scope.dataMembers entity).map (·.name) := by
    rw [mappedNames_of_mapped, names_memberProperties]
    intro property among
    obtain ⟨member, -, rfl⟩ := List.mem_map.mp among
    exact isUnmapped_memberProperty scope entity member
  have custom := mappedNames_of_unmapped (isUnmapped_customProperties scope entity)
  rw [drafted, ← List.map_append] at keyMapped
  rw [mappedNames_append, custom, List.append_nil] at linkMapped
  refine ⟨linkMapped ▸ keyMapped, ?_⟩
  rw [resolutions]
  refine List.rel_append ?_ linkResolves
  exact keyResolves.imp fun member resolution ⟨given, comes, names⟩ =>
    ⟨given, comes, fun name among => kept (by
      rw [List.map_append]
      exact List.mem_append_left _ (names among))⟩

/-- The navigation properties bear the names of their associations. -/
theorem navigations_of_resolves {names : List (Option String)} {members : List Member}
    {resolutions : List Resolution}
    (resolves : List.Forall₂ (scope.Resolves entity names) members resolutions) :
    (resolutions.map (·.navigation)).map (·.nameOnServer) = members.map (·.name) := by
  induction resolves with
  | nil => rfl
  | cons first rest ih =>
      obtain ⟨_, comes, -⟩ := first
      rw [List.map_cons, List.map_cons, List.map_cons, ih, (navigation_of_resolution comes).1]

/-- Each resolution is that of an association. -/
theorem exists_resolves {names : List (Option String)} {members : List Member}
    {resolutions : List Resolution}
    (resolves : List.Forall₂ (scope.Resolves entity names) members resolutions)
    {resolution : Resolution} (among : resolution ∈ resolutions) :
    ∃ member ∈ members, scope.Resolves entity names member resolution := by
  induction resolves with
  | nil => cases among
  | cons first rest ih =>
      rcases List.mem_cons.mp among with rfl | among
      · exact ⟨_, List.mem_cons_self, first⟩
      · obtain ⟨member, inside, later⟩ := ih among
        exact ⟨member, List.mem_cons_of_mem _ inside, later⟩

/-- What is recorded are the associations to one entity. -/
theorem entries_of_resolves {names : List (Option String)} {members : List Member}
    {resolutions : List Resolution}
    (resolves : List.Forall₂ (scope.Resolves entity names) members resolutions) :
    (resolutions.flatMap (·.entries)).map Prod.fst =
      ((resolutions.map (·.navigation)).filter (·.isScalar)).map fun navigation =>
        relationshipName entity.type navigation.nameOnServer := by
  induction resolves with
  | nil => rfl
  | @cons member resolution members resolutions first rest ih =>
      obtain ⟨_, comes, -⟩ := first
      obtain ⟨named, scalar, recorded⟩ := navigation_of_resolution comes
      rw [List.flatMap_cons, List.map_append, recorded, ih, List.map_cons]
      cases collection : member.isCollection <;> simp [scalar, collection, named]

end Order

end EntityAtlas

import EntityAtlas.Build
import EntityAtlas.Proofs.Profile
import EntityAtlas.Sample

/-!
# What a build publishes

A run over entities leaves a draft in which every part is known (`Published`): the entity types,
resource names, foreign keys and surrogates are those of the entities in their order, while the
embedded types and enumerations are among those that the entities mention. One entity carries the
description on (`Published.snoc`), and so a whole run keeps it (`publishEntities_published`).

Conversely a run succeeds if the entities are publishable together (`Publishable`), which speaks
of the entities and of no draft (`publishEntities_of_publishable`).
-/

set_option autoImplicit false

namespace EntityAtlas

/-! ## What an entity mentions -/

namespace Scope

/-- The profile of an entity, an empty one if it has none. -/
def profileOf (scope : Scope) (entity : Entity) : Profile :=
  (scope.profile entity).toOption.getD {}

/-- The entity type of an entity with its members. -/
def node (scope : Scope) (entity : Entity) (resource : Option String) : StructuralType :=
  { scope.entityType entity resource with
    dataProperties := (scope.profileOf entity).properties
    navigationProperties := (scope.profileOf entity).navigations }

/-- The types that an entity embeds at any depth. -/
def embeddedTypes (scope : Scope) (entity : Entity) : List Component :=
  nestedAmong (scope.dataMembers entity)

/-- The enumerations that an entity mentions: those of its data members, of the members of its
embedded types, and of its key. -/
def mentioned (scope : Scope) (entity : Entity) : List Enumeration :=
  (scope.dataMembers entity ++ (scope.embeddedTypes entity).flatMap (·.members)).filterMap
      Member.listed? ++
    (scope.keyMembers entity).filterMap (·.enumeration)

/-- Whether an entity gets a place for surrogates. -/
def keepsSurrogates (scope : Scope) (entity : Entity) : Bool :=
  scope.inheritsLink entity entity.members || !(scope.profileOf entity).surrogates.isEmpty

end Scope

theorem profileOf_of_ok {scope : Scope} {entity : Entity} {profile : Profile}
    (profiled : scope.profile entity = .ok profile) : scope.profileOf entity = profile := by
  simp [Scope.profileOf, profiled, Except.toOption]

@[simp]
theorem Scope.key_node (scope : Scope) (entity : Entity) (resource : Option String) :
    (scope.node entity resource).key = entity.key := rfl

/-! ## One entity -/

/-- The draft with an entity type without members at the end and a resource name for it. -/
def Draft.opened (draft : Draft) (type : StructuralType) (resource : String) : Draft :=
  { draft with
    entityTypes := draft.entityTypes ++ [type]
    resources := draft.resources ++ [(resource, type.key)] }

theorem holdsType_opened (draft : Draft) (type : StructuralType) (resource key : String) :
    (draft.opened type resource).holdsType key = (draft.holdsType key || type.key == key) := by
  simp [Draft.opened, Draft.holdsType, Draft.structuralTypes, Bool.or_assoc]

theorem nameResource_ok_iff {resource key : String} {before after : Draft} {value : Unit} :
    Draft.nameResource resource key before = .ok value after ↔
      resource ∉ before.resources.map Prod.fst ∧
        after = { before with resources := before.resources ++ [(resource, key)] } := by
  rw [Draft.nameResource_apply, ← Keyed.lookup_eq_none_iff]
  cases before.resources.lookup resource with
  | none => simp [eq_comm]
  | some holder => simp

theorem openEntityType_ok_iff {type : StructuralType} {before after : Draft} {value : Unit} :
    Draft.openEntityType type before = .ok value after ↔
      before.holdsType type.key = false ∧
        after = { before with entityTypes := before.entityTypes ++ [type] } := by
  rw [Draft.openEntityType_apply]
  cases before.holdsType type.key with
  | false => simp [eq_comm]
  | true => simp

/-- **Publishing an entity.** It succeeds exactly when the key and the resource name are new, the
members are drafted, and the associations come to something that has not been recorded. -/
theorem publishEntity_ok_iff {scope : Scope} {resource : Option String} {entity : Entity}
    {before after : Draft} {value : Unit} :
    publishEntity scope resource entity before = .ok value after ↔
      before.holdsType entity.key = false ∧
      ∃ name, resource = some name ∧ name ∉ before.resources.map Prod.fst ∧
      ∃ drafted between profile,
        draftMembers scope entity (scope.inheritedNames entity) entity.members
          (before.opened (scope.entityType entity resource) name) = .ok drafted between ∧
        scope.profile entity = .ok profile ∧ between.Admits profile.entries ∧
        after = ((between.listAll (scope.keyMembers entity)).note entity.key profile.entries
          (scope.inheritsLink entity entity.members) profile.surrogates).closeEntityType
            entity.key profile.properties profile.navigations := by
  have keyed : (scope.entityType entity resource).key = entity.key := rfl
  cases resource with
  | none => simp [publishEntity, bind_ok_iff, throw_ok_iff]
  | some name =>
      simp only [publishEntity, bind_ok_iff, openEntityType_ok_iff, nameResource_ok_iff,
        modify_ok_iff, keyed]
      constructor
      · rintro ⟨-, _, ⟨fresh, rfl⟩, -, _, ⟨free, rfl⟩, ⟨properties, navigations⟩, _, described, rfl⟩
        obtain ⟨drafted, between, profile, drafts, profiled, admitted, rfl, rfl, rfl⟩ :=
          describeEntity_ok_iff.mp described
        exact ⟨fresh, name, rfl, free, drafted, between, profile, drafts, profiled, admitted, rfl⟩
      · rintro ⟨fresh, _, ⟨⟩, free, drafted, between, profile, drafts, profiled, admitted, rfl⟩
        refine ⟨(), _, ⟨fresh, rfl⟩, (), _, ⟨free, rfl⟩, (profile.properties, profile.navigations),
          _, ?_, rfl⟩
        exact describeEntity_ok_iff.mpr
          ⟨drafted, between, profile, drafts, profiled, admitted, rfl, rfl, rfl⟩

theorem holdsType_eq_false_iff {draft : Draft} {key : String} :
    draft.holdsType key = false ↔ key ∉ draft.structuralTypes.map (·.key) := by
  simp [Draft.holdsType]

/-- The members go to the entity type that was opened last. -/
theorem closeEntityType_last {draft : Draft} {given : List StructuralType} {type : StructuralType}
    (types : draft.entityTypes = given ++ [type])
    (fresh : ∀ other ∈ given, other.key ≠ type.key) (properties : List DataProperty)
    (navigations : List NavigationProperty) :
    draft.closeEntityType type.key properties navigations =
      { draft with
        entityTypes := given ++
          [{ type with dataProperties := properties, navigationProperties := navigations }] } := by
  have kept : given.map (fun other => if other.key == type.key then
      { other with dataProperties := properties, navigationProperties := navigations }
      else other) = given := by
    refine (List.map_congr_left fun other among => ?_).trans (List.map_id given)
    simp [fresh other among]
  simp only [Draft.closeEntityType, types, List.map_append, kept, List.map_cons, List.map_nil,
    beq_self_eq_true, ↓reduceIte]

theorem holdsType_closeEntityType (draft : Draft) (key other : String)
    (properties : List DataProperty) (navigations : List NavigationProperty) :
    (draft.closeEntityType key properties navigations).holdsType other =
      draft.holdsType other := by
  simp only [Draft.holdsType, Draft.structuralTypes, Draft.closeEntityType, List.any_append,
    List.any_map]
  congr 2
  funext type
  simp only [Function.comp]
  split <;> rfl

/-- What is settled stays settled as long as keys and enumerations stay. -/
theorem Member.SettledIn.mono {member : Member} {draft other : Draft}
    (settled : member.SettledIn draft)
    (keys : ∀ key, draft.holdsType key = true → other.holdsType key = true)
    (enumTypes : ∀ type ∈ draft.enumTypes, type ∈ other.enumTypes) : member.SettledIn other where
  embedded component embeds := keys _ (settled.embedded component embeds)
  listed enumeration lists := by
    obtain ⟨type, among, named⟩ := settled.listed enumeration lists
    exact ⟨type, enumTypes type among, named⟩

/-- The draft of a described entity: the entity type gets its members, and the associations are
noted. -/
def Scope.closed (scope : Scope) (entity : Entity) (grown : Draft) : Draft :=
  (grown.note entity.key (scope.profileOf entity).entries
    (scope.inheritsLink entity entity.members) (scope.profileOf entity).surrogates).closeEntityType
    entity.key (scope.profileOf entity).properties (scope.profileOf entity).navigations

/-- Closing an entity type takes nothing away from what members refer to. -/
theorem Member.SettledIn.closed {member : Member} {grown : Draft}
    (settled : member.SettledIn grown) (scope : Scope) (entity : Entity) :
    member.SettledIn (scope.closed entity grown) :=
  settled.mono (fun _ held => (holdsType_closeEntityType ..).trans held) fun _ among => among

/-- How a draft takes up an entity: it gets the type and the resource name, grows by what the
entity mentions, and is closed. -/
structure Scope.Takes (scope : Scope) (entity : Entity) (name : String) (before grown : Draft)
    (components : List Component) (enumerations : List Enumeration) : Prop where
  fresh : before.holdsType entity.key = false
  free : name ∉ before.resources.map Prod.fst
  profiled : scope.profile entity = .ok (scope.profileOf entity)
  admitted : before.Admits (scope.profileOf entity).entries
  growth : Growth scope (before.opened (scope.entityType entity (some name)) name) grown components
    enumerations
  embedded : ∀ component ∈ components, component ∈ scope.embeddedTypes entity
  mentioned : ∀ enumeration ∈ enumerations, enumeration ∈ scope.mentioned entity
  settled : ∀ member ∈ scope.dataMembers entity, member.SettledIn grown
  keysListed : ∀ part ∈ scope.keyMembers entity, ∀ enumeration,
    part.enumeration = some enumeration →
      ∃ type ∈ grown.enumTypes, type.shortName = enumeration.name

theorem publishEntity_takes {scope : Scope} {resource : Option String} {entity : Entity}
    {before after : Draft} {value : Unit}
    (run : publishEntity scope resource entity before = .ok value after) :
    ∃ name grown components enumerations, resource = some name ∧
      scope.Takes entity name before grown components enumerations ∧
      after = scope.closed entity grown := by
  obtain ⟨fresh, name, rfl, free, drafted, between, profile, drafts, profiled, admitted, rfl⟩ :=
    publishEntity_ok_iff.mp run
  obtain ⟨-, settled, components, enumerations, growth, embedded, lists⟩ :=
    draftMembers_grows drafts
  obtain ⟨keyEnumerations, keyGrowth, keyLists, keysListed⟩ :=
    growth_listAll scope between (scope.keyMembers entity)
  obtain rfl := profileOf_of_ok profiled
  have recorded : between.foreignKeys = before.foreignKeys := growth.foreignKeys
  refine ⟨name, between.listAll (scope.keyMembers entity), components,
    enumerations ++ keyEnumerations, rfl, ?_, rfl⟩
  exact {
    fresh
    free
    profiled
    admitted := (Draft.Admits.congr recorded).mp admitted
    growth := growth.trans keyGrowth
    embedded
    mentioned := fun enumeration among => by
      rcases List.mem_append.mp among with early | late
      · obtain ⟨member, inside, has⟩ := lists enumeration early
        refine List.mem_append_left _ (List.mem_filterMap.mpr ⟨member, ?_, has⟩)
        rcases List.mem_append.mp inside with own | nested
        · exact List.mem_append_left _ own
        · obtain ⟨component, new, inside⟩ := List.mem_flatMap.mp nested
          exact List.mem_append_right _
            (List.mem_flatMap.mpr ⟨component, embedded component new, inside⟩)
      · obtain ⟨part, inside, has⟩ := keyLists enumeration late
        exact List.mem_append_right _ (List.mem_filterMap.mpr ⟨part, inside, has⟩)
    settled := fun member among => keyGrowth.settledIn (settled member among)
    keysListed }

/-! ## A run -/

section Run

variable {scope : Scope} {resourceName : TypeExpr → Option String} {done : List Entity}
  {entity : Entity}

/-- What a run over entities leaves in the draft. -/
structure Published (scope : Scope) (resourceName : TypeExpr → Option String)
    (done : List Entity) (draft : Draft) : Prop where
  entityTypes : draft.entityTypes =
    done.map fun entity => scope.node entity (resourceName entity.type)
  resources : draft.resources =
    done.map fun entity => ((resourceName entity.type).getD "", entity.key)
  foreignKeys : draft.foreignKeys = done.flatMap fun entity => (scope.profileOf entity).entries
  surrogates : draft.surrogates =
    (done.filter scope.keepsSurrogates).map fun entity =>
      (entity.key, (scope.profileOf entity).surrogates)
  complexTypes : ∃ components, draft.complexTypes = components.map scope.complexType ∧
    (∀ component ∈ components, component ∈ done.flatMap scope.embeddedTypes) ∧
    ArePlain components ∧
    ∀ component ∈ components, ∀ member ∈ component.members, member.SettledIn draft
  enumTypes : ∃ enumerations : List Enumeration,
    draft.enumTypes = enumerations.map Enumeration.published ∧
    (enumerations.map (·.name)).Nodup ∧
    ∀ enumeration ∈ enumerations, enumeration ∈ done.flatMap scope.mentioned
  distinctTypes : (draft.structuralTypes.map (·.key)).Nodup
  distinctResources : (draft.resources.map Prod.fst).Nodup
  distinctForeignKeys : (draft.foreignKeys.map Prod.fst).Nodup
  named : ∀ entity ∈ done, (resourceName entity.type).isSome
  profiled : ∀ entity ∈ done, scope.profile entity = .ok (scope.profileOf entity)
  settled : ∀ entity ∈ done, ∀ member ∈ scope.dataMembers entity, member.SettledIn draft
  keysListed : ∀ entity ∈ done, ∀ part ∈ scope.keyMembers entity, ∀ enumeration,
    part.enumeration = some enumeration →
      ∃ type ∈ draft.enumTypes, type.shortName = enumeration.name

theorem Published.empty (scope : Scope) (resourceName : TypeExpr → Option String) :
    Published scope resourceName [] {} where
  entityTypes := rfl
  resources := rfl
  foreignKeys := rfl
  surrogates := rfl
  complexTypes := ⟨[], rfl, by simp, by simp [ArePlain], by simp⟩
  enumTypes := ⟨[], rfl, by simp, by simp⟩
  distinctTypes := by simp [Draft.structuralTypes]
  distinctResources := by simp
  distinctForeignKeys := by simp
  named := by simp
  profiled := by simp
  settled := by simp
  keysListed := by simp

section Taking

variable {name : String} {before grown : Draft} {components : List Component}
  {enumerations : List Enumeration}

namespace Scope.Takes

/-- What an entity adds to each part of the draft. -/
theorem closed_eq (takes : scope.Takes entity name before grown components enumerations) :
    scope.closed entity grown =
      { complexTypes := components.map scope.complexType ++ before.complexTypes
        entityTypes := before.entityTypes ++ [scope.node entity (some name)]
        resources := before.resources ++ [(name, entity.key)]
        enumTypes := before.enumTypes ++ enumerations.map Enumeration.published
        foreignKeys := before.foreignKeys ++ (scope.profileOf entity).entries
        surrogates :=
          if scope.keepsSurrogates entity then
            Keyed.update entity.key [] (· ++ (scope.profileOf entity).surrogates) before.surrogates
          else before.surrogates } := by
  have others : ∀ other ∈ before.entityTypes,
      other.key ≠ (scope.entityType entity (some name)).key := by
    intro other among same
    have held : before.holdsType entity.key = true :=
      holdsType_iff.mpr ⟨other, List.mem_append_right _ among, same⟩
    rw [takes.fresh] at held
    cases held
  have types : (grown.note entity.key (scope.profileOf entity).entries
      (scope.inheritsLink entity entity.members) (scope.profileOf entity).surrogates).entityTypes =
        before.entityTypes ++ [scope.entityType entity (some name)] := takes.growth.entityTypes
  refine (closeEntityType_last types others _ _).trans ?_
  simp only [Draft.note, takes.growth.complexTypes, takes.growth.resources,
    takes.growth.enumTypes, takes.growth.foreignKeys, takes.growth.surrogates, Draft.opened]
  rfl

/-- What was settled before is settled afterwards. -/
theorem settledIn (takes : scope.Takes entity name before grown components enumerations)
    {member : Member} (settled : member.SettledIn before) :
    member.SettledIn (scope.closed entity grown) := by
  have opened : member.SettledIn (before.opened (scope.entityType entity (some name)) name) :=
    settled.mono (fun key held => by simp [holdsType_opened, held]) fun _ among => among
  exact (takes.growth.settledIn opened).closed scope entity

theorem distinctTypes (takes : scope.Takes entity name before grown components enumerations)
    (distinct : (before.structuralTypes.map (·.key)).Nodup) :
    ((scope.closed entity grown).structuralTypes.map (·.key)).Nodup := by
  have fresh := holdsType_eq_false_iff.mp takes.fresh
  have apart : ∀ component ∈ components, component.type.key ≠ entity.key ∧
      component.type.key ∉ before.structuralTypes.map (·.key) := by
    intro component among
    have new := takes.growth.newTypes component among
    rw [holdsType_opened, Bool.or_eq_false_iff, holdsType_eq_false_iff] at new
    exact ⟨fun same => beq_eq_false_iff_ne.mp new.2 same.symm, new.1⟩
  have keys : (scope.closed entity grown).structuralTypes.map (·.key) =
      components.map (·.type.key) ++ (before.structuralTypes.map (·.key) ++ [entity.key]) := by
    rw [takes.closed_eq]
    simp [Draft.structuralTypes]
  rw [keys, List.nodup_append, List.nodup_append]
  refine ⟨takes.growth.distinctTypes, ⟨distinct, by simp, ?_⟩, ?_⟩
  · rintro key held _ last rfl
    exact fresh (List.mem_singleton.mp last ▸ held)
  · rintro _ new _ old rfl
    obtain ⟨component, among, rfl⟩ := List.mem_map.mp new
    rcases List.mem_append.mp old with held | last
    · exact (apart component among).2 held
    · exact (apart component among).1 (List.mem_singleton.mp last)

end Scope.Takes

namespace Published

/-- The surrogates of a new entity come after those of the others. -/
theorem surrogates_snoc (published : Published scope resourceName done before)
    (takes : scope.Takes entity name before grown components enumerations) :
    (scope.closed entity grown).surrogates =
      ((done ++ [entity]).filter scope.keepsSurrogates).map fun entity =>
        (entity.key, (scope.profileOf entity).surrogates) := by
  have fresh : entity.key ∉ before.surrogates.map Prod.fst := by
    intro held
    rw [published.surrogates, List.map_map] at held
    obtain ⟨other, among, same⟩ := List.mem_map.mp held
    refine holdsType_eq_false_iff.mp takes.fresh ?_
    rw [Draft.structuralTypes, published.entityTypes, List.map_append, List.map_map]
    exact List.mem_append_right _ (List.mem_map.mpr ⟨other, (List.mem_filter.mp among).1, same⟩)
  rw [takes.closed_eq, List.filter_append, List.map_append, ← published.surrogates]
  cases keeps : scope.keepsSurrogates entity with
  | false => simp [keeps]
  | true => simp [keeps, Keyed.update_of_not_mem fresh]

/-- The embedded types of a new entity come before those of the others. -/
theorem complexTypes_snoc (published : Published scope resourceName done before)
    (takes : scope.Takes entity name before grown components enumerations) :
    ∃ all, (scope.closed entity grown).complexTypes = all.map scope.complexType ∧
      (∀ component ∈ all, component ∈ (done ++ [entity]).flatMap scope.embeddedTypes) ∧
      ArePlain all ∧
      ∀ component ∈ all, ∀ member ∈ component.members,
        member.SettledIn (scope.closed entity grown) := by
  obtain ⟨former, complexTypes, embedded, plain, settled⟩ := published.complexTypes
  refine ⟨components ++ former, by simp [takes.closed_eq, complexTypes], ?_, ?_, ?_⟩
  · intro component among
    rw [List.flatMap_append, List.flatMap_singleton]
    rcases List.mem_append.mp among with new | old
    · exact List.mem_append_right _ (takes.embedded component new)
    · exact List.mem_append_left _ (embedded component old)
  · intro component among
    rcases List.mem_append.mp among with new | old
    · exact takes.growth.plain component new
    · exact plain component old
  · intro component among member inside
    rcases List.mem_append.mp among with new | old
    · exact (takes.growth.settled component new member inside).closed scope entity
    · exact takes.settledIn (settled component old member inside)

/-- The enumerations of a new entity come after those of the others. -/
theorem enumTypes_snoc (published : Published scope resourceName done before)
    (takes : scope.Takes entity name before grown components enumerations) :
    ∃ all : List Enumeration,
      (scope.closed entity grown).enumTypes = all.map Enumeration.published ∧
      (all.map (·.name)).Nodup ∧
      ∀ enumeration ∈ all, enumeration ∈ (done ++ [entity]).flatMap scope.mentioned := by
  obtain ⟨former, enumTypes, distinct, mentioned⟩ := published.enumTypes
  refine ⟨former ++ enumerations, by simp [takes.closed_eq, enumTypes], ?_, ?_⟩
  · rw [List.map_append, List.nodup_append]
    refine ⟨distinct, takes.growth.distinctEnumerations, ?_⟩
    rintro _ early _ late rfl
    obtain ⟨enumeration, new, same⟩ := List.mem_map.mp late
    obtain ⟨other, old, held⟩ := List.mem_map.mp early
    refine takes.growth.newEnumerations enumeration new other.published ?_ (held.trans same.symm)
    exact enumTypes ▸ List.mem_map_of_mem old
  · intro enumeration among
    rw [List.flatMap_append, List.flatMap_singleton]
    rcases List.mem_append.mp among with old | new
    · exact List.mem_append_left _ (mentioned enumeration old)
    · exact List.mem_append_right _ (takes.mentioned enumeration new)

/-- **One entity more.** A draft in which every part is known stays so when it takes up an
entity. -/
theorem snoc {after : Draft} {value : Unit}
    (published : Published scope resourceName done before)
    (run : publishEntity scope (resourceName entity.type) entity before = .ok value after) :
    Published scope resourceName (done ++ [entity]) after := by
  obtain ⟨name, grown, components, enumerations, named, takes, rfl⟩ := publishEntity_takes run
  have closed := takes.closed_eq
  exact {
    entityTypes := by simp [closed, published.entityTypes, named]
    resources := by simp [closed, published.resources, named]
    foreignKeys := by simp [closed, published.foreignKeys]
    surrogates := published.surrogates_snoc takes
    complexTypes := published.complexTypes_snoc takes
    enumTypes := published.enumTypes_snoc takes
    distinctTypes := takes.distinctTypes published.distinctTypes
    distinctResources := by
      rw [closed, List.map_append, List.nodup_append]
      refine ⟨published.distinctResources, by simp, ?_⟩
      rintro other held _ last rfl
      obtain rfl := List.mem_singleton.mp last
      exact takes.free held
    distinctForeignKeys := by
      rw [closed, List.map_append, List.nodup_append]
      refine ⟨published.distinctForeignKeys, takes.admitted.distinct, ?_⟩
      rintro _ held _ new rfl
      obtain ⟨entry, among, same⟩ := List.mem_map.mp new
      exact takes.admitted.fresh entry among (same ▸ held)
    named := List.forall_mem_append.mpr ⟨published.named, by simp [named]⟩
    profiled := List.forall_mem_append.mpr
      ⟨published.profiled, List.forall_mem_singleton.mpr takes.profiled⟩
    settled := List.forall_mem_append.mpr
      ⟨fun other old member inside => takes.settledIn (published.settled other old member inside),
        List.forall_mem_singleton.mpr fun member inside =>
          (takes.settled member inside).closed scope entity⟩
    keysListed := by
      refine List.forall_mem_append.mpr
        ⟨fun other old part inside enumeration has => ?_,
          List.forall_mem_singleton.mpr takes.keysListed⟩
      obtain ⟨type, held, same⟩ := published.keysListed other old part inside enumeration has
      exact ⟨type, closed ▸ List.mem_append_left _ held, same⟩ }

end Published

end Taking

/-- **A whole run.** It leaves a draft in which every part is known. -/
theorem publishEntities_published {rest : List Entity} {before after : Draft} {value : Unit}
    (published : Published scope resourceName done before)
    (run : publishEntities scope resourceName rest before = .ok value after) :
    Published scope resourceName (done ++ rest) after := by
  induction rest generalizing done before with
  | nil =>
      obtain ⟨-, rfl⟩ := pure_ok_iff.mp run
      rw [List.append_nil]
      exact published
  | cons entity rest ih =>
      obtain ⟨_, between, first, later⟩ := bind_ok_iff.mp run
      have extended := ih (published.snoc first) later
      rwa [List.append_assoc, List.singleton_append] at extended

/-- The entity type of each entity is found under its key. -/
theorem Published.type?_of_mem {draft : Draft} (published : Published scope resourceName done draft)
    (among : entity ∈ done) (comparisonOptions : String) :
    (draft.document comparisonOptions).type? entity.key =
      some (scope.node entity (resourceName entity.type)) := by
  refine (Keyed.find?_eq_some_iff published.distinctTypes).mpr ⟨?_, rfl⟩
  refine List.mem_append_right _ ?_
  rw [published.entityTypes]
  exact List.mem_map_of_mem among

/-! ## Runs that succeed -/

/-- Entities that may be published together. -/
structure Publishable (scope : Scope) (resourceName : TypeExpr → Option String)
    (entities : List Entity) : Prop where
  distinctKeys : (entities.map (·.key)).Nodup
  named : ∀ entity ∈ entities, (resourceName entity.type).isSome
  distinctNames : (entities.map fun entity => resourceName entity.type).Nodup
  profiled : ∀ entity ∈ entities, scope.profile entity = .ok (scope.profileOf entity)
  distinctEntries :
    ((entities.flatMap fun entity => (scope.profileOf entity).entries).map Prod.fst).Nodup
  plain : ArePlain (entities.flatMap scope.embeddedTypes)
  apart : ∀ component ∈ entities.flatMap scope.embeddedTypes,
    component.type.key ∉ entities.map (·.key)

namespace Publishable

variable {rest : List Entity} {before : Draft}

/-- The key of the next entity is new. -/
theorem fresh (publishable : Publishable scope resourceName (done ++ entity :: rest))
    (published : Published scope resourceName done before) :
    before.holdsType entity.key = false := by
  obtain ⟨components, complexTypes, embedded, -, -⟩ := published.complexTypes
  rw [holdsType_eq_false_iff, Draft.structuralTypes, List.map_append, complexTypes,
    published.entityTypes, List.map_map, List.map_map, List.mem_append, not_or]
  constructor
  · intro held
    obtain ⟨component, among, same⟩ := List.mem_map.mp held
    refine publishable.apart component ?_ ?_
    · exact List.flatMap_append ▸ List.mem_append_left _ (embedded component among)
    · exact List.mem_map.mpr ⟨entity, by simp, same.symm⟩
  · intro held
    have distinct := publishable.distinctKeys
    rw [List.map_append, List.nodup_append] at distinct
    exact distinct.2.2 entity.key held entity.key (by simp) rfl

/-- The resource name of the next entity is new. -/
theorem free (publishable : Publishable scope resourceName (done ++ entity :: rest))
    (published : Published scope resourceName done before) {name : String}
    (named : resourceName entity.type = some name) : name ∉ before.resources.map Prod.fst := by
  rw [published.resources, List.map_map]
  intro held
  obtain ⟨other, among, same⟩ := List.mem_map.mp held
  obtain ⟨otherName, otherNamed⟩ := Option.isSome_iff_exists.mp (published.named other among)
  have equal : resourceName other.type = resourceName entity.type := by
    rw [named, otherNamed, ← same, Function.comp, otherNamed, Option.getD_some]
  have distinct := publishable.distinctNames
  rw [List.map_append, List.nodup_append] at distinct
  exact distinct.2.2 _ (List.mem_map_of_mem among) _ (by simp) equal

/-- The associations of the next entity have not been recorded. -/
theorem admits (publishable : Publishable scope resourceName (done ++ entity :: rest))
    (published : Published scope resourceName done before) :
    before.Admits (scope.profileOf entity).entries := by
  have distinct := publishable.distinctEntries
  rw [List.flatMap_append, List.map_append, ← published.foreignKeys, List.flatMap_cons,
    List.map_append, List.nodup_append, List.nodup_append] at distinct
  refine ⟨distinct.2.1.1, ?_⟩
  intro entry among held
  exact distinct.2.2 entry.1 held entry.1
    (List.mem_append_left _ (List.mem_map_of_mem among)) rfl

/-- The next entity is published. -/
theorem next (publishable : Publishable scope resourceName (done ++ entity :: rest))
    (published : Published scope resourceName done before) :
    ∃ after, publishEntity scope (resourceName entity.type) entity before = .ok () after := by
  obtain ⟨name, named⟩ := Option.isSome_iff_exists.mp (publishable.named entity (by simp))
  have plain : ArePlain (scope.embeddedTypes entity) :=
    publishable.plain.of_subset fun component among => List.mem_flatMap.mpr
      ⟨entity, by simp, among⟩
  obtain ⟨drafted, between, drafts⟩ := draftMembers_of_plain plain
    (before.opened (scope.entityType entity (resourceName entity.type)) name)
  obtain ⟨-, -, components, enumerations, growth, -⟩ := draftMembers_grows drafts
  have recorded : between.foreignKeys = before.foreignKeys := growth.foreignKeys
  exact ⟨_, publishEntity_ok_iff.mpr ⟨publishable.fresh published, name, named,
    publishable.free published named, drafted, between, _, drafts,
    publishable.profiled entity (by simp),
    (Draft.Admits.congr recorded).mpr (publishable.admits published), rfl⟩⟩

end Publishable

/-- **Publishable entities are published.** -/
theorem publishEntities_of_publishable {rest : List Entity} {before : Draft}
    (publishable : Publishable scope resourceName (done ++ rest))
    (published : Published scope resourceName done before) :
    ∃ after, publishEntities scope resourceName rest before = .ok () after := by
  induction rest generalizing done before with
  | nil => exact ⟨before, rfl⟩
  | cons entity rest ih =>
      obtain ⟨between, first⟩ := publishable.next published
      have further : Publishable scope resourceName ((done ++ [entity]) ++ rest) := by
        rwa [List.append_assoc, List.singleton_append]
      obtain ⟨after, later⟩ := ih further (published.snoc first)
      exact ⟨after, bind_ok_iff.mpr ⟨(), between, first, later⟩⟩

end Run

/-! ## Builds -/

/-- A build succeeds exactly when its entities are published over the empty draft. -/
theorem build_ok_iff {catalogue : Catalogue} {options : BuildOptions} {edition : Edition} :
    build catalogue options = .ok edition ↔
      ∃ draft, publishEntities (options.scope catalogue) options.resourceName
          (options.participants catalogue) {} = .ok () draft ∧
        edition =
          { document := draft.document options.comparisonOptions
            surrogates := draft.surrogates } := by
  unfold build
  cases publishEntities (options.scope catalogue) options.resourceName
    (options.participants catalogue) {} with
  | ok value draft => simp [eq_comm]
  | error error draft => simp

/-- The sample is built. -/
theorem Sample.exists_edition : ∃ edition, build catalogue options = .ok edition := by
  have built : (build catalogue options).toOption.isSome = true := by decide +kernel
  obtain ⟨edition, given⟩ := Option.isSome_iff_exists.mp built
  cases result : build catalogue options with
  | ok edition => exact ⟨edition, rfl⟩
  | error error => simp [result, Except.toOption] at given

/-- The draft of a build that succeeds. -/
theorem build_published {catalogue : Catalogue} {options : BuildOptions} {edition : Edition}
    (built : build catalogue options = .ok edition) :
    ∃ draft, Published (options.scope catalogue) options.resourceName
        (options.participants catalogue) draft ∧
      edition.document = draft.document options.comparisonOptions ∧
      edition.surrogates = draft.surrogates := by
  obtain ⟨draft, run, rfl⟩ := build_ok_iff.mp built
  exact ⟨draft, publishEntities_published (.empty ..) run, rfl, rfl⟩

end EntityAtlas

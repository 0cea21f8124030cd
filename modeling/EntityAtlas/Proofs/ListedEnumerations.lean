import EntityAtlas.Proofs.ComplexReferences
import EntityAtlas.Proofs.EmbeddingVisits

/-!
# Listed enumerations

Publishing a scalar member lists its enumeration, unless one of its name is listed (`Draft.Lists`).
This happens on the way: to the members of an entity, to its key, and to the members of an embedded
type when it is first visited. A member that is left out lists nothing, and neither does an embedded
type whose key is held when it is visited. So a document lists the enumerations of the scalars that
it publishes, one for each name (`build_listsEnumerations`).
-/

set_option autoImplicit false

namespace EntityAtlas

/-! ## What is published -/

/-- The members among some that embed no type. -/
def scalarsAmong (members : List Member) : List Member := members.filter (·.embedded?.isNone)

theorem mem_scalarsAmong_iff {members : List Member} {member : Member} :
    member ∈ scalarsAmong members ↔ member ∈ members ∧ member.embedded? = none := by
  simp [scalarsAmong]

/-- The members of some embedded types that embed no type. -/
def scalarsOf (components : List Component) : List Member :=
  components.flatMap fun component => scalarsAmong component.members

namespace Scope

/-- The keys that are held once an entity has its type. -/
def heldAt (held : String → Bool) (entity : Entity) (key : String) : Bool :=
  held key || entity.key == key

/-- The embedded types that a run over entities publishes, in order, where some keys are held
before: those that walks through the data members visit first with their keys. -/
def publishedTypes (scope : Scope) : List Entity → (String → Bool) → List Component
  | [], _ => []
  | entity :: rest, held =>
    let visits := visitsAmong (scope.dataMembers entity) (heldAt held entity)
    newAmong (heldAt held entity) visits ++
      scope.publishedTypes rest (heldWith (heldAt held entity) visits)

/-- The key of an entity publishes a scalar as a data property: the identifier, or a part of it. -/
inductive PublishesKey (scope : Scope) (entity : Entity) : DataProperty → Member → Prop
  | identifier {identifier : Member} (identifies : entity.identifier = some identifier)
      (single : entity.keyParts? = none) (own : identifier.name ∉ scope.inheritedNames entity) :
      PublishesKey scope entity (scope.keyProperty entity identifier false) identifier
  | part {parts : List Member} {part : Member} (composite : entity.keyParts? = some parts)
      (inside : part ∈ parts) (published : scope.publishesPart entity part = true) :
      PublishesKey scope entity (scope.keyProperty entity part part.nullable) part

/-- A run over entities publishes a scalar on the type with a key, as a data property: a member of
an entity, what makes up its key, or a member of a published embedded type. -/
inductive Publishes (scope : Scope) (entities : List Entity) :
    String → DataProperty → Member → Prop
  | member {entity : Entity} {member : Member} (among : entity ∈ entities)
      (data : member ∈ scope.dataMembers entity) (scalar : member.embedded? = none) :
      Publishes scope entities entity.key (scope.memberProperty entity member) member
  | key {entity : Entity} {property : DataProperty} {part : Member} (among : entity ∈ entities)
      (ofKey : scope.PublishesKey entity property part) :
      Publishes scope entities entity.key property part
  | part {component : Component} {member : Member}
      (published : component ∈ scope.publishedTypes entities fun _ => false)
      (inside : member ∈ component.members) (scalar : member.embedded? = none) :
      Publishes scope entities component.type.key (scope.partProperty component.type member) member

end Scope

/-! ## Listing -/

/-- A draft afterwards lists the enumerations of some members. -/
structure Draft.Lists (before after : Draft) (members : List Member) : Prop where
  kept : before.enumTypes ⊆ after.enumTypes
  listed : ∀ member ∈ members, ∀ enumeration, member.enumeration = some enumeration →
    ∃ type ∈ after.enumTypes, type.shortName = enumeration.name
  /-- What is listed anew is the enumeration of one of the members. -/
  origin : ∀ type ∈ after.enumTypes, type ∈ before.enumTypes ∨
    ∃ member ∈ members, ∃ enumeration, member.enumeration = some enumeration ∧
      type = enumeration.published

namespace Draft.Lists

variable {before between after : Draft} {first second members : List Member}

/-- Where enumerations stay as they are, nothing is listed. -/
theorem nothing (same : after.enumTypes = before.enumTypes) : Draft.Lists before after [] where
  kept := same ▸ List.Subset.refl _
  listed := by simp
  origin _ among := .inl (same ▸ among)

theorem trans (earlier : Draft.Lists before between first)
    (later : Draft.Lists between after second) : Draft.Lists before after (first ++ second) where
  kept := List.Subset.trans earlier.kept later.kept
  listed member among enumeration has := by
    rcases List.mem_append.mp among with early | late
    · obtain ⟨type, inside, named⟩ := earlier.listed member early enumeration has
      exact ⟨type, later.kept inside, named⟩
    · exact later.listed member late enumeration has
  origin type among := by
    rcases later.origin type among with inside | ⟨member, late, has⟩
    · rcases earlier.origin type inside with old | ⟨member, early, has⟩
      · exact .inl old
      · exact .inr ⟨member, List.mem_append_left _ early, has⟩
    · exact .inr ⟨member, List.mem_append_right _ late, has⟩

/-- The order of members does not matter. -/
theorem congr (lists : Draft.Lists before after first)
    (same : ∀ member, member ∈ second ↔ member ∈ first) : Draft.Lists before after second where
  kept := lists.kept
  listed member among := lists.listed member ((same member).mp among)
  origin type among := (lists.origin type among).imp_right fun ⟨member, inside, has⟩ =>
    ⟨member, (same member).mpr inside, has⟩

theorem of_enumTypes_eq {other last : Draft} (lists : Draft.Lists before after members)
    (start : other.enumTypes = before.enumTypes) (final : last.enumTypes = after.enumTypes) :
    Draft.Lists other last members where
  kept := by rw [start, final]; exact lists.kept
  listed := by rw [final]; exact lists.listed
  origin := by rw [start, final]; exact lists.origin

end Draft.Lists

theorem listAll_lists (draft : Draft) (members : List Member) :
    Draft.Lists draft (draft.listAll members) members := by
  obtain ⟨enumerations, growth, comes, listed⟩ := growth_listAll { catalogue := {} } draft members
  refine ⟨growth.enumTypes ▸ List.subset_append_left _ _, listed, fun type among => ?_⟩
  rw [growth.enumTypes] at among
  refine (List.mem_append.mp among).imp_right fun new => ?_
  obtain ⟨enumeration, inside, rfl⟩ := List.mem_map.mp new
  obtain ⟨member, given, has⟩ := comes enumeration inside
  exact ⟨member, given, enumeration, has, rfl⟩

/-! ## One member -/

section Walks

variable {scope : Scope} {before after : Draft} {member : Member}

theorem draftMember_leaves {entity : Entity} {property : DataProperty}
    (run : draftMember scope entity member before = .ok property after) :
    member.Leaves scope before after := by
  cases embeds : member.embedded? with
  | some component =>
      simp only [draftMember, embeds, bind_ok_iff, pure_ok_iff] at run
      obtain ⟨key, _, published, -, rfl⟩ := run
      exact .embedded embeds published
  | none =>
      simp only [draftMember, embeds, bind_ok_iff, pure_ok_iff] at run
      obtain ⟨_, _, drafted, -, rfl⟩ := run
      exact .scalar embeds (draftScalar_ok_iff.mp drafted).2

/-- Publishing an embedded type lists the enumerations of the types that are visited first. -/
def Component.IsListed (scope : Scope) (component : Component) : Prop :=
  ∀ {before after : Draft} {key : String},
    publishComponent scope component before = .ok key after →
      Draft.Lists before after
        (scalarsOf (newAmong before.holdsType (component.visits before.holdsType)))

theorem Member.Leaves.lists (leaves : member.Leaves scope before after)
    (plain : member.isAssociation = false)
    (inner : ∀ component, member.embedded? = some component → component.IsListed scope) :
    Draft.Lists before after (scalarsAmong [member] ++
      scalarsOf (newAmong before.holdsType (member.visits before.holdsType))) := by
  cases leaves with
  | embedded embeds run =>
      rw [Member.visits_of_embedded plain embeds]
      have nothing : scalarsAmong [member] = [] := by simp [scalarsAmong, embeds]
      rw [nothing]
      exact inner _ embeds run
  | scalar embeds lists =>
      subst lists
      rw [Member.visits_of_scalar embeds]
      have one : scalarsAmong [member] = [member] := by simp [scalarsAmong, embeds]
      rw [one]
      exact listAll_lists before [member]

/-! ## Members in order -/

/-- The scalars that are published with some members, where some keys are held before. -/
def walkedScalars (members : List Member) (held : String → Bool) : List Member :=
  scalarsAmong members ++ scalarsOf (newAmong held (visitsAmong members held))

/-- The first member is walked before the rest. -/
theorem mem_walkedScalars_cons_iff {rest : List Member} {held : String → Bool} {other : Member} :
    other ∈ walkedScalars (member :: rest) held ↔
      other ∈ (scalarsAmong [member] ++ scalarsOf (newAmong held (member.visits held))) ++
        walkedScalars rest (heldWith held (member.visits held)) := by
  have split : scalarsAmong (member :: rest) = scalarsAmong [member] ++ scalarsAmong rest := by
    rw [← List.singleton_append, scalarsAmong, List.filter_append]
    rfl
  simp only [walkedScalars, split, visitsAmong_cons, newAmong_append, scalarsOf,
    List.flatMap_append, List.mem_append]
  tauto

theorem publishParts_lists {owner : TypeExpr} {members : List Member}
    (inner : ∀ member ∈ members, ∀ component, member.embedded? = some component →
      component.IsListed scope)
    {value : Unit} (run : publishParts scope owner members before = .ok value after) :
    Draft.Lists before after (walkedScalars members before.holdsType) := by
  induction members generalizing before with
  | nil =>
      obtain ⟨-, rfl⟩ := pure_ok_iff.mp run
      exact .nothing rfl
  | cons member rest ih =>
      simp only [publishParts, bind_ok_iff, modify_ok_iff] at run
      obtain ⟨property, between, first, -, _, rfl, later⟩ := run
      obtain ⟨plain, leaves⟩ := publishPart_leaves first
      have here := leaves.lists plain (inner member List.mem_cons_self)
      have further := ih (fun other among => inner other (List.mem_cons_of_mem _ among)) later
      -- The owner gains the property; what is held and what is listed stays.
      have same : (between.extendComplexType owner.key property).holdsType =
          heldWith before.holdsType (member.visits before.holdsType) := by
        have visited := leaves.visits plain fun component _ => publishComponent_isVisited component
        rw [← visited.holdsType_after]
        exact funext fun key => holdsType_extendComplexType ..
      rw [same] at further
      refine (here.trans (further.of_enumTypes_eq ?_ rfl)).congr fun other =>
        mem_walkedScalars_cons_iff
      rfl

theorem publishComponent_isListed (component : Component) : component.IsListed scope := by
  induction component using Component.induction with
  | step component inner =>
      intro before after key run
      obtain ⟨-, body⟩ := publishComponent_ok_iff.mp run
      rw [component.visits_eq]
      cases known : before.holdsType component.type.key with
      | true =>
          rw [known, if_pos rfl] at body
          subst body
          rw [if_pos rfl, newAmong, known, if_pos rfl]
          exact .nothing rfl
      | false =>
          rw [known, if_neg Bool.false_ne_true] at body
          -- The key is held from the visit on, so the walk through the members starts with it held.
          have opens : (before.openComplexType (.emptyComplex component.type)).holdsType =
              heldWith before.holdsType [component] := heldWith_openComplexType before rfl
          have parts := publishParts_lists inner body
          rw [opens] at parts
          rw [if_neg Bool.false_ne_true, newAmong, known, if_neg Bool.false_ne_true]
          exact parts.of_enumTypes_eq rfl rfl

/-- The data members of an entity are walked in order. -/
theorem draftMembers_walks {entity : Entity} {members : List Member}
    {properties : List DataProperty}
    (run : draftMembers scope entity (scope.inheritedNames entity) members before =
      .ok properties after) :
    Draft.Visits scope before after
        (visitsAmong (members.filter (scope.publishesData entity)) before.holdsType) ∧
      Draft.Lists before after
        (walkedScalars (members.filter (scope.publishesData entity)) before.holdsType) := by
  induction members generalizing before properties with
  | nil =>
      obtain ⟨-, rfl⟩ := pure_ok_iff.mp run
      exact ⟨.refl scope before, .nothing rfl⟩
  | cons member rest ih =>
      cases publishes : scope.publishesData entity member with
      | false =>
          rw [draftMembers_cons_of_not publishes] at run
          rw [List.filter_cons_of_neg (by simp [publishes])]
          exact ih run
      | true =>
          simp only [draftMembers_cons publishes, bind_ok_iff, pure_ok_iff] at run
          obtain ⟨property, between, first, others, _, later, rfl, rfl⟩ := run
          have plain := isAssociation_of_publishesData publishes
          have leaves := draftMember_leaves first
          have visited :=
            leaves.visits plain fun component _ => publishComponent_isVisited component
          have here := leaves.lists plain fun component _ => publishComponent_isListed component
          obtain ⟨restVisited, restLists⟩ := ih later
          rw [visited.holdsType_after] at restVisited restLists
          rw [List.filter_cons_of_pos publishes, visitsAmong_cons]
          exact ⟨visited.trans restVisited,
            (here.trans restLists).congr fun other => mem_walkedScalars_cons_iff⟩

/-! ## Entities in order -/

/-- An entity brings the embedded types that are visited first, and lists the enumerations of its
data members, of these types and of its key. -/
theorem publishEntity_walks {resource : Option String} {entity : Entity} {value : Unit}
    (run : publishEntity scope resource entity before = .ok value after) :
    after.complexTypes =
        (newAmong (Scope.heldAt before.holdsType entity) (visitsAmong (scope.dataMembers entity)
          (Scope.heldAt before.holdsType entity))).reverse.map scope.complexType ++
        before.complexTypes ∧
      after.holdsType = heldWith (Scope.heldAt before.holdsType entity)
        (visitsAmong (scope.dataMembers entity) (Scope.heldAt before.holdsType entity)) ∧
      Draft.Lists before after
        (walkedScalars (scope.dataMembers entity) (Scope.heldAt before.holdsType entity) ++
          scope.keyMembers entity) := by
  obtain ⟨-, name, -, -, _, between, _, drafts, -, -, rfl⟩ := publishEntity_ok_iff.mp run
  have opens : (before.opened (scope.entityType entity resource) name).holdsType =
      Scope.heldAt before.holdsType entity :=
    funext fun key => holdsType_opened ..
  obtain ⟨visited, walked⟩ := draftMembers_walks drafts
  rw [opens] at visited walked
  obtain ⟨_, growth, -⟩ := growth_listAll scope between (scope.keyMembers entity)
  have types := visited.complexTypes
  have holds := visited.holdsType_after
  rw [opens] at types holds
  refine ⟨?_, ?_, ?_⟩
  · exact growth.complexTypes.trans types
  · refine Eq.trans (funext fun key => ?_) holds
    rw [holdsType_closeEntityType]
    exact Bool.eq_iff_iff.mpr (growth.holdsType_after.trans (by simp))
  · exact (walked.trans (listAll_lists between (scope.keyMembers entity))).of_enumTypes_eq rfl rfl

/-- The scalars that a run over entities publishes, where some keys are held before. -/
def Scope.publishedScalars (scope : Scope) (entities : List Entity) (held : String → Bool) :
    List Member :=
  (entities.flatMap fun entity => scalarsAmong (scope.dataMembers entity) ++
      scope.keyMembers entity) ++
    scalarsOf (scope.publishedTypes entities held)

/-- A run brings the embedded types that are visited first, and lists the enumerations of the
scalars that it publishes. -/
theorem publishEntities_walks {resourceName : TypeExpr → Option String} {entities : List Entity}
    {value : Unit} (run : publishEntities scope resourceName entities before = .ok value after) :
    after.complexTypes =
        (scope.publishedTypes entities before.holdsType).reverse.map scope.complexType ++
          before.complexTypes ∧
      Draft.Lists before after (scope.publishedScalars entities before.holdsType) := by
  induction entities generalizing before with
  | nil =>
      obtain ⟨-, rfl⟩ := pure_ok_iff.mp run
      exact ⟨rfl, .nothing rfl⟩
  | cons entity rest ih =>
      simp only [publishEntities, bind_ok_iff] at run
      obtain ⟨_, between, first, later⟩ := run
      obtain ⟨types, holds, lists⟩ := publishEntity_walks first
      obtain ⟨restTypes, restLists⟩ := ih later
      rw [holds] at restTypes restLists
      constructor
      · rw [restTypes, types, Scope.publishedTypes, List.reverse_append, List.map_append,
          List.append_assoc]
      · refine (lists.trans restLists).congr fun other => ?_
        simp only [Scope.publishedScalars, Scope.publishedTypes, walkedScalars, scalarsOf,
          List.flatMap_append, List.flatMap_cons, List.mem_append]
        tauto

end Walks

/-! ## Documents -/

section Documents

variable {scope : Scope} {entities : List Entity}

/-- What makes up the key, item by item. -/
theorem keyMembers_publish (scope : Scope) (entity : Entity) :
    List.Forall₂ (fun part property => scope.PublishesKey entity property part)
      (scope.keyMembers entity) (scope.keyProperties entity) := by
  unfold Scope.keyMembers Scope.keyProperties
  cases identifies : entity.identifier with
  | none => exact .nil
  | some identifier =>
      cases parted : entity.keyParts? with
      | some parts =>
          refine List.forall₂_map_right_iff.mpr (List.forall₂_same.mpr fun part inside => ?_)
          obtain ⟨listed, published⟩ := List.mem_filter.mp inside
          exact .part parted listed published
      | none =>
          dsimp only
          split
          next => exact .nil
          next own => exact .cons (.identifier identifies parted (by simpa using own)) .nil

theorem Scope.PublishesKey.mem {entity : Entity} {property : DataProperty} {part : Member}
    (ofKey : scope.PublishesKey entity property part) :
    part ∈ scope.keyMembers entity ∧ property ∈ scope.keyProperties entity := by
  cases ofKey with
  | identifier identifies single own =>
      simp [Scope.keyMembers, Scope.keyProperties, identifies, single, own]
  | part composite inside published =>
      cases identifies : entity.identifier with
      | none => simp [Entity.keyParts?, identifies] at composite
      | some identifier =>
          simp only [Scope.keyMembers, Scope.keyProperties, identifies, composite]
          have kept := List.mem_filter.mpr ⟨inside, published⟩
          exact ⟨kept, List.mem_map_of_mem kept⟩

/-- The scalars that a run publishes are those that it publishes as some data property. -/
theorem mem_publishedScalars_iff {member : Member} :
    member ∈ scope.publishedScalars entities (fun _ => false) ↔
      ∃ key property, scope.Publishes entities key property member := by
  simp only [Scope.publishedScalars, scalarsOf, List.mem_append, List.mem_flatMap,
    mem_scalarsAmong_iff]
  constructor
  · rintro (⟨entity, among, ⟨data, scalar⟩ | ofKey⟩ | ⟨component, published, inside, scalar⟩)
    · exact ⟨_, _, .member among data scalar⟩
    · obtain ⟨property, -, publishes⟩ :=
        exists_related_of_forall₂ (keyMembers_publish scope entity) ofKey
      exact ⟨_, _, .key among publishes⟩
    · exact ⟨_, _, .part published inside scalar⟩
  · rintro ⟨_, _, publishes⟩
    cases publishes with
    | member among data scalar => exact .inl ⟨_, among, .inl ⟨data, scalar⟩⟩
    | key among ofKey => exact .inl ⟨_, among, .inr ofKey.mem.1⟩
    | part published inside scalar => exact .inr ⟨_, published, inside, scalar⟩

/-- What a document shows of the enumerations of scalars that a run publishes. -/
structure Document.ListsEnumerations (document : Document) (scope : Scope)
    (entities : List Entity) : Prop where
  distinct : (document.enumTypes.map (·.shortName)).Nodup
  /-- A scalar that is published is shown, and may be marked as a part of the key. -/
  shown : ∀ key origin member, scope.Publishes entities key origin member →
    ∃ type, document.type? key = some type ∧
      ∃ property ∈ type.dataProperties, property.unmarked = origin.unmarked
  /-- What is shown as a scalar with a mapping is published. -/
  published : ∀ type ∈ document.structuralTypes, ∀ property ∈ type.dataProperties,
    property.isUnmapped = false → property.complexTypeName? = none →
      ∃ origin member, scope.Publishes entities type.key origin member ∧
        property.unmarked = origin.unmarked
  /-- An enumeration of a published scalar is listed by its name. -/
  listed : ∀ key origin member, scope.Publishes entities key origin member →
    ∀ enumeration, member.enumeration = some enumeration →
      ∃ type ∈ document.enumTypes, type.shortName = enumeration.name
  /-- What is listed is the enumeration of a published scalar. -/
  described : ∀ type ∈ document.enumTypes, ∃ key origin member,
    scope.Publishes entities key origin member ∧
      ∃ enumeration, member.enumeration = some enumeration ∧ type = enumeration.published

/-- The scalars that an entity publishes are among its data properties. -/
theorem exists_property_of_member {entity : Entity} {profile : Profile}
    (profiled : scope.profile entity = .ok profile) {member : Member}
    (data : member ∈ scope.dataMembers entity) :
    ∃ property ∈ profile.properties,
      property.unmarked = (scope.memberProperty entity member).unmarked := by
  obtain ⟨_, _, members, made, -, -, kept, -, ordered⟩ := properties_marked profiled
  obtain ⟨property, inside, marked⟩ :=
    exists_related_of_forall₂ kept (List.mem_map_of_mem data)
  refine ⟨property, ?_, marked.unmarked_eq⟩
  simp [ordered, inside]

theorem mem_properties_of_key {entity : Entity} {profile : Profile}
    (profiled : scope.profile entity = .ok profile) {property : DataProperty}
    (ofKey : property ∈ scope.keyProperties entity) : property ∈ profile.properties := by
  obtain ⟨_, _, members, made, -, -, -, -, ordered⟩ := properties_marked profiled
  simp [ordered, ofKey]

/-- A scalar with a mapping on an entity is published as a data member or with the key. -/
theorem exists_publishes_of_property {entity : Entity} {profile : Profile}
    (among : entity ∈ entities) (profiled : scope.profile entity = .ok profile)
    {property : DataProperty} (inside : property ∈ profile.properties)
    (mapped : property.isUnmapped = false) (scalar : property.complexTypeName? = none) :
    ∃ origin member, scope.Publishes entities entity.key origin member ∧
      property.unmarked = origin.unmarked := by
  obtain ⟨origin, same, comes⟩ := exists_origin profiled inside
  have mappedThere : origin.isUnmapped = false :=
    (congrArg DataProperty.isUnmapped same).trans mapped
  have scalarThere : origin.complexTypeName? = none := by
    rw [← complexTypeName?_unmarked, same, complexTypeName?_unmarked, scalar]
  rcases comes with ofKey | ⟨member, data, rfl⟩ | custom | ⟨resolution, resolved, carried⟩
  · obtain ⟨part, -, publishes⟩ := exists_mem_of_forall₂ (keyMembers_publish scope entity) ofKey
    exact ⟨origin, part, .key among publishes, same.symm⟩
  · rw [complexTypeName?_memberProperty, Option.map_eq_none_iff] at scalarThere
    exact ⟨_, member, .member among data scalarThere, same.symm⟩
  · rw [isUnmapped_customProperties scope entity origin custom] at mappedThere
    cases mappedThere
  · obtain ⟨_, -, _, comes, -⟩ := exists_resolves (profile_resolves profiled).2 resolved
    rw [isUnmapped_of_resolution comes origin carried] at mappedThere
    cases mappedThere

section Runs

variable {resourceName : TypeExpr → Option String} {draft : Draft}
  (known : Published scope resourceName entities draft)
  (types : draft.complexTypes =
    (scope.publishedTypes entities fun _ => false).reverse.map scope.complexType)
include known types

/-- What a run publishes is in the document. -/
theorem exists_property_of_publishes (comparisonOptions : String) {key : String}
    {origin : DataProperty} {member : Member}
    (publishes : scope.Publishes entities key origin member) :
    ∃ type, (draft.document comparisonOptions).type? key = some type ∧
      ∃ property ∈ type.dataProperties, property.unmarked = origin.unmarked := by
  cases publishes with
  | member among data scalar =>
      obtain ⟨property, inside, same⟩ := exists_property_of_member (known.profiled _ among) data
      exact ⟨_, known.type?_of_mem among _, property, inside, same⟩
  | key among ofKey =>
      exact ⟨_, known.type?_of_mem among _, origin,
        mem_properties_of_key (known.profiled _ among) ofKey.mem.2, rfl⟩
  | @part component _ new inside scalar =>
      have held : scope.complexType component ∈ draft.structuralTypes := by
        rw [Draft.structuralTypes, types]
        exact List.mem_append_left _ (List.mem_map_of_mem (List.mem_reverse.mpr new))
      exact ⟨scope.complexType component,
        (Keyed.find?_eq_some_iff known.distinctTypes).mpr ⟨held, rfl⟩, _,
        List.mem_map_of_mem inside, rfl⟩

/-- A scalar with a mapping in the document is one that the run publishes. -/
theorem exists_publishes_of_shown {type : StructuralType} (among : type ∈ draft.structuralTypes)
    {property : DataProperty} (inside : property ∈ type.dataProperties)
    (mapped : property.isUnmapped = false) (scalar : property.complexTypeName? = none) :
    ∃ origin member, scope.Publishes entities type.key origin member ∧
      property.unmarked = origin.unmarked := by
  rcases List.mem_append.mp among with complex | node
  · rw [types] at complex
    obtain ⟨component, new, rfl⟩ := List.mem_map.mp complex
    obtain ⟨member, part, rfl⟩ := List.mem_map.mp inside
    rw [complexTypeName?_partProperty, Option.map_eq_none_iff] at scalar
    exact ⟨_, member, .part (List.mem_reverse.mp new) part scalar, rfl⟩
  · rw [known.entityTypes] at node
    obtain ⟨entity, listed, rfl⟩ := List.mem_map.mp node
    exact exists_publishes_of_property listed (known.profiled entity listed) inside mapped scalar

end Runs

/-- **Listed enumerations.** A build that succeeds lists the enumerations of the scalars that it
publishes, at any depth: each under its name, each name once, and nothing else. -/
theorem build_listsEnumerations {catalogue : Catalogue} {options : BuildOptions}
    {edition : Edition} (built : build catalogue options = .ok edition) :
    edition.document.ListsEnumerations (options.scope catalogue)
      (options.participants catalogue) := by
  obtain ⟨draft, run, rfl⟩ := build_ok_iff.mp built
  have known := publishEntities_published (.empty ..) run
  obtain ⟨grown, lists⟩ := publishEntities_walks run
  have nothing : ({} : Draft).holdsType = fun _ => false := rfl
  rw [nothing] at grown lists
  have types := grown.trans (List.append_nil _)
  constructor
  case distinct =>
    obtain ⟨listed, enumTypes, distinct, -⟩ := known.enumTypes
    show (draft.enumTypes.map _).Nodup
    rw [enumTypes, List.map_map]
    exact distinct
  case shown =>
    intro key origin member publishes
    exact exists_property_of_publishes known types _ publishes
  case published =>
    intro type among property inside mapped scalar
    exact exists_publishes_of_shown known types among inside mapped scalar
  case listed =>
    intro key origin member publishes
    exact lists.listed member (mem_publishedScalars_iff.mpr ⟨key, origin, publishes⟩)
  case described =>
    intro type among
    rcases lists.origin type among with old | ⟨member, given, has⟩
    · cases old
    · obtain ⟨key, origin, publishes⟩ := mem_publishedScalars_iff.mp given
      exact ⟨key, origin, member, publishes, has⟩

end Documents

namespace Shop

/-- A number that is stored for a member of an enumeration. -/
def enumerated (name column enumeration : String) (values : List String) : Member :=
  { number name column with
    enumeration := some { name := enumeration, space := "Shop", values } }

/-- Seats in a row on one side. The rank of a seat has the name of another enumeration. -/
def seat : Component :=
  { type := type "Seat"
    members :=
      [ embedding "Row"
          { type := type "Row", members := [enumerated "Side" "side" "Side" ["L", "R"]] },
        enumerated "Rank" "seat_rank" "Rank" ["Bad", "Good"] ] }

/-- Tickets in classes, with a rank and two seats. -/
def ticket : Entity :=
  { type := type "Ticket"
    identifier := some
      { type := type "TicketKey"
        isEmbedded := true
        component := some
          { type := type "TicketKey"
            members :=
              [number "Id" "id", enumerated "Class" "class" "Class" ["First", "Second"]] } }
    keyColumns := [some "id", some "class"]
    members :=
      [ enumerated "Rank" "rank" "Rank" ["Low", "High"], enumerated "Secret" "secret" "Secret" [],
        embedding "Seat" seat, embedding "Other" seat ] }

def tickets : Catalogue := { entities := [ticket] }

/-- The secret of tickets is ignored. -/
def ticketOptions : BuildOptions :=
  { Sample.options with
    overrides := ({} : Overrides).configureMember ticket.type "Secret" [.ignored (.ofBool true)] }

end Shop

/-- Tickets list the enumerations of their rank, of the side of a seat, and of their class. -/
theorem build_listsEnumerations_tickets : ∃ edition,
    build Shop.tickets Shop.ticketOptions = .ok edition ∧
    edition.document.enumTypes.map (fun type => (type.shortName, type.values)) =
      [("Rank", ["Low", "High"]), ("Side", ["L", "R"]), ("Class", ["First", "Second"])] ∧
    edition.document.ListsEnumerations (Shop.ticketOptions.scope Shop.tickets)
      (Shop.ticketOptions.participants Shop.tickets) := by
  obtain ⟨edition, built, listed⟩ := exists_edition_of_view
    (fun edition => edition.document.enumTypes.map fun type => (type.shortName, type.values))
    (by decide +kernel : (build Shop.tickets Shop.ticketOptions).toOption.map _ =
      some [("Rank", ["Low", "High"]), ("Side", ["L", "R"]), ("Class", ["First", "Second"])])
  exact ⟨edition, built, listed, build_listsEnumerations built⟩

end EntityAtlas

import EntityAtlas.Proofs.Hierarchy
import EntityAtlas.Proofs.Publication

/-!
# Coherent catalogues

Which embedded type or enumeration of a key is published depends on who comes first. In a coherent
catalogue it does not matter: types with one key are equal, and so are enumerations with one name.
A draft then holds exactly the embedded types and enumerations that its entities mention
(`Published.mem_complexTypes_iff`, `Published.mem_enumTypes_iff`), and the entities of a run that
succeeds are publishable in any surroundings that know no more (`Published.publishable`).
-/

set_option autoImplicit false

namespace EntityAtlas

/-- Embedded types of one key are equal, and enumerations of one name are equal. -/
structure Coherent (components : List Component) (enumerations : List Enumeration) : Prop where
  types : ∀ left ∈ components, ∀ right ∈ components, left.type.key = right.type.key → left = right
  names : ∀ left ∈ enumerations, ∀ right ∈ enumerations, left.name = right.name → left = right

theorem Coherent.of_subset {components others : List Component}
    {enumerations further : List Enumeration} (coherent : Coherent others further)
    (types : components ⊆ others) (names : enumerations ⊆ further) :
    Coherent components enumerations where
  types left first right second := coherent.types left (types first) right (types second)
  names left first right second := coherent.names left (names first) right (names second)

namespace Entity

/-- The types that the members of an entity embed at any depth, whether published or not. -/
def embeddedTypes (entity : Entity) : List Component := nestedAmong entity.members

/-- The members that make up the identifier: the parts of a composite one, or the identifier
itself. -/
def identifierMembers (entity : Entity) : List Member :=
  entity.keyParts?.getD entity.identifier.toList

/-- The enumerations of the members of an entity at any depth, whether published or not. -/
def enumerations (entity : Entity) : List Enumeration :=
  (entity.members ++ entity.embeddedTypes.flatMap (·.members) ++
    entity.identifierMembers).filterMap (·.enumeration)

end Entity

/-- A catalogue in which keys and names tell entities, embedded types and enumerations apart. -/
structure Catalogue.Coherent (catalogue : Catalogue) : Prop where
  distinct : catalogue.Distinct
  apart : ∀ component ∈ catalogue.entities.flatMap Entity.embeddedTypes,
    component.type.key ∉ catalogue.entities.map (·.key)
  alike : EntityAtlas.Coherent (catalogue.entities.flatMap Entity.embeddedTypes)
    (catalogue.entities.flatMap Entity.enumerations)

/-- In the sample the address is embedded twice, and there is one enumeration. -/
theorem Sample.coherent_catalogue : catalogue.Coherent := by
  obtain ⟨address, embedded⟩ : ∃ address,
      catalogue.entities.flatMap Entity.embeddedTypes = [address, address] := ⟨_, by rfl⟩
  obtain ⟨status, listed⟩ : ∃ status,
      catalogue.entities.flatMap Entity.enumerations = [status] := ⟨_, by rfl⟩
  refine ⟨distinct_catalogue, ?_, ?_⟩
  · have apart : ∀ component ∈ catalogue.entities.flatMap Entity.embeddedTypes,
        component.type.key ∉ catalogue.entities.map (·.key) := by decide +kernel
    exact apart
  · rw [embedded, listed]
    exact ⟨by simp, by simp⟩

/-! ## What is published is declared -/

section Declared

variable {scope : Scope} {entity : Entity}

theorem nestedAmong_subset {members others : List Member} (subset : members ⊆ others) :
    nestedAmong members ⊆ nestedAmong others := by
  intro component among
  obtain ⟨member, inside, holds⟩ := mem_nestedAmong_iff.mp among
  exact mem_nestedAmong_iff.mpr ⟨member, subset inside, holds⟩

theorem Scope.embeddedTypes_subset (scope : Scope) (entity : Entity) :
    scope.embeddedTypes entity ⊆ entity.embeddedTypes :=
  nestedAmong_subset (List.filter_sublist.subset)

theorem Scope.keyMembers_subset (scope : Scope) (entity : Entity) :
    scope.keyMembers entity ⊆ entity.identifierMembers := by
  intro part among
  unfold keyMembers at among
  unfold Entity.identifierMembers
  cases identified : entity.identifier with
  | none => simp [identified] at among
  | some identifier =>
      cases parts : entity.keyParts? with
      | some parts =>
          simp only [identified, parts] at among
          exact (List.mem_filter.mp among).1
      | none =>
          simp only [identified, parts] at among
          split at among
          · cases among
          · exact among

theorem Member.enumeration_of_listed? {member : Member} {enumeration : Enumeration}
    (lists : member.listed? = some enumeration) : member.enumeration = some enumeration := by
  unfold Member.listed? at lists
  split at lists
  · cases lists
  · exact lists

theorem Scope.mentioned_subset (scope : Scope) (entity : Entity) :
    scope.mentioned entity ⊆ entity.enumerations := by
  intro enumeration among
  unfold Entity.enumerations
  rcases List.mem_append.mp among with own | key
  · obtain ⟨member, inside, lists⟩ := List.mem_filterMap.mp own
    refine List.mem_filterMap.mpr ⟨member, ?_, Member.enumeration_of_listed? lists⟩
    refine List.mem_append_left _ ?_
    rcases List.mem_append.mp inside with direct | nested
    · exact List.mem_append_left _ (List.mem_filter.mp direct).1
    · obtain ⟨component, embedded, inside⟩ := List.mem_flatMap.mp nested
      exact List.mem_append_right _ (List.mem_flatMap.mpr
        ⟨component, scope.embeddedTypes_subset entity embedded, inside⟩)
  · obtain ⟨part, inside, has⟩ := List.mem_filterMap.mp key
    exact List.mem_filterMap.mpr
      ⟨part, List.mem_append_right _ (scope.keyMembers_subset entity inside), has⟩

end Declared

theorem flatMap_subset {α β : Type} {items others : List α} {few many : α → List β}
    (items_subset : items ⊆ others) (each : ∀ item, few item ⊆ many item) :
    items.flatMap few ⊆ others.flatMap many := by
  intro value among
  obtain ⟨item, inside, holds⟩ := List.mem_flatMap.mp among
  exact List.mem_flatMap.mpr ⟨item, items_subset inside, each item holds⟩

/-! ## What is mentioned is published -/

/-- The entities of a run embed and mention coherent things, and no embedded type has the key of an
entity. -/
structure Scope.CoherentOver (scope : Scope) (entities : List Entity) : Prop where
  alike : Coherent (entities.flatMap scope.embeddedTypes) (entities.flatMap scope.mentioned)
  apart : ∀ component ∈ entities.flatMap scope.embeddedTypes,
    component.type.key ∉ entities.map (·.key)

namespace Published

variable {scope : Scope} {resourceName : TypeExpr → Option String} {done : List Entity}
  {draft : Draft}

/-- The embedded types in the draft are all those that the entities embed. -/
theorem exists_components (published : Published scope resourceName done draft)
    (coherent : scope.CoherentOver done) :
    ∃ components, draft.complexTypes = components.map scope.complexType ∧ ArePlain components ∧
      (∀ component, component ∈ components ↔ component ∈ done.flatMap scope.embeddedTypes) ∧
      ∀ component ∈ components, ∀ member ∈ component.members, member.SettledIn draft := by
  obtain ⟨components, complexTypes, embedded, plain, settled⟩ := published.complexTypes
  have held : ∀ component ∈ done.flatMap scope.embeddedTypes,
      draft.holdsType component.type.key = true → component ∈ components := by
    intro component among held
    obtain ⟨type, inside, same⟩ := holdsType_iff.mp held
    rcases List.mem_append.mp inside with complex | node
    · rw [complexTypes] at complex
      obtain ⟨other, new, rfl⟩ := List.mem_map.mp complex
      exact coherent.alike.types other (embedded other new) component among same ▸ new
    · rw [published.entityTypes] at node
      obtain ⟨entity, listed, rfl⟩ := List.mem_map.mp node
      exact (coherent.apart component among (List.mem_map.mpr ⟨entity, listed, same⟩)).elim
  -- A type that the draft holds is complete, so the draft holds what is nested in it.
  have closes : ∀ component, component ∈ done.flatMap scope.embeddedTypes →
      draft.holdsType component.type.key = true → component.nested ⊆ components := by
    intro component
    induction component using Component.induction with
    | step component ih =>
        intro among holds inner nested
        have here := held component among holds
        rcases Component.mem_nested_iff.mp nested with rfl | below
        · exact here
        · obtain ⟨member, part, inside⟩ := mem_nestedAmong_iff.mp below
          obtain ⟨middle, plain, embeds, deeper⟩ := Member.exists_of_mem_nested inside
          obtain ⟨entity, listed, own⟩ := List.mem_flatMap.mp among
          have middleAmong : middle ∈ done.flatMap scope.embeddedTypes :=
            List.mem_flatMap.mpr ⟨entity, listed, nestedAmong_trans own
              (Component.mem_nested_iff.mpr
                (.inr (nestedAmong_of_embedded part plain embeds middle.self_mem_nested)))⟩
          exact ih member part middle embeds middleAmong
            ((settled component here member part).embedded middle embeds) deeper
  refine ⟨components, complexTypes, plain, fun component => ⟨embedded component, ?_⟩, settled⟩
  intro among
  obtain ⟨entity, listed, own⟩ := List.mem_flatMap.mp among
  obtain ⟨member, part, inside⟩ := mem_nestedAmong_iff.mp own
  obtain ⟨outer, plain, embeds, below⟩ := Member.exists_of_mem_nested inside
  have outerAmong : outer ∈ done.flatMap scope.embeddedTypes :=
    List.mem_flatMap.mpr
      ⟨entity, listed, nestedAmong_of_embedded part plain embeds outer.self_mem_nested⟩
  have held := (published.settled entity listed member part).embedded outer embeds
  exact closes outer outerAmong held below

/-- **Embedded types in a coherent run.** The draft has those that its entities embed, each with all
its members. -/
theorem mem_complexTypes_iff (published : Published scope resourceName done draft)
    (coherent : scope.CoherentOver done) (type : StructuralType) :
    type ∈ draft.complexTypes ↔
      ∃ component ∈ done.flatMap scope.embeddedTypes, scope.complexType component = type := by
  obtain ⟨components, complexTypes, -, all, -⟩ := published.exists_components coherent
  rw [complexTypes, List.mem_map]
  exact exists_congr fun component => and_congr_left fun _ => all component

/-- **Enumerations in a coherent run.** The draft has those that its entities mention. -/
theorem mem_enumTypes_iff (published : Published scope resourceName done draft)
    (coherent : scope.CoherentOver done) (type : EnumType) :
    type ∈ draft.enumTypes ↔
      ∃ enumeration ∈ done.flatMap scope.mentioned, enumeration.published = type := by
  obtain ⟨components, -, -, all, settled⟩ := published.exists_components coherent
  obtain ⟨listed, enumTypes, -, mentioned⟩ := published.enumTypes
  have named : ∀ enumeration ∈ done.flatMap scope.mentioned,
      ∃ type ∈ draft.enumTypes, type.shortName = enumeration.name := by
    intro enumeration among
    obtain ⟨entity, inside, mentions⟩ := List.mem_flatMap.mp among
    rcases List.mem_append.mp mentions with own | key
    · obtain ⟨member, part, lists⟩ := List.mem_filterMap.mp own
      rcases List.mem_append.mp part with direct | nested
      · exact (published.settled entity inside member direct).listed enumeration lists
      · obtain ⟨component, embedded, part⟩ := List.mem_flatMap.mp nested
        have here := (all component).mpr (List.mem_flatMap.mpr ⟨entity, inside, embedded⟩)
        exact (settled component here member part).listed enumeration lists
    · obtain ⟨part, ofKey, has⟩ := List.mem_filterMap.mp key
      exact published.keysListed entity inside part ofKey enumeration has
  constructor
  · intro among
    rw [enumTypes] at among
    obtain ⟨enumeration, inside, rfl⟩ := List.mem_map.mp among
    exact ⟨enumeration, mentioned enumeration inside, rfl⟩
  · rintro ⟨enumeration, among, rfl⟩
    obtain ⟨type, inside, same⟩ := named enumeration among
    rw [enumTypes] at inside
    obtain ⟨other, new, rfl⟩ := List.mem_map.mp inside
    rw [← coherent.alike.names other (mentioned other new) enumeration among same, enumTypes]
    exact List.mem_map_of_mem new

theorem distinctKeys (published : Published scope resourceName done draft) :
    (done.map (·.key)).Nodup := by
  have distinct := published.distinctTypes
  rw [Draft.structuralTypes, List.map_append, published.entityTypes, List.map_map] at distinct
  exact (List.nodup_append.mp distinct).2.1

theorem nodup_complexTypes (published : Published scope resourceName done draft) :
    draft.complexTypes.Nodup := by
  have distinct := published.distinctTypes
  rw [Draft.structuralTypes, List.map_append] at distinct
  exact .of_map _ (List.nodup_append.mp distinct).1

theorem nodup_enumTypes (published : Published scope resourceName done draft) :
    draft.enumTypes.Nodup := by
  obtain ⟨listed, enumTypes, distinct, -⟩ := published.enumTypes
  rw [enumTypes]
  refine List.Nodup.of_map (fun type : EnumType => type.shortName) ?_
  rw [List.map_map]
  exact distinct

theorem distinctSurrogates (published : Published scope resourceName done draft) :
    (draft.surrogates.map Prod.fst).Nodup := by
  rw [published.surrogates, List.map_map]
  exact (List.filter_sublist.map _).nodup published.distinctKeys

/-- The entities of a coherent run that succeeds are publishable together. -/
theorem publishable (published : Published scope resourceName done draft)
    (coherent : scope.CoherentOver done) : Publishable scope resourceName done where
  distinctKeys := published.distinctKeys
  named := published.named
  distinctNames := by
    have distinct := published.distinctResources
    rw [published.resources, List.map_map] at distinct
    refine List.Nodup.of_map (fun name : Option String => name.getD "") ?_
    rw [List.map_map]
    exact distinct
  profiled := published.profiled
  distinctEntries := published.foreignKeys ▸ published.distinctForeignKeys
  plain := by
    obtain ⟨components, -, plain, all, -⟩ := published.exists_components coherent
    exact plain.of_subset fun component among => (all component).mpr among
  apart := coherent.apart

end Published

/-! ## Builds over coherent catalogues -/

theorem participants_sublist (options : BuildOptions) (catalogue : Catalogue) :
    (options.participants catalogue).Sublist catalogue.entities := by
  unfold BuildOptions.participants
  cases options.accepts with
  | none => exact List.Sublist.refl _
  | some accepts => exact List.filter_sublist

theorem participants_subset (options : BuildOptions) (catalogue : Catalogue) :
    options.participants catalogue ⊆ catalogue.entities :=
  (participants_sublist options catalogue).subset

section Builds

variable {catalogue : Catalogue} {options : BuildOptions}

/-- The participants of a coherent catalogue are coherent. -/
theorem Catalogue.Coherent.participants (coherent : catalogue.Coherent) (options : BuildOptions) :
    (options.scope catalogue).CoherentOver (options.participants catalogue) where
  alike := coherent.alike.of_subset
    (flatMap_subset (participants_subset options catalogue) (Scope.embeddedTypes_subset _))
    (flatMap_subset (participants_subset options catalogue) (Scope.mentioned_subset _))
  apart component among taken := coherent.apart component
    (flatMap_subset (participants_subset options catalogue) (Scope.embeddedTypes_subset _) among)
    (List.map_subset _ (participants_subset options catalogue) taken)

/-- **When a coherent catalogue is built.** Exactly when its participants are publishable. -/
theorem exists_build_iff (coherent : catalogue.Coherent) :
    (∃ edition, build catalogue options = .ok edition) ↔
      Publishable (options.scope catalogue) options.resourceName
        (options.participants catalogue) := by
  constructor
  · rintro ⟨edition, built⟩
    obtain ⟨draft, published, -, -⟩ := build_published built
    exact published.publishable (coherent.participants options)
  · intro publishable
    obtain ⟨draft, run⟩ := publishEntities_of_publishable publishable (.empty ..)
    exact ⟨_, build_ok_iff.mpr ⟨draft, run, rfl⟩⟩

end Builds

end EntityAtlas

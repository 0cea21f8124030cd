import EntityAtlas.Proofs.Inheritance

/-!
# Names of foreign keys

A navigation property names the members that carry its foreign key. The search behind it answers
with names that the searched entity declares apart from its associations (`namesOver_subset`), and
such a name is a data property of the entity or of an ancestor that takes part (`offers_plain`). Any
other name is that of a surrogate of the entity itself. So the names never lead nowhere
(`foreignKeyNames_offered`).
-/

set_option autoImplicit false

namespace EntityAtlas

/-! ## What a search answers -/

namespace Entity

/-- The names that an entity declares apart from its associations: those of its other members and
those of its identifier. -/
def plainNames (entity : Entity) : List (Option String) :=
  (entity.members.filter (!·.isAssociation)).map (·.name) ++ entity.identifierNames

theorem part_mem_identifierNames {entity : Entity} {part : Member}
    (among : part ∈ entity.keyParts?.getD []) :
    part.name ∈ entity.identifierNames :=
  List.mem_append_right _ (List.mem_map_of_mem among)

end Entity

theorem mem_of_memberOver? {columns : List (Option String)} {members : List Member}
    {member : Member} (found : memberOver? columns members = .ok (some member)) :
    member ∈ members := by
  induction members with
  | nil => cases found
  | cons first rest ih =>
      unfold memberOver? at found
      split at found
      next =>
        split at found
        next =>
          cases found
          exact List.mem_cons_self
        next => exact List.mem_cons_of_mem _ (ih found)
        next => cases found
      next => exact List.mem_cons_of_mem _ (ih found)

namespace Entity

variable {entity : Entity} {columns names : List (Option String)}

theorem answeringNames?_subset (answers : entity.answeringNames? = some names) :
    names ⊆ entity.identifierNames := by
  unfold answeringNames? at answers
  unfold identifierNames
  split at answers
  next name named =>
    cases answers
    rw [named]
    exact List.subset_append_left _ _
  next unnamed =>
    obtain ⟨parts, parted, rfl⟩ := Option.map_eq_some_iff.mp answers
    rw [parted]
    exact List.subset_append_right _ _

theorem namesOverExactly_subset (found : entity.namesOverExactly columns = .ok (some names)) :
    names ⊆ entity.plainNames := by
  unfold namesOverExactly at found
  obtain ⟨member?, searched, found⟩ := except_bind_ok_iff.mp found
  cases member? with
  | some member =>
      cases found
      have among := mem_of_memberOver? searched
      simp only [Entity.searched, List.mem_filter, List.mem_append] at among
      intro name same
      obtain rfl := List.mem_singleton.mp same
      rcases among with ⟨own | part, plain⟩
      · exact List.mem_append_left _ (List.mem_map_of_mem (List.mem_filter.mpr ⟨own, plain⟩))
      · exact List.mem_append_right _ (part_mem_identifierNames part)
  | none =>
      obtain ⟨keyed, -, found⟩ := except_bind_ok_iff.mp found
      cases keyed with
      | true =>
          exact List.Subset.trans (answeringNames?_subset (except_pure_ok_iff.mp found))
            (List.subset_append_right _ _)
      | false => cases found

theorem mem_withNewNames_iff {name : Option String} {others : List (Option String)} :
    name ∈ withNewNames names others ↔ name ∈ names ∨ name ∈ others := by
  unfold withNewNames
  induction others generalizing names with
  | nil => simp
  | cons other rest ih =>
      rw [List.foldl_cons, ih]
      by_cases held : other ∈ names
      · rw [if_pos (List.contains_iff_mem.mpr held), List.mem_cons]
        constructor
        · exact Or.imp_right .inr
        · rintro (before | rfl | later)
          · exact .inl before
          · exact .inl held
          · exact .inr later
      · rw [if_neg fun contained => held (List.contains_iff_mem.mp contained)]
        simp [or_assoc]

/-- Names found column by column were found before, or one of the columns has them. -/
theorem mem_namesOverEach_iff {found : List (Option String)} {name : Option String}
    (each : entity.namesOverEach found columns = .ok names) :
    name ∈ names ↔ name ∈ found ∨
      ∃ column ∈ columns, ∃ answer,
        entity.namesOverExactly [column] = .ok (some answer) ∧ name ∈ answer := by
  induction columns generalizing found with
  | nil =>
      cases each
      simp
  | cons column rest ih =>
      obtain ⟨more, exact, each⟩ := except_bind_ok_iff.mp each
      rw [ih each, mem_withNewNames_iff, or_assoc]
      simp only [List.mem_cons, exists_eq_or_imp, exact, Except.ok.injEq]
      cases more with
      | none => simp
      | some answer => simp

/-- Names found column by column were found before or are plain. -/
theorem namesOverEach_subset {found : List (Option String)} (plain : found ⊆ entity.plainNames)
    (each : entity.namesOverEach found columns = .ok names) : names ⊆ entity.plainNames := by
  intro name among
  rcases (mem_namesOverEach_iff each).mp among with before | ⟨column, -, answer, exact, answered⟩
  · exact plain before
  · exact namesOverExactly_subset exact answered

/-- **What a search answers.** Names that the entity declares apart from its associations. -/
theorem namesOver_subset {decompose : Bool}
    (found : entity.namesOver columns decompose = .ok (some names)) :
    names ⊆ entity.plainNames := by
  unfold namesOver at found
  obtain ⟨together, exact, found⟩ := except_bind_ok_iff.mp found
  cases together with
  | some given =>
      cases found
      exact namesOverExactly_subset exact
  | none =>
      simp only at found
      split at found
      next =>
        obtain ⟨each, searched, found⟩ := except_bind_ok_iff.mp found
        split at found
        next => cases found
        next =>
          cases found
          exact namesOverEach_subset (List.nil_subset _) searched
      next => cases found

end Entity

/-! ## What an association says of its foreign key -/

section Names

variable {scope : Scope} {entity : Entity} {association : Member} {resolution : Resolution}
  {held names : List (Option String)}

/-- The names of a foreign key on this end are plain, or those of data properties of the entity. -/
theorem foreignKeyNames_of_resolves (resolves : scope.Resolves entity held association resolution)
    (shown : resolution.navigation.foreignKeyNames = some names) :
    ∀ name ∈ names, name ∈ entity.plainNames ∨ name ∈ held := by
  obtain ⟨properties, comes, within⟩ := resolves
  obtain ⟨related, columns, -, -, ⟨-, _, -, rfl⟩ | ⟨-, carrier, settled, rfl⟩⟩ :=
    resolution_ok comes
  · cases shown
  · cases onDeclarer : association.keyOnDeclarer with
    | false => simp [onDeclarer, NavigationProperty.withKeyNames, Scope.navigation] at shown
    | true =>
        simp only [onDeclarer, NavigationProperty.withKeyNames, ↓reduceIte,
          Option.some.injEq] at shown
        subst shown
        rcases keyCarrier_ok settled with ⟨given, mapped, rfl⟩ |
          ⟨-, ⟨column, -, -, made⟩ | ⟨_, -, onOther, -⟩ | rfl⟩
        · simp only [Scope.mappedKeyNames, onDeclarer, except_bind_ok_iff,
            except_pure_ok_iff] at mapped
          obtain ⟨_, rfl, mapped⟩ := mapped
          exact fun name among => .inl (Entity.namesOver_subset mapped among)
        · rcases surrogateCarrier_ok made with ⟨rfl, property, there, named⟩ |
            ⟨surrogate, property, rfl, named, -⟩
          · intro name same
            obtain rfl := List.mem_singleton.mp same
            exact .inr (within (List.mem_map.mpr ⟨property, List.mem_append_left _ there, named⟩))
          · intro name same
            obtain rfl := List.mem_singleton.mp same
            exact .inr (within (List.mem_map.mpr
              ⟨property, List.mem_append_right _ (List.mem_singleton.mpr rfl), named⟩))
        · rw [onDeclarer] at onOther
          cases onOther
        · exact fun name among => by cases among

/-- The names of a foreign key on the other end of a collection are plain names of its elements. -/
theorem inverseForeignKeyNames_of_resolves
    (resolves : scope.Resolves entity held association resolution)
    (collection : resolution.navigation.isScalar = false)
    (shown : resolution.navigation.inverseForeignKeyNames = some names) :
    ∃ element, scope.catalogue.find? element.key = some element ∧
      resolution.navigation.entityTypeName = some element.key ∧ names ⊆ element.plainNames := by
  obtain ⟨properties, comes, -⟩ := resolves
  obtain ⟨related, columns, -, -, ⟨-, given, found, rfl⟩ | ⟨one, carrier, settled, rfl⟩⟩ :=
    resolution_ok comes
  · obtain rfl : given = some names := shown
    unfold Scope.collectionKeyNames at found
    split at found
    next => cases found
    next =>
      split at found
      next => cases found
      next element mapped =>
        have same := Catalogue.key_of_find? mapped
        exact ⟨element, same ▸ mapped, congrArg some same.symm, Entity.namesOver_subset found⟩
  · have scalar := (navigation_of_resolution comes).2.1
    rw [one] at scalar
    rw [scalar] at collection
    cases collection

end Names

/-! ## What a document offers -/

/-- The type with a key, or a type above it on the links to base types, has a data property of a
name. -/
def Document.Offers (document : Document) (key : String) (name : Option String) : Prop :=
  ∃ above, document.Climbs key above ∧ ∃ holder ∈ key :: above, ∃ type,
    document.type? holder = some type ∧ name ∈ type.dataProperties.map (·.nameOnServer)

/-- A composite identifier has no name of its own, and its parts are no associations. -/
structure Entity.PlainComposite (entity : Entity) : Prop where
  unnamed : entity.keyParts?.isSome → entity.identifierName? = none
  scalar : ∀ part ∈ entity.keyParts?.getD [], part.isAssociation = false

section Offers

variable {scope : Scope} {entity : Entity} {name : Option String}

/-- A name of the identifier that no ancestor declares is that of a member of the key. -/
theorem mem_keyMembers (composite : entity.PlainComposite) (ofKey : name ∈ entity.identifierNames)
    (own : name ∉ scope.inheritedNames entity) :
    name ∈ (scope.keyMembers entity).map (·.name) := by
  unfold Entity.identifierNames at ofKey
  unfold Scope.keyMembers
  cases identified : entity.identifier with
  | none => simp [Entity.identifierName?, Entity.keyParts?, identified] at ofKey
  | some identifier =>
      cases parted : entity.keyParts? with
      | some parts =>
          rw [composite.unnamed (by simp [parted]), parted] at ofKey
          obtain ⟨part, inside, rfl⟩ := List.mem_map.mp ofKey
          refine List.mem_map_of_mem (List.mem_filter.mpr ⟨inside, ?_⟩)
          have scalar := composite.scalar part (by rw [parted]; exact inside)
          simp [Scope.publishesPart, own, scalar]
      | none =>
          rw [parted, Option.getD_none, List.map_nil, List.append_nil, Option.mem_toList,
            Entity.identifierName?, identified] at ofKey
          obtain ⟨text, kept, rfl⟩ := Option.map_eq_some_iff.mp ofKey
          have named := (Option.filter_eq_some_iff.mp kept).1
          simp [named, own]

/-- A plain name that no ancestor declares is that of a data property. -/
theorem mem_of_plain {profile : Profile} (profiled : scope.profile entity = .ok profile)
    (keeps : scope.overrides.KeepMembers) (composite : entity.PlainComposite)
    (plain : name ∈ entity.plainNames) (own : name ∉ scope.inheritedNames entity) :
    name ∈ profile.properties.map (·.nameOnServer) := by
  have published : name ∈ (scope.keyMembers entity ++ scope.dataMembers entity).map (·.name) := by
    rw [List.map_append]
    rcases List.mem_append.mp plain with member | identifier
    · obtain ⟨member, inside, rfl⟩ := List.mem_map.mp member
      obtain ⟨among, isPlain⟩ := List.mem_filter.mp inside
      refine List.mem_append_right _ (List.mem_map_of_mem (List.mem_filter.mpr ⟨among, ?_⟩))
      simp only [Bool.not_eq_true'] at isPlain
      simp [Scope.publishesData, ignored_of_keepMembers keeps, own, isPlain]
    · exact List.mem_append_left _ (mem_keyMembers composite identifier own)
  have mapped := (profile_resolves profiled).1.mem_iff.mpr published
  exact List.map_subset _ List.filter_sublist.subset mapped

variable {catalogue : Catalogue} {options : BuildOptions}

/-- **Plain names are offered.** A name that a participant declares apart from its associations is a
data property of its entity type or of a base type, unless an ancestor has an association of the
name. -/
theorem offers_plain {draft : Draft} (distinct : catalogue.Distinct)
    (acyclic : catalogue.Acyclic)
    (composites : ∀ entity ∈ catalogue.entities, entity.PlainComposite)
    (keeps : options.overrides.KeepMembers)
    (published : Published (options.scope catalogue) options.resourceName
      (options.participants catalogue) draft)
    (included : entity ∈ options.participants catalogue)
    (apart : ∀ ancestor ∈ (options.scope catalogue).ancestors true entity,
      ∀ member ∈ ancestor.members, member.isAssociation = true → member.name ≠ name)
    (plain : name ∈ entity.plainNames) (comparisonOptions : String) :
    (draft.document comparisonOptions).Offers entity.key name := by
  have declared : name ∈ entity.declaredNames := by
    rcases List.mem_append.mp plain with member | identifier
    · exact List.mem_append_left _ (List.map_subset _ List.filter_sublist.subset member)
    · exact List.mem_append_right _ identifier
  obtain ⟨before, holder, after, split, holds, farthest⟩ := exists_last
    (fun shown : Entity => name ∈ shown.declaredNames) ⟨entity, List.mem_cons_self, declared⟩
  obtain ⟨inside, rfl⟩ := ancestors_of_split distinct acyclic included split
  have onWalk : holder ∈ entity :: (options.scope catalogue).ancestors true entity := by
    rw [split]
    simp
  have plainThere : name ∈ holder.plainNames := by
    rcases List.mem_cons.mp onWalk with rfl | above
    · exact plain
    · rcases List.mem_append.mp holds with member | identifier
      · obtain ⟨member, among, same⟩ := List.mem_map.mp member
        have isPlain : member.isAssociation = false :=
          Bool.eq_false_iff.mpr fun association => apart holder above member among association same
        exact List.mem_append_left _
          (List.mem_map.mpr ⟨member, List.mem_filter.mpr ⟨among, by simp [isPlain]⟩, same⟩)
      · exact List.mem_append_right _ identifier
  have own : name ∉ (options.scope catalogue).inheritedNames holder := by
    intro inherited
    obtain ⟨ancestor, above, declares⟩ := List.mem_flatMap.mp inherited
    exact farthest ancestor above declares
  refine ⟨_, climbs_ancestors distinct acyclic published included comparisonOptions, holder.key,
    List.mem_map_of_mem onWalk, _, published.type?_of_mem inside comparisonOptions, ?_⟩
  exact mem_of_plain (published.profiled holder inside) keeps
    (composites holder (participants_subset options catalogue inside)) plainThere own

/-- **Foreign keys lead somewhere.** Every name that a navigation property gives for its foreign key
is that of a data property of its entity type or of a base type. Every name that a collection gives
for the foreign key of its elements is that of a data property of their entity type or of a base
type, if they are in the document. -/
theorem foreignKeyNames_offered {edition : Edition} (distinct : catalogue.Distinct)
    (acyclic : catalogue.Acyclic)
    (composites : ∀ entity ∈ catalogue.entities, entity.PlainComposite)
    (apart : ∀ entity ∈ options.participants catalogue, ∀ name ∈ entity.plainNames,
      ∀ ancestor ∈ (options.scope catalogue).ancestors true entity,
      ∀ member ∈ ancestor.members, member.isAssociation = true → member.name ≠ name)
    (keeps : options.overrides.KeepMembers) (built : build catalogue options = .ok edition) :
    ∀ type ∈ edition.document.structuralTypes, ∀ navigation ∈ type.navigationProperties,
      (∀ names, navigation.foreignKeyNames = some names →
        ∀ name ∈ names, edition.document.Offers type.key name) ∧
      (navigation.isScalar = false → ∀ names, navigation.inverseForeignKeyNames = some names →
        ∀ element ∈ options.participants catalogue, navigation.entityTypeName = some element.key →
          ∀ name ∈ names, edition.document.Offers element.key name) := by
  obtain ⟨draft, published, document, -⟩ := build_published built
  rw [document]
  have offered : ∀ entity ∈ options.participants catalogue, ∀ name ∈ entity.plainNames,
      (draft.document options.comparisonOptions).Offers entity.key name :=
    fun entity included name plain => offers_plain distinct acyclic composites keeps published
      included (apart entity included name plain) plain options.comparisonOptions
  intro type among navigation shown
  rcases List.mem_append.mp among with complex | node
  · obtain ⟨components, complexTypes, -⟩ := published.complexTypes
    rw [complexTypes] at complex
    obtain ⟨component, -, rfl⟩ := List.mem_map.mp complex
    cases shown
  · rw [published.entityTypes] at node
    obtain ⟨entity, included, rfl⟩ := List.mem_map.mp node
    have profiled := published.profiled entity included
    obtain ⟨resolution, inside, rfl⟩ := List.mem_map.mp shown
    obtain ⟨association, -, resolves⟩ := exists_resolves (profile_resolves profiled).2 inside
    constructor
    · intro names given name named
      rcases foreignKeyNames_of_resolves resolves given name named with plain | held
      · exact offered entity included name plain
      · exact ⟨_, climbs_ancestors distinct acyclic published included _, entity.key,
          List.mem_cons_self, _, published.type?_of_mem included _, held⟩
    · intro collection names given element present leads name named
      obtain ⟨other, found, leadsThere, plain⟩ :=
        inverseForeignKeyNames_of_resolves resolves collection given
      rw [leads] at leadsThere
      have same : element.key = other.key := Option.some.inj leadsThere
      have here := distinct.find?_self (participants_subset options catalogue present)
      rw [same] at here
      obtain rfl : other = element := Option.some.inj (found.symm.trans here)
      exact offered other present name (plain named)

end Offers

/-- The foreign keys of the sample lead to data properties. -/
theorem foreignKeyNames_offered_sample :
    ∃ edition, build Sample.catalogue Sample.options = .ok edition ∧
      ∀ type ∈ edition.document.structuralTypes, ∀ navigation ∈ type.navigationProperties,
        (∀ names, navigation.foreignKeyNames = some names →
          ∀ name ∈ names, edition.document.Offers type.key name) ∧
        (navigation.isScalar = false → ∀ names, navigation.inverseForeignKeyNames = some names →
          ∀ element ∈ Sample.options.participants Sample.catalogue,
            navigation.entityTypeName = some element.key →
              ∀ name ∈ names, edition.document.Offers element.key name) := by
  obtain ⟨edition, built⟩ := Sample.exists_edition
  have composites : ∀ entity ∈ Sample.catalogue.entities,
      (entity.keyParts?.isSome → entity.identifierName? = none) ∧
        ∀ part ∈ entity.keyParts?.getD [], part.isAssociation = false := by
    decide +kernel
  have apart : ∀ entity ∈ Sample.options.participants Sample.catalogue,
      ∀ name ∈ entity.plainNames,
      ∀ ancestor ∈ (Sample.options.scope Sample.catalogue).ancestors true entity,
      ∀ member ∈ ancestor.members, member.isAssociation = true → member.name ≠ name := by
    decide +kernel
  refine ⟨edition, built, ?_⟩
  intro type among navigation shown
  exact foreignKeyNames_offered Sample.distinct_catalogue Sample.acyclic_catalogue
    (fun entity among => ⟨(composites entity among).1, (composites entity among).2⟩) apart
    (fun type among => by cases among) built type among navigation shown

end EntityAtlas

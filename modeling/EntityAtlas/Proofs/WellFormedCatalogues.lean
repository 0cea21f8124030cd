import EntityAtlas.Proofs.Coherence
import EntityAtlas.Proofs.ColumnReadings
import EntityAtlas.Proofs.ForeignKeyIndex

/-!
# Well-formed catalogues

A well-formed catalogue (`Catalogue.WellFormed`) is built in every way in which its participants
have resource names of their own (`build_of_wellFormed`). Nothing is asked of the hierarchy, of the
overrides, or of which entities take part.

A build may be refused for what one association says, for one name or key that is given twice, or
for an embedded association. The associations are settled first: each comes to something over any
data properties (`resolution_of_wellFormed`), and so do all of an entity, one after the other
(`profile_of_wellFormed`). What they record has names of its own, because a name in the index tells
the entity and the association (`distinctEntries_of_wellFormed`). The rest is read off the
definition.
-/

set_option autoImplicit false

namespace EntityAtlas

/-! ## Conditions -/

/-- An entity whose names tell its members apart, whose columns have names, and whose collections
tell the type of their elements. -/
structure Entity.WellFormed (entity : Entity) : Prop where
  typeName : '.' ∉ entity.type.name.toList
  memberNames : ∀ member ∈ entity.declared, ∃ name, member.name = some name ∧ '.' ∉ name.toList
  distinctNames : (entity.declared.map (·.name)).Nodup
  columns : entity.HasColumnNames
  collections : ∀ association ∈ entity.declared, association.isAssociation = true →
    association.isCollection = true →
      association.type.element.isSome = true ∨ association.type.arguments.length = 1

/-- What carries the columns of an association to one entity. -/
structure Catalogue.Anchors (catalogue : Catalogue) (entity : Entity) (association : Member)
    (columns : List String) : Prop where
  /-- Several columns are carried by members of the entity, or of the related entity if the key lies
  there. -/
  several : 2 ≤ columns.length → entity.carries columns = true ∨
    association.keyOnDeclarer = false ∧ ∃ other,
      catalogue.find? association.type.key = some other ∧ other.carries columns = true
  /-- For a single column of the entity that no member carries the related entity has an
  identifier. -/
  single : columns.length = 1 → association.keyOnDeclarer = true →
    entity.carries columns = false → ∃ other,
      catalogue.find? association.type.key = some other ∧ other.identifier.isSome = true

/-- A catalogue of well-formed entities with keys that tell them and their embedded types apart,
where no embedded type has associations and something carries every association to one entity. -/
structure Catalogue.WellFormed (catalogue : Catalogue) : Prop where
  distinct : catalogue.Distinct
  apart : ∀ component ∈ catalogue.entities.flatMap Entity.embeddedTypes,
    component.type.key ∉ catalogue.entities.map (·.key)
  plain : ArePlain (catalogue.entities.flatMap Entity.embeddedTypes)
  entities : ∀ entity ∈ catalogue.entities, entity.WellFormed
  anchored : ∀ entity ∈ catalogue.entities, ∀ association ∈ entity.declared,
    association.isAssociation = true → association.isCollection = false →
      ∀ columns, entity.foreignKeyColumns association = .ok columns →
        catalogue.Anchors entity association columns

/-- The participants have resource names, and no two have the same. -/
structure BuildOptions.NamesApart (options : BuildOptions) (catalogue : Catalogue) : Prop where
  named : ∀ entity ∈ options.participants catalogue, (options.resourceName entity.type).isSome
  distinct : ((options.participants catalogue).map fun entity =>
    options.resourceName entity.type).Nodup

/-! ## Associations -/

section Associations

variable {scope : Scope} {entity : Entity} {association : Member} {related : TypeExpr}
  {columns : List String}

/-- The search for the members behind a key has an answer. If it finds none, the columns are carried
on neither end on which it looks. -/
theorem mappedKeyNames_of_columns (association : Member) (own : entity.HasColumnNames)
    (others : ∀ other, scope.catalogue.find? related.key = some other → other.HasColumnNames)
    (columns : List String) :
    ∃ found, scope.mappedKeyNames entity association related columns = .ok found ∧
      (found = none → entity.carries columns = false ∧
        ∀ other, association.keyOnDeclarer = false →
          scope.catalogue.find? related.key = some other → other.carries columns = false) := by
  obtain ⟨here, searched, carried⟩ := exists_namesOver own columns
  have uncarried : here = none → entity.carries columns = false := by
    rintro rfl
    exact carried
  unfold Scope.mappedKeyNames
  cases onDeclarer : association.keyOnDeclarer with
  | true =>
      refine ⟨here, searched, fun missing => ⟨uncarried missing, ?_⟩⟩
      rintro _ ⟨⟩
  | false =>
      cases known : scope.catalogue.find? related.key with
      | none =>
          refine ⟨here, searched, fun missing => ⟨uncarried missing, ?_⟩⟩
          rintro _ - ⟨⟩
      | some other =>
          obtain ⟨there, searchedThere, carriedThere⟩ :=
            exists_namesOver (others other known) columns
          simp only [searchedThere, bind, Except.bind]
          cases there with
          | some names => exact ⟨some names, rfl, by simp⟩
          | none =>
              refine ⟨here, searched, fun missing => ⟨uncarried missing, ?_⟩⟩
              rintro _ - ⟨⟩
              exact carriedThere

/-- A column gets a surrogate if the related entity has an identifier. -/
theorem surrogateCarrier_of_identifier {other : Entity}
    (known : scope.catalogue.find? related.key = some other)
    (identified : other.identifier.isSome = true) (column : String)
    (properties : List DataProperty) :
    ∃ carrier, scope.surrogateCarrier entity association related column properties = .ok carrier ∧
      carrier ≠ .nothing := by
  obtain ⟨identifier, identified⟩ := Option.isSome_iff_exists.mp identified
  simp only [Scope.surrogateCarrier, known, Option.bind_some, identified]
  split
  · exact ⟨_, rfl, by simp⟩
  · exact ⟨_, rfl, by simp⟩

/-- The columns of an association that is anchored have a carrier. -/
theorem keyCarrier_of_anchors (own : entity.HasColumnNames)
    (others : ∀ other, scope.catalogue.find? association.type.key = some other →
      other.HasColumnNames)
    (filled : columns ≠ []) (anchors : scope.catalogue.Anchors entity association columns)
    (properties : List DataProperty) :
    ∃ carrier, scope.keyCarrier entity association association.type columns properties =
        .ok carrier ∧ carrier ≠ .nothing := by
  obtain ⟨found, mapped, missing⟩ := mappedKeyNames_of_columns association own others columns
  simp only [Scope.keyCarrier, mapped, bind, Except.bind]
  cases found with
  | some names => exact ⟨.members names, rfl, by simp⟩
  | none =>
      obtain ⟨uncarried, elsewhere⟩ := missing rfl
      match columns with
      | [] => exact (filled rfl).elim
      | [column] =>
          cases onDeclarer : association.keyOnDeclarer with
          | true =>
              obtain ⟨other, known, identified⟩ := anchors.single rfl onDeclarer uncarried
              exact surrogateCarrier_of_identifier known identified column properties
          | false => exact ⟨_, rfl, by simp⟩
      | first :: second :: rest =>
          rcases anchors.several (by simp) with carried | ⟨onOther, other, known, carried⟩
          · rw [uncarried] at carried
            cases carried
          · -- The search has looked on the other end as well.
            rw [elsewhere other onOther known] at carried
            cases carried

end Associations

section Entities

variable {scope : Scope} (wellFormed : scope.catalogue.WellFormed) {entity : Entity}
  (known : entity ∈ scope.catalogue.entities)
include wellFormed known

/-- **Associations come to something.** In a well-formed catalogue every association does, whatever
data properties its entity has so far. -/
theorem resolution_of_wellFormed {association : Member} (among : association ∈ entity.declared)
    (links : association.isAssociation = true) (properties : List DataProperty) :
    ∃ resolution, scope.resolution entity association properties = .ok resolution := by
  have own := wellFormed.entities entity known
  have others : ∀ {key : String} (other : Entity), scope.catalogue.find? key = some other →
      other.HasColumnNames :=
    fun other found => (wellFormed.entities other (Catalogue.mem_of_find? found)).columns
  obtain ⟨name, given, -⟩ := own.memberNames association among
  obtain ⟨columns, read, filled⟩ := foreignKeyColumns_ok own.columns among given
  cases collection : association.isCollection with
  | true =>
      have leads : ∃ related, entity.relatedType association = .ok related := by
        have told := own.collections association among links collection
        rw [Entity.relatedType, Member.relatedType?, if_pos collection]
        cases element : association.type.element with
        | some given => exact ⟨given, rfl⟩
        | none =>
            obtain ⟨argument, single⟩ :=
              List.length_eq_one_iff.mp (told.resolve_left (by simp [element]))
            exact ⟨argument, by rw [single]⟩
      obtain ⟨related, leads⟩ := leads
      have searched : ∃ names,
          scope.collectionKeyNames association related columns = .ok names := by
        unfold Scope.collectionKeyNames
        split
        · exact ⟨none, rfl⟩
        · split
          next => exact ⟨none, rfl⟩
          next element found => exact namesOver_ok (others element found) columns true
      obtain ⟨names, searched⟩ := searched
      simp only [Scope.resolution, leads, read, collection, searched, bind, Except.bind]
      exact ⟨_, rfl⟩
  | false =>
      have leads : entity.relatedType association = .ok association.type := by
        rw [Entity.relatedType, Member.relatedType?, if_neg (by simp [collection])]
      obtain ⟨carrier, settled, carries⟩ := keyCarrier_of_anchors own.columns others filled
        (wellFormed.anchored entity known association among links collection columns read)
        properties
      simp only [Scope.resolution, leads, read, collection, settled, bind, Except.bind]
      cases carrier with
      | nothing => exact (carries rfl).elim
      | members names => exact ⟨_, rfl⟩
      | surrogate made property => exact ⟨_, rfl⟩

/-- Associations come to something one after the other. -/
theorem linkResolutions_of_wellFormed {members : List Member}
    (among : ∀ member ∈ members, member ∈ entity.declared ∧ member.isAssociation = true)
    (properties : List DataProperty) :
    ∃ planned, scope.linkResolutions entity members properties = .ok planned := by
  induction members generalizing properties with
  | nil => exact ⟨_, rfl⟩
  | cons member rest ih =>
      obtain ⟨declared, links⟩ := among member List.mem_cons_self
      have further := ih fun other inside => among other (List.mem_cons_of_mem _ inside)
      obtain ⟨resolution, comes⟩ :=
        resolution_of_wellFormed wellFormed known declared links properties
      obtain ⟨planned, later⟩ := further (resolution.onto false properties)
      exact ⟨_, except_bind_ok_iff.mpr ⟨resolution, comes,
        except_bind_ok_iff.mpr ⟨planned, later, rfl⟩⟩⟩

/-- The parts of a composite identifier come to something one after the other. -/
theorem partResolutions_of_wellFormed {parts : List Member}
    (among : ∀ part ∈ parts, part ∈ entity.declared) (position : Nat)
    (properties : List DataProperty) :
    ∃ planned, scope.partResolutions entity position parts properties = .ok planned := by
  induction parts generalizing position properties with
  | nil => exact ⟨_, rfl⟩
  | cons part rest ih =>
      have further := ih fun other inside => among other (List.mem_cons_of_mem _ inside)
      unfold Scope.partResolutions
      split
      next => exact further position properties
      next =>
        split
        next links =>
          have declared := among part List.mem_cons_self
          obtain ⟨resolution, comes⟩ :=
            resolution_of_wellFormed wellFormed known declared links properties
          obtain ⟨planned, later⟩ := further position (resolution.onto true properties)
          exact ⟨_, except_bind_ok_iff.mpr ⟨resolution, comes,
            except_bind_ok_iff.mpr ⟨planned, later, rfl⟩⟩⟩
        next => exact further _ _

theorem keyResolutions_of_wellFormed (properties : List DataProperty) :
    ∃ planned, scope.keyResolutions entity properties = .ok planned := by
  unfold Scope.keyResolutions
  split
  next => exact ⟨_, rfl⟩
  next identifier parts identified parted =>
    refine partResolutions_of_wellFormed wellFormed known (fun part inside => ?_) 0 properties
    exact List.mem_append_right _ (by rwa [parted])
  next => split <;> exact ⟨_, rfl⟩

/-- An entity of a well-formed catalogue has a profile. -/
theorem profile_of_wellFormed : scope.profile entity = .ok (scope.profileOf entity) := by
  obtain ⟨⟨keys, properties⟩, ofKey⟩ := keyResolutions_of_wellFormed wellFormed known
    ((scope.dataMembers entity).map (scope.memberProperty entity))
  have among : ∀ member ∈ scope.linkMembers entity,
      member ∈ entity.declared ∧ member.isAssociation = true := by
    intro member inside
    obtain ⟨listed, publishes⟩ := List.mem_filter.mp inside
    simp only [Scope.publishesLink, Bool.and_eq_true] at publishes
    exact ⟨List.mem_append_left _ listed, publishes.1.1⟩
  obtain ⟨⟨links, final⟩, ofLinks⟩ := linkResolutions_of_wellFormed wellFormed known among
    (properties ++ customProperties scope entity)
  have profiled :
      scope.profile entity = .ok { properties := final, resolutions := keys ++ links } :=
    profile_ok_iff.mpr ⟨keys, properties, links, ofKey, ofLinks, rfl⟩
  rw [profileOf_of_ok profiled, profiled]

end Entities

/-! ## Names in the index -/

/-- The published associations to one entity are declared, each once. -/
theorem references_perm_sublist (scope : Scope) (entity : Entity) :
    ∃ references : List Member, references.Perm (scope.references entity) ∧
      references.Sublist entity.declared := by
  have keys : (scope.keyLinks entity).Sublist (entity.keyParts?.getD []) := List.filter_sublist
  have links : (scope.linkMembers entity).Sublist entity.members := List.filter_sublist
  refine ⟨(scope.linkMembers entity ++ scope.keyLinks entity).filter (!·.isCollection),
    List.perm_append_comm.filter _, List.filter_sublist.trans (links.append keys)⟩

section Names

variable {scope : Scope} (wellFormed : scope.catalogue.WellFormed)
include wellFormed

theorem names_of_wellFormed {entity : Entity} (known : entity ∈ scope.catalogue.entities) :
    (scope.profileOf entity).entries.map Prod.fst =
      (scope.references entity).map fun association =>
        relationshipName entity.type association.name := by
  have profiled := profile_of_wellFormed wellFormed known
  have shown := congrArg (List.map (relationshipName entity.type)) (references_profileOf profiled)
  rw [List.map_map, List.map_map] at shown
  exact (names_profileOf profiled).trans shown

/-- Names in the index that are equal are those of one entity and of members with one name. -/
theorem eq_of_relationshipName {entity other : Entity}
    (known : entity ∈ scope.catalogue.entities) (known' : other ∈ scope.catalogue.entities)
    {association further : Member} (among : association ∈ scope.references entity)
    (among' : further ∈ scope.references other)
    (same : relationshipName entity.type association.name =
      relationshipName other.type further.name) :
    entity.key = other.key ∧ association.name = further.name := by
  have plain : ∀ {holder : Entity} {member : Member}, holder ∈ scope.catalogue.entities →
      member ∈ scope.references holder →
        ∃ name, member.name = some name ∧ '.' ∉ holder.type.name.toList ∧ '.' ∉ name.toList := by
    intro holder member inside listed
    obtain ⟨references, permuted, declared⟩ := references_perm_sublist scope holder
    obtain ⟨name, given, free⟩ := (wellFormed.entities holder inside).memberNames member
      (declared.subset (permuted.mem_iff.mpr listed))
    exact ⟨name, given, (wellFormed.entities holder inside).typeName, free⟩
  obtain ⟨name, given, free⟩ := plain known among
  obtain ⟨otherName, given', free'⟩ := plain known' among'
  rw [given, given'] at same ⊢
  obtain ⟨keys, names⟩ := relationshipName_inj free free' same
  exact ⟨keys, congrArg some names⟩

/-- **Names in the index are distinct.** No two associations of entities with different keys are
recorded under one name. -/
theorem distinctEntries_of_wellFormed {entities : List Entity}
    (known : ∀ entity ∈ entities, entity ∈ scope.catalogue.entities)
    (distinct : (entities.map (·.key)).Nodup) :
    ((entities.flatMap fun entity => (scope.profileOf entity).entries).map Prod.fst).Nodup := by
  rw [List.map_flatMap, List.flatMap_congr fun entity among =>
    names_of_wellFormed wellFormed (known entity among), List.nodup_flatMap]
  constructor
  · -- The members of one entity differ in their names.
    intro entity among
    obtain ⟨references, permuted, declared⟩ := references_perm_sublist scope entity
    have names : ((scope.references entity).map (·.name)).Nodup :=
      (permuted.map _).nodup_iff.mp ((declared.map _).nodup
        (wellFormed.entities entity (known entity among)).distinctNames)
    refine List.Nodup.map_on ?_ (.of_map _ names)
    intro association first further second same
    exact List.inj_on_of_nodup_map names first second
      (eq_of_relationshipName wellFormed (known entity among) (known entity among) first second
        same).2
  · -- Members of two entities may have one name, but the entities differ in their keys.
    refine (List.pairwise_map.mp distinct).imp_of_mem ?_
    intro entity other first second apart name listed listed'
    obtain ⟨association, among, rfl⟩ := List.mem_map.mp listed
    obtain ⟨further, among', same⟩ := List.mem_map.mp listed'
    exact apart (eq_of_relationshipName wellFormed (known entity first) (known other second) among
      among' same.symm).1

end Names

/-! ## Builds -/

section Builds

variable {catalogue : Catalogue} {options : BuildOptions}

/-- The participants of a well-formed catalogue are publishable together. -/
theorem publishable_of_wellFormed (wellFormed : catalogue.WellFormed)
    (names : options.NamesApart catalogue) :
    Publishable (options.scope catalogue) options.resourceName
      (options.participants catalogue) := by
  have surrounded : (options.scope catalogue).catalogue.WellFormed := wellFormed
  have known := participants_subset options catalogue
  have embedded : (options.participants catalogue).flatMap (options.scope catalogue).embeddedTypes ⊆
      catalogue.entities.flatMap Entity.embeddedTypes :=
    flatMap_subset known (Scope.embeddedTypes_subset _)
  have distinct : ((options.participants catalogue).map (·.key)).Nodup :=
    (List.Sublist.map _ (participants_sublist options catalogue)).nodup wellFormed.distinct
  exact {
    distinctKeys := distinct
    named := names.named
    distinctNames := names.distinct
    profiled := fun _ among => profile_of_wellFormed surrounded (known among)
    distinctEntries :=
      distinctEntries_of_wellFormed surrounded (fun _ among => known among) distinct
    plain := wellFormed.plain.of_subset fun _ among => embedded among
    apart := fun component among taken => wellFormed.apart component (embedded among)
      (List.map_subset _ known taken) }

/-- **Well-formed catalogues are built.** It does not matter which entities take part, as long as
they have resource names of their own. -/
theorem build_of_wellFormed (wellFormed : catalogue.WellFormed)
    (names : options.NamesApart catalogue) : ∃ edition, build catalogue options = .ok edition := by
  obtain ⟨draft, run⟩ :=
    publishEntities_of_publishable (publishable_of_wellFormed wellFormed names) (.empty ..)
  exact ⟨_, build_ok_iff.mpr ⟨draft, run, rfl⟩⟩

end Builds

/-- In the sample members of the entity itself carry the columns of every association to one
entity. -/
theorem Sample.wellFormed_catalogue : catalogue.WellFormed := by
  have names : ∀ entity ∈ catalogue.entities, ∀ member ∈ entity.declared,
      (member.name.any fun name => !name.toList.contains '.') = true := by decide +kernel
  have carried : ∀ entity ∈ catalogue.entities, ∀ association ∈ entity.declared,
      association.isAssociation = true → association.isCollection = false →
        ∀ columns ∈ (entity.foreignKeyColumns association).toOption,
          entity.carries columns = true := by decide +kernel
  have typeNames : ∀ entity ∈ catalogue.entities, '.' ∉ entity.type.name.toList := by
    decide +kernel
  have distinctNames : ∀ entity ∈ catalogue.entities, (entity.declared.map (·.name)).Nodup := by
    decide +kernel
  have keys : ∀ entity ∈ catalogue.entities, none ∉ entity.keyColumns := by decide +kernel
  have columns : ∀ entity ∈ catalogue.entities, ∀ member ∈ entity.declared,
      none ∉ member.columns.tail ∧ none ∉ member.referencedColumns.tail := by decide +kernel
  have collections : ∀ entity ∈ catalogue.entities, ∀ association ∈ entity.declared,
      association.isAssociation = true → association.isCollection = true →
        association.type.element.isSome = true ∨ association.type.arguments.length = 1 := by
    decide +kernel
  exact {
    distinct := coherent_catalogue.distinct
    apart := coherent_catalogue.apart
    plain := by unfold ArePlain; decide +kernel
    entities := fun entity known =>
      { typeName := typeNames entity known
        memberNames := fun member among => by
          obtain ⟨name, given, free⟩ :=
            (Option.any_eq_true _ _).mp (names entity known member among)
          exact ⟨name, given, by simpa using free⟩
        distinctNames := distinctNames entity known
        columns :=
          { key := keys entity known
            columns := fun member among => (columns entity known member among).1
            referenced := fun member among => (columns entity known member among).2 }
        collections := collections entity known }
    anchored := fun entity known association among links one given read => by
      have own := carried entity known association among links one given (by
        rw [read]
        rfl)
      exact ⟨fun _ => .inl own, fun _ _ uncarried => by rw [own] at uncarried; cases uncarried⟩ }

/-- The resource names of the sample are distinct, and the sample is built. -/
theorem build_of_wellFormed_sample :
    Sample.catalogue.WellFormed ∧ Sample.options.NamesApart Sample.catalogue ∧
      ∃ edition, build Sample.catalogue Sample.options = .ok edition := by
  have names : Sample.options.NamesApart Sample.catalogue :=
    ⟨by decide +kernel, by decide +kernel⟩
  exact ⟨Sample.wellFormed_catalogue, names, build_of_wellFormed Sample.wellFormed_catalogue names⟩

end EntityAtlas

import EntityAtlas.Proofs.DocumentShape
import EntityAtlas.Proofs.Inheritance
import EntityAtlas.Proofs.SurrogateMembers
import EntityAtlas.Proofs.Walks
import Mathlib.Data.List.Pairwise

/-!
# Names of surrogates

Clients see the data properties of a type together with those of its base types. The mapped ones
have names of their own, because an entity leaves to its ancestors what they declare
(`dataNames_disjoint`). A surrogate is named after its column, and whether it is there already is
only asked of the first data property of that name on the same entity. On one entity this is enough
as long as no mapped member has the name (`nodup_unmappedNames`); the other entities of a hierarchy
are never asked. So the names on a whole hierarchy are distinct exactly if its surrogates are apart
(`build_tellsNamesApart`).
-/

set_option autoImplicit false

namespace EntityAtlas

open Relation (TransGen ReflTransGen)

/-! ## Names that an entity may show -/

namespace Scope

/-- The names of the surrogates that the associations of an entity ask for. -/
def surrogateNames (scope : Scope) (entity : Entity) : List String :=
  (scope.keyLinks entity ++ scope.linkMembers entity).filterMap entity.surrogateName?

/-- The names of the members that become data properties of an entity. -/
def dataNames (scope : Scope) (entity : Entity) : List (Option String) :=
  (scope.keyMembers entity ++ scope.dataMembers entity).map (·.name)

/-- Along a walk no mapped member has the name of a surrogate, and no two entities have surrogates
of one name. -/
structure SurrogatesApart (scope : Scope) (walk : List Entity) : Prop where
  members : ∀ holder ∈ walk, ∀ name ∈ scope.surrogateNames holder, ∀ other ∈ walk,
    some name ∉ scope.dataNames other
  surrogates : walk.Pairwise fun lower upper =>
    List.Disjoint (scope.surrogateNames lower) (scope.surrogateNames upper)

end Scope

/-- The declared names of an entity are distinct, and a single identifier has a name. -/
structure Entity.NamesApart (entity : Entity) : Prop where
  distinct : entity.declaredNames.Nodup
  identified : entity.identifier.isSome = true → entity.keyParts? = none →
    entity.identifierName?.isSome = true

section Declared

variable {scope : Scope} {entity : Entity}

/-- The members of the key are among those with names of the identifier. -/
theorem keyMembers_names_sublist (apart : entity.NamesApart) :
    ((scope.keyMembers entity).map (·.name)).Sublist entity.identifierNames := by
  unfold Scope.keyMembers Entity.identifierNames
  cases identified : entity.identifier with
  | none => exact List.nil_sublist _
  | some identifier =>
      cases parted : entity.keyParts? with
      | some parts =>
          exact (List.filter_sublist.map _).trans (List.sublist_append_right _ _)
      | none =>
          obtain ⟨text, named⟩ :=
            Option.isSome_iff_exists.mp (apart.identified (by rw [identified]; rfl) parted)
          have same : identifier.name = some text := by
            rw [Entity.identifierName?, identified] at named
            exact (Option.filter_eq_some_iff.mp named).1
          simp only [named, Option.map_some, Option.toList_some]
          split
          next => exact List.nil_sublist _
          next => simp [same]

theorem dataMembers_names_sublist :
    ((scope.dataMembers entity).map (·.name)).Sublist entity.memberNames :=
  List.filter_sublist.map _

/-- The mapped names of one entity are distinct. -/
theorem nodup_dataNames (apart : entity.NamesApart) : (scope.dataNames entity).Nodup := by
  have sorted :
      (scope.dataNames entity).Sublist (entity.identifierNames ++ entity.memberNames) := by
    rw [Scope.dataNames, List.map_append]
    exact (keyMembers_names_sublist apart).append dataMembers_names_sublist
  exact sorted.nodup (List.nodup_append_comm.mp apart.distinct)

theorem dataNames_subset (apart : entity.NamesApart) :
    scope.dataNames entity ⊆ entity.declaredNames := by
  rw [Scope.dataNames, List.map_append]
  refine List.append_subset.mpr ⟨?_, ?_⟩
  · exact List.Subset.trans (keyMembers_names_sublist apart).subset (List.subset_append_right _ _)
  · exact List.Subset.trans dataMembers_names_sublist.subset (List.subset_append_left _ _)

/-- What an ancestor declares is left to it. -/
theorem not_inherited_of_mem_dataNames {name : Option String}
    (among : name ∈ scope.dataNames entity) : name ∉ scope.inheritedNames entity := by
  obtain ⟨member, inside, rfl⟩ := List.mem_map.mp among
  rcases List.mem_append.mp inside with ofKey | own
  · unfold Scope.keyMembers at ofKey
    split at ofKey
    next => cases ofKey
    next =>
      have kept := (List.mem_filter.mp ofKey).2
      simp only [Scope.publishesPart, Bool.and_eq_true, Bool.not_eq_true'] at kept
      simpa using kept.1
    next =>
      split at ofKey
      next => cases ofKey
      next fresh =>
        obtain rfl := List.mem_singleton.mp ofKey
        simpa using fresh
  · have kept := (List.mem_filter.mp own).2
    simp only [Scope.publishesData, Bool.not_eq_true', Bool.or_eq_false_iff] at kept
    simpa using kept.1.1

/-- An entity and its ancestors have no mapped names in common. -/
theorem dataNames_disjoint {ancestor : Entity} (apart : ancestor.NamesApart)
    (above : ancestor ∈ scope.ancestors true entity) :
    List.Disjoint (scope.dataNames entity) (scope.dataNames ancestor) := by
  intro name lower upper
  refine not_inherited_of_mem_dataNames lower (List.mem_flatMap.mpr ⟨ancestor, above, ?_⟩)
  exact dataNames_subset apart upper

end Declared

/-! ## Names of data properties without a mapping -/

/-- The names of the data properties that have no mapping. -/
def unmappedNames (properties : List DataProperty) : List (Option String) :=
  (unmapped properties).map (·.nameOnServer)

theorem unmappedNames_eq (properties : List DataProperty) :
    unmappedNames properties = (properties.filter (·.isUnmapped)).map (·.nameOnServer) := by
  rw [unmappedNames, unmapped, List.map_map]
  rfl

/-- The names of data properties are those with a mapping and those without. -/
theorem names_perm (properties : List DataProperty) :
    (properties.map (·.nameOnServer)).Perm
      (mappedNames properties ++ unmappedNames properties) := by
  have sorted := ((List.filter_append_perm (fun property => !property.isUnmapped) properties).map
    (·.nameOnServer)).symm
  rw [List.map_append] at sorted
  simpa [mappedNames, unmappedNames_eq] using sorted

theorem Reuses.mem_unmappedNames {properties : List DataProperty} {name : String}
    (reuses : Reuses properties name) : some name ∈ unmappedNames properties := by
  obtain ⟨property, found, without⟩ := reuses
  rw [unmappedNames_eq]
  have named : property.nameOnServer = some name := by simpa using List.find?_some found
  exact List.mem_map.mpr
    ⟨property, List.mem_filter.mpr ⟨List.mem_of_find?_eq_some found, without⟩, named⟩

/-- A name without a mapping that no mapped data property has is used again. -/
theorem reuses_of_mem {properties : List DataProperty} {name : String}
    (among : some name ∈ unmappedNames properties) (others : some name ∉ mappedNames properties) :
    Reuses properties name := by
  rw [unmappedNames_eq] at among
  obtain ⟨property, inside, named⟩ := List.mem_map.mp among
  have there : (findProperty? properties (some name)).isSome = true := by
    refine List.find?_isSome.mpr ⟨property, (List.mem_filter.mp inside).1, ?_⟩
    simpa using named
  obtain ⟨first, found⟩ := Option.isSome_iff_exists.mp there
  refine ⟨first, found, ?_⟩
  have firstNamed : first.nameOnServer = some name := by simpa using List.find?_some found
  by_contra mapped
  refine others (List.mem_map.mpr ⟨first, List.mem_filter.mpr ⟨?_, ?_⟩, firstNamed⟩)
  · exact List.mem_of_find?_eq_some found
  · simpa using mapped

section Filling

variable {scope : Scope} {entity : Entity} {properties final : List DataProperty}
  {associations : List Member} {resolutions : List Resolution}

/-- What is mapped stays there. -/
theorem mappedNames_subset_of_fills
    (fills : scope.Fills entity properties associations resolutions final) :
    mappedNames properties ⊆ mappedNames final := by
  induction fills with
  | done => exact List.Subset.refl _
  | @insert properties _ _ _ property position mapped _ ih =>
      have kept : properties ⊆ properties.insertIdx position property := by
        by_cases inside : position ≤ properties.length
        · intro other among
          exact (List.mem_insertIdx inside).mpr (.inr among)
        · rw [List.insertIdx_of_length_lt (by omega)]
          exact List.Subset.refl _
      refine List.Subset.trans (fun name among => ?_) ih
      obtain ⟨other, inside, same⟩ := List.mem_map.mp among
      obtain ⟨held, without⟩ := List.mem_filter.mp inside
      exact List.mem_map.mpr ⟨other, List.mem_filter.mpr ⟨kept held, without⟩, same⟩
  | resolve partOfKey comes _ ih =>
      rw [Resolution.mappedNames_onto (isUnmapped_of_resolution comes)] at ih
      exact ih

theorem unmappedNames_onto_of_makes {resolution : Resolution} {made : Surrogate}
    {property : DataProperty} {association : Member} (partOfKey : Bool)
    (carried : resolution.carrier = .surrogate made property)
    (makes : entity.Makes association properties made property) :
    unmappedNames (resolution.onto partOfKey properties) =
      unmappedNames properties ++ [some made.name] := by
  rw [unmappedNames, unmapped_onto, carried, List.map_append]
  simp [unmappedNames, unmapped, KeyCarrier.properties, makes.unmapped, DataProperty.unmarked,
    makes.shows.named]

theorem unmappedNames_onto_of_without {resolution : Resolution} (partOfKey : Bool)
    (without : resolution.carrier.properties = []) :
    unmappedNames (resolution.onto partOfKey properties) = unmappedNames properties := by
  rw [unmappedNames, unmapped_onto, without]
  simp [unmappedNames, unmapped]

/-- **Which names have no mapping.** Those that were there, and those that associations ask for. -/
theorem mem_unmappedNames_iff
    (fills : scope.Fills entity properties associations resolutions final)
    {name : Option String} :
    name ∈ unmappedNames final ↔ name ∈ unmappedNames properties ∨
      ∃ surrogate ∈ associations.filterMap entity.surrogateName?, name = some surrogate := by
  induction fills with
  | done => simp
  | insert position mapped _ ih =>
      rw [ih, unmappedNames, unmapped_insertIdx mapped]
      rfl
  | @resolve properties final association associations resolution resolutions partOfKey comes
      _ ih =>
      rw [ih]
      rcases resolution_makes comes with ⟨without, -, reused⟩ | ⟨made, property, carried, makes⟩
      · rw [unmappedNames_onto_of_without partOfKey without]
        cases asked : entity.surrogateName? association with
        | none => rw [List.filterMap_cons_none asked]
        | some surrogate =>
            have there := (reused surrogate asked).mem_unmappedNames
            rw [List.filterMap_cons_some asked]
            simp only [List.mem_cons, exists_eq_or_imp]
            constructor
            · exact Or.imp_right .inr
            · rintro (here | rfl | later)
              · exact .inl here
              · exact .inl there
              · exact .inr later
      · rw [unmappedNames_onto_of_makes partOfKey carried makes,
          List.filterMap_cons_some makes.asked]
        simp [or_assoc]

/-- **Names without a mapping are distinct** if no mapped data property has the name of a
surrogate. -/
theorem nodup_unmappedNames
    (fills : scope.Fills entity properties associations resolutions final)
    (apart : ∀ surrogate ∈ associations.filterMap entity.surrogateName?,
      some surrogate ∉ mappedNames final)
    (distinct : (unmappedNames properties).Nodup) : (unmappedNames final).Nodup := by
  induction fills with
  | done => exact distinct
  | insert position mapped _ ih =>
      refine ih apart ?_
      rw [unmappedNames, unmapped_insertIdx mapped]
      exact distinct
  | @resolve properties final association associations resolution resolutions partOfKey comes
      further ih =>
      have later : ∀ surrogate ∈ associations.filterMap entity.surrogateName?,
          some surrogate ∉ mappedNames final := fun surrogate among =>
        apart surrogate (List.mem_filterMap.mpr (by
          obtain ⟨other, inside, asked⟩ := List.mem_filterMap.mp among
          exact ⟨other, List.mem_cons_of_mem _ inside, asked⟩))
      refine ih later ?_
      rcases resolution_makes comes with ⟨without, -, -⟩ | ⟨made, property, carried, makes⟩
      · rw [unmappedNames_onto_of_without partOfKey without]
        exact distinct
      · -- The name is new: what has it already would have been used again.
        have unmet : some made.name ∉ mappedNames properties := by
          have kept := mappedNames_subset_of_fills further
          rw [Resolution.mappedNames_onto (isUnmapped_of_resolution comes)] at kept
          refine fun met => apart made.name ?_ (kept met)
          exact List.mem_filterMap.mpr ⟨association, List.mem_cons_self, makes.asked⟩
        have fresh : some made.name ∉ unmappedNames properties := fun there =>
          makes.fresh (reuses_of_mem there unmet)
        rw [unmappedNames_onto_of_makes partOfKey carried makes, List.nodup_append]
        refine ⟨distinct, List.nodup_singleton _, ?_⟩
        rintro _ there _ last rfl
        exact fresh (List.mem_singleton.mp last ▸ there)

end Filling

/-! ## Names on one entity -/

section Entities

variable {scope : Scope} {entity : Entity}

/-- The names without a mapping on one entity are those of its surrogates, and they are distinct if
no mapped member has one of them. -/
theorem unmappedNames_of_profile {profile : Profile} (profiled : scope.profile entity = .ok profile)
    (unconfigured : (scope.overrides.ofType entity.type).members = []) :
    (∀ name, name ∈ unmappedNames profile.properties ↔
        ∃ surrogate ∈ scope.surrogateNames entity, name = some surrogate) ∧
      ((∀ surrogate ∈ scope.surrogateNames entity, some surrogate ∉ scope.dataNames entity) →
        (unmappedNames profile.properties).Nodup) := by
  obtain ⟨keys, properties, links, ofKey, ofLinks, -⟩ := profile_fills profiled
  rw [customProperties_of_members_nil unconfigured, List.append_nil] at ofLinks
  have fills := ofKey.trans ofLinks
  have nothing : unmappedNames ((scope.dataMembers entity).map (scope.memberProperty entity)) =
      [] := by
    rw [unmappedNames, unmapped_dataMembers, List.map_nil]
  constructor
  · intro name
    rw [mem_unmappedNames_iff fills, nothing]
    simp [Scope.surrogateNames]
  · intro apart
    refine nodup_unmappedNames fills (fun surrogate among met => ?_) (nothing ▸ List.nodup_nil)
    exact apart surrogate among ((profile_resolves profiled).1.mem_iff.mp met)

/-- The names on one entity are its mapped names and those without a mapping. -/
theorem names_of_profile {profile : Profile} (profiled : scope.profile entity = .ok profile) :
    (profile.properties.map (·.nameOnServer)).Perm
      (scope.dataNames entity ++ unmappedNames profile.properties) :=
  (names_perm _).trans ((profile_resolves profiled).1.append_right _)

/-- An entity shows its mapped names and those of its surrogates. -/
theorem mem_names_iff {profile : Profile} (profiled : scope.profile entity = .ok profile)
    (unconfigured : (scope.overrides.ofType entity.type).members = []) {name : Option String} :
    name ∈ profile.properties.map (·.nameOnServer) ↔ name ∈ scope.dataNames entity ∨
      ∃ surrogate ∈ scope.surrogateNames entity, name = some surrogate := by
  rw [(names_of_profile profiled).mem_iff, List.mem_append,
    (unmappedNames_of_profile profiled unconfigured).1]

/-- **Names on one entity.** They are distinct exactly if no mapped member has the name of a
surrogate. -/
theorem nodup_names_iff {profile : Profile} (profiled : scope.profile entity = .ok profile)
    (unconfigured : (scope.overrides.ofType entity.type).members = [])
    (named : entity.NamesApart) :
    (profile.properties.map (·.nameOnServer)).Nodup ↔
      ∀ surrogate ∈ scope.surrogateNames entity, some surrogate ∉ scope.dataNames entity := by
  obtain ⟨asked, fresh⟩ := unmappedNames_of_profile profiled unconfigured
  rw [(names_of_profile profiled).nodup_iff, List.nodup_append]
  constructor
  · rintro ⟨-, -, apart⟩ surrogate among met
    exact apart _ met _ ((asked _).mpr ⟨surrogate, among, rfl⟩) rfl
  · intro apart
    refine ⟨nodup_dataNames named, fresh apart, ?_⟩
    rintro name mapped _ without rfl
    obtain ⟨surrogate, among, rfl⟩ := (asked name).mp without
    exact apart surrogate among mapped

end Entities

/-! ## Names on a hierarchy -/

/-- Where later entities are ancestors of earlier ones, names are distinct exactly if the surrogates
are apart. -/
theorem nodup_flatMap_iff {scope : Scope} {walk : List Entity}
    {shows : Entity → List (Option String)}
    (later : walk.Pairwise fun lower upper => upper ∈ scope.ancestors true lower)
    (named : ∀ holder ∈ walk, holder.NamesApart)
    (shown : ∀ holder ∈ walk, ∀ name, name ∈ shows holder ↔ name ∈ scope.dataNames holder ∨
      ∃ surrogate ∈ scope.surrogateNames holder, name = some surrogate)
    (once : ∀ holder ∈ walk, (shows holder).Nodup ↔
      ∀ surrogate ∈ scope.surrogateNames holder, some surrogate ∉ scope.dataNames holder) :
    (walk.flatMap shows).Nodup ↔ scope.SurrogatesApart walk := by
  have asks : ∀ holder ∈ walk, ∀ surrogate ∈ scope.surrogateNames holder,
      some surrogate ∈ shows holder := fun holder among surrogate asked =>
    (shown holder among _).mpr (.inr ⟨surrogate, asked, rfl⟩)
  rw [List.nodup_flatMap]
  constructor
  · rintro ⟨each, pairs⟩
    have symmetric : Std.Symm (Function.onFun List.Disjoint shows) :=
      ⟨fun _ _ disjoint _ first second => disjoint second first⟩
    refine ⟨fun holder among surrogate asked other inside met => ?_, ?_⟩
    · by_cases same : holder = other
      · exact (once holder among).mp (each holder among) surrogate asked (same ▸ met)
      · exact pairs.forall among inside same (asks holder among surrogate asked)
          ((shown other inside _).mpr (.inl met))
    · refine pairs.imp_of_mem fun {lower upper} below above disjoint surrogate asked again => ?_
      exact disjoint (asks lower below surrogate asked) (asks upper above surrogate again)
  · intro apart
    refine ⟨fun holder among => (once holder among).mpr fun surrogate asked =>
      apart.members holder among surrogate asked holder among, ?_⟩
    refine (later.and apart.surrogates).imp_of_mem ?_
    rintro lower upper below above ⟨ancestor, surrogates⟩ name first second
    -- A name in common is that of a member or of a surrogate, on either entity.
    rcases (shown lower below name).mp first with mapped | ⟨surrogate, asked, rfl⟩
    · rcases (shown upper above name).mp second with again | ⟨surrogate, asked, rfl⟩
      · exact dataNames_disjoint (named upper above) ancestor mapped again
      · exact apart.members upper above surrogate asked lower below mapped
    · rcases (shown upper above _).mp second with mapped | ⟨other, again, same⟩
      · exact apart.members lower below surrogate asked upper above mapped
      · exact surrogates asked (Option.some.inj same ▸ again)

/-- The names of the data properties of the type with a key. -/
def Document.dataNames (document : Document) (key : String) : List (Option String) :=
  ((document.type? key).map fun type => type.dataProperties.map (·.nameOnServer)).getD []

/-- The type with a key names another key as that of its base. -/
def Document.Based (document : Document) (key base : String) : Prop :=
  ∃ type, document.type? key = some type ∧ type.baseTypeName? = some base

section Walks

variable {catalogue : Catalogue} {options : BuildOptions} {entity holder : Entity} {draft : Draft}

/-- The entities on the walk from a participant take part. -/
theorem mem_participants_of_mem_walk (distinct : catalogue.Distinct)
    (included : entity ∈ options.participants catalogue)
    (among : holder ∈ entity :: (options.scope catalogue).ancestors true entity) :
    holder ∈ options.participants catalogue := by
  rcases List.mem_cons.mp among with rfl | above
  · exact included
  · obtain ⟨middle, -, leads, admitted⟩ :=
      TransGen.tail'_iff.mp (Catalogue.leads_of_mem_lineageFrom above)
    exact (mem_participants_iff distinct (Catalogue.mem_of_parent? leads)).mpr admitted

/-- In the document the base of a participant is its parent, if that takes part. -/
theorem based_iff (distinct : catalogue.Distinct)
    (published : Published (options.scope catalogue) options.resourceName
      (options.participants catalogue) draft)
    (included : entity ∈ options.participants catalogue) {base comparisonOptions : String} :
    (draft.document comparisonOptions).Based entity.key base ↔
      ∃ parent, catalogue.Leads (fun key => !true || (options.scope catalogue).includes key)
        entity parent ∧ parent.key = base := by
  rw [Document.Based, published.type?_of_mem included]
  simp only [Option.some.injEq, exists_eq_left', baseTypeName?_node_eq_some_iff]
  constructor
  · rintro ⟨based, known⟩
    obtain ⟨superclass, above, rfl⟩ := Option.map_eq_some_iff.mp based
    obtain ⟨parent, takesPart, same⟩ := List.mem_map.mp known
    have found := distinct.find?_iff.mpr ⟨participants_subset options catalogue takesPart, same⟩
    refine ⟨parent, ⟨?_, ?_⟩, same⟩
    · rw [Catalogue.parent?, above, Option.bind_some, found]
    · exact (mem_participants_iff distinct
        (participants_subset options catalogue takesPart)).mp takesPart
  · rintro ⟨parent, ⟨leads, admitted⟩, rfl⟩
    obtain ⟨superclass, above, found⟩ := Option.bind_eq_some_iff.mp leads
    refine ⟨?_, ?_⟩
    · rw [above, Option.map_some, Catalogue.key_of_find? found]
    · exact List.mem_map_of_mem
        ((mem_participants_iff distinct (Catalogue.mem_of_parent? leads)).mpr admitted)

/-- **Base types.** In the document the links to base types lead from a participant to the types of
its ancestors that take part. -/
theorem reaches_iff (distinct : catalogue.Distinct)
    (published : Published (options.scope catalogue) options.resourceName
      (options.participants catalogue) draft)
    (included : entity ∈ options.participants catalogue) {key comparisonOptions : String} :
    ReflTransGen (draft.document comparisonOptions).Based entity.key key ↔
      key ∈ (entity :: (options.scope catalogue).ancestors true entity).map (·.key) := by
  have found := distinct.find?_self (participants_subset options catalogue included)
  constructor
  · intro climbs
    induction climbs with
    | refl => exact List.mem_map_of_mem List.mem_cons_self
    | tail _ step ih =>
        obtain ⟨holder, among, rfl⟩ := List.mem_map.mp ih
        have takesPart := mem_participants_of_mem_walk distinct included among
        obtain ⟨parent, leads, rfl⟩ := (based_iff distinct published takesPart).mp step
        refine List.mem_map_of_mem ((Catalogue.mem_lineage_iff found).mpr ?_)
        exact ((Catalogue.mem_lineage_iff found).mp among).tail leads
  · intro among
    obtain ⟨holder, inside, rfl⟩ := List.mem_map.mp among
    have climbs := (Catalogue.mem_lineage_iff found).mp inside
    clear among inside
    induction climbs with
    | refl => exact .refl
    | tail climbs step ih =>
        have takesPart := mem_participants_of_mem_walk distinct included
          ((Catalogue.mem_lineage_iff found).mpr climbs)
        exact ih.tail ((based_iff distinct published takesPart).mpr ⟨_, step, rfl⟩)

/-- What the types on the walk from a participant show, entity by entity. -/
theorem dataNames_of_published
    (published : Published (options.scope catalogue) options.resourceName
      (options.participants catalogue) draft)
    (included : entity ∈ options.participants catalogue) (comparisonOptions : String) :
    (draft.document comparisonOptions).dataNames entity.key =
      ((options.scope catalogue).profileOf entity).properties.map (·.nameOnServer) := by
  rw [Document.dataNames, published.type?_of_mem included]
  rfl

/-- **Names on a hierarchy.** In a build that succeeds over distinct keys and names and without
configured members, the links to base types lead from a participant to its ancestors that take part.
The names of the data properties of all these types are distinct exactly if the surrogates are
apart. -/
theorem build_tellsNamesApart {edition : Edition} (distinct : catalogue.Distinct)
    (named : ∀ entity ∈ options.participants catalogue, entity.NamesApart)
    (unconfigured : ∀ entity ∈ options.participants catalogue,
      (options.overrides.ofType entity.type).members = [])
    (built : build catalogue options = .ok edition)
    (included : entity ∈ options.participants catalogue) :
    (∀ key, ReflTransGen edition.document.Based entity.key key ↔
        key ∈ (entity :: (options.scope catalogue).ancestors true entity).map (·.key)) ∧
      (((entity :: (options.scope catalogue).ancestors true entity).flatMap fun shown =>
          edition.document.dataNames shown.key).Nodup ↔
        (options.scope catalogue).SurrogatesApart
          (entity :: (options.scope catalogue).ancestors true entity)) := by
  obtain ⟨draft, published, document, -⟩ := build_published built
  rw [document]
  refine ⟨fun key => reaches_iff distinct published included, ?_⟩
  have takesPart : ∀ holder ∈ entity :: (options.scope catalogue).ancestors true entity,
      holder ∈ options.participants catalogue := fun holder among =>
    mem_participants_of_mem_walk distinct included among
  refine nodup_flatMap_iff (Catalogue.pairwise_lineage List.mem_cons_self)
    (fun holder among => named holder (takesPart holder among)) ?_ ?_
  · intro holder among name
    have inside := takesPart holder among
    rw [dataNames_of_published published inside]
    exact mem_names_iff (published.profiled holder inside) (unconfigured holder inside)
  · intro holder among
    have inside := takesPart holder among
    rw [dataNames_of_published published inside]
    exact nodup_names_iff (published.profiled holder inside) (unconfigured holder inside)
      (named holder inside)

end Walks

/-! ## Orders and rush orders -/

namespace Shop

theorem distinct_catalogue : catalogue.Distinct := by
  show (catalogue.entities.map (·.key)).Nodup
  decide

/-- Names apart on each entity of a catalogue, from conditions that can be decided. -/
theorem namesApart_of_entities {given : Catalogue}
    (apart : ∀ entity ∈ given.entities, entity.declaredNames.Nodup ∧
      (entity.identifier.isSome = true → entity.keyParts?.isNone = true →
        entity.identifierName?.isSome = true)) :
    ∀ entity ∈ given.entities, entity.NamesApart := by
  intro entity among
  obtain ⟨distinct, identified⟩ := apart entity among
  exact ⟨distinct, fun has single => identified has (by rw [single]; rfl)⟩

theorem namesApart_catalogue : ∀ entity ∈ catalogue.entities, entity.NamesApart :=
  namesApart_of_entities (by decide)

/-- Orders with a recipient, who is found over a column of their own. -/
def giftOrder : Entity :=
  { entity "GiftOrder" "Id"
      [toOne "Customer" "Customer" "customer_id", toOne "Recipient" "Customer" "recipient_id"] with
    superclass := some order.type }

def gifts : Catalogue := { entities := [customer, order, giftOrder] }

theorem distinct_gifts : gifts.Distinct := by
  show (gifts.entities.map (·.key)).Nodup
  decide

theorem namesApart_gifts : ∀ entity ∈ gifts.entities, entity.NamesApart :=
  namesApart_of_entities (by decide)

/-- Gift orders extend orders and nothing above them. -/
theorem ancestors_giftOrder :
    (Sample.options.scope gifts).ancestors true giftOrder = [order] := by
  rw [Scope.ancestors, Catalogue.lineage, Catalogue.lineageFrom_eq]
  refine congrArg (order :: ·) ?_
  rw [Catalogue.lineageFrom_eq]
  rfl

end Shop

/-- Gift orders and the orders that they extend each show a surrogate, and no name is shown twice. -/
theorem build_tellsNamesApart_giftOrder : ∃ edition,
    build Shop.gifts Sample.options = .ok edition ∧
    (∀ key, ReflTransGen edition.document.Based Shop.giftOrder.key key ↔
      key ∈ [Shop.giftOrder.key, Shop.order.key]) ∧
    edition.document.dataNames Shop.giftOrder.key = [some "RecipientId"] ∧
    edition.document.dataNames Shop.order.key = [some "Id", some "CustomerId"] ∧
    (Sample.options.scope Shop.gifts).SurrogatesApart [Shop.giftOrder, Shop.order] := by
  obtain ⟨edition, built, shown⟩ := exists_edition_of_view
    (fun edition => (edition.document.dataNames Shop.giftOrder.key,
      edition.document.dataNames Shop.order.key))
    (by decide +kernel : (build Shop.gifts Sample.options).toOption.map _ =
      some ([some "RecipientId"], [some "Id", some "CustomerId"]))
  obtain ⟨ofGiftOrder, ofOrder⟩ := Prod.mk.inj shown
  have included : Shop.giftOrder ∈ Sample.options.participants Shop.gifts := by
    simp [BuildOptions.participants, Sample.options, Shop.gifts]
  have named : ∀ entity ∈ Sample.options.participants Shop.gifts, entity.NamesApart :=
    Shop.namesApart_gifts
  have walks :=
    build_tellsNamesApart Shop.distinct_gifts named (fun _ _ => rfl) built included
  rw [Shop.ancestors_giftOrder] at walks
  obtain ⟨reaches, apart⟩ := walks
  refine ⟨edition, built, reaches, ofGiftOrder, ofOrder, apart.mp ?_⟩
  simp [ofGiftOrder, ofOrder]

/-- Rush orders and orders each show a surrogate for the same column. -/
theorem surrogate_repeated_rushOrder : Shop.catalogue.Distinct ∧
    (∀ entity ∈ Shop.catalogue.entities, entity.NamesApart) ∧
    Shop.order.members ⊆ Shop.rushOrder.members ∧
    Shop.order.identifier = Shop.rushOrder.identifier ∧
    ∃ edition, build Shop.catalogue Sample.options = .ok edition ∧
      edition.document.Based Shop.rushOrder.key Shop.order.key ∧
      edition.document.dataNames Shop.rushOrder.key = [some "CustomerId"] ∧
      edition.document.dataNames Shop.order.key = [some "Id", some "CustomerId"] := by
  obtain ⟨edition, built, shown⟩ := exists_edition_of_view
    (fun edition => decide (edition.document.dataNames Shop.rushOrder.key = [some "CustomerId"]) &&
      decide (edition.document.dataNames Shop.order.key = [some "Id", some "CustomerId"]))
    (by decide +kernel : (build Shop.catalogue Sample.options).toOption.map _ = some true)
  obtain ⟨ofRushOrder, ofOrder⟩ := Bool.and_eq_true_iff.mp shown
  obtain ⟨draft, published, document, -⟩ := build_published built
  have based : edition.document.Based Shop.rushOrder.key Shop.order.key :=
    document ▸ (based_iff Shop.distinct_catalogue published
      (by simp [BuildOptions.participants, Sample.options, Shop.catalogue])).mpr
        ⟨Shop.order, ⟨by rfl, by decide⟩, rfl⟩
  exact ⟨Shop.distinct_catalogue, Shop.namesApart_catalogue,
    by simp [Shop.order, Shop.rushOrder, Shop.entity], rfl, edition, built, based,
    of_decide_eq_true ofRushOrder, of_decide_eq_true ofOrder⟩

end EntityAtlas

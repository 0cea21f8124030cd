import EntityAtlas.Proofs.Coherence
import EntityAtlas.Proofs.ColumnReadings
import EntityAtlas.Proofs.Members
import EntityAtlas.SurrogateTable

/-!
# Surrogates among the members

What a build knows of a surrogate it writes down twice: clients see a data property without a
mapping, and the source keeps the association behind it. Both come from one step. An association to
one entity over a single column that no member carries asks for a surrogate, and gets a new one
unless the data properties so far have one of its name (`resolution_makes`). The steps of an entity
fill in its data properties (`Scope.Fills`), and along them the two records stay side by side
(`shows_of_fills`), so in the end they tell the same (`build_showsSurrogates`).
-/

set_option autoImplicit false

namespace EntityAtlas

open ColumnName (pascal)

/-! ## Filling in data properties -/

/-- The data properties of an entity are filled in step by step: one with a mapping is put at some
position, or an association is resolved over those that are there. -/
inductive Scope.Fills (scope : Scope) (entity : Entity) :
    List DataProperty → List Member → List Resolution → List DataProperty → Prop where
  | done (properties : List DataProperty) : Fills scope entity properties [] [] properties
  | insert {properties final : List DataProperty} {associations : List Member}
      {resolutions : List Resolution} {property : DataProperty} (position : Nat)
      (mapped : property.isUnmapped = false)
      (further : Fills scope entity (properties.insertIdx position property) associations
        resolutions final) :
      Fills scope entity properties associations resolutions final
  | resolve {properties final : List DataProperty} {association : Member}
      {associations : List Member} {resolution : Resolution} {resolutions : List Resolution}
      (partOfKey : Bool)
      (comes : scope.resolution entity association properties = .ok resolution)
      (further : Fills scope entity (resolution.onto partOfKey properties) associations
        resolutions final) :
      Fills scope entity properties (association :: associations) (resolution :: resolutions) final

section Filling

variable {scope : Scope} {entity : Entity}

/-- Filling in goes on where it stopped. -/
theorem Scope.Fills.trans {properties middle final : List DataProperty}
    {associations others : List Member} {resolutions more : List Resolution}
    (first : scope.Fills entity properties associations resolutions middle)
    (second : scope.Fills entity middle others more final) :
    scope.Fills entity properties (associations ++ others) (resolutions ++ more) final := by
  induction first with
  | done => exact second
  | insert position mapped _ ih => exact .insert position mapped (ih second)
  | resolve partOfKey comes _ ih => exact .resolve partOfKey comes (ih second)

theorem linkResolutions_fills {members : List Member} {properties final : List DataProperty}
    {resolutions : List Resolution}
    (planned : scope.linkResolutions entity members properties = .ok (resolutions, final)) :
    scope.Fills entity properties members resolutions final := by
  induction members generalizing properties resolutions with
  | nil =>
      cases planned
      exact .done _
  | cons member rest ih =>
      simp only [Scope.linkResolutions, except_bind_ok_iff, except_pure_ok_iff, Prod.exists,
        Prod.mk.injEq] at planned
      obtain ⟨resolution, comes, resolutions, _, later, rfl, rfl⟩ := planned
      exact .resolve false comes (ih later)

theorem partResolutions_fills {position : Nat} {parts : List Member}
    {properties final : List DataProperty} {resolutions : List Resolution}
    (planned : scope.partResolutions entity position parts properties = .ok (resolutions, final)) :
    scope.Fills entity properties
      (parts.filter fun part =>
        !(scope.inheritedNames entity).contains part.name && part.isAssociation)
      resolutions final := by
  induction parts generalizing position properties resolutions with
  | nil =>
      cases planned
      exact .done _
  | cons part rest ih =>
      unfold Scope.partResolutions at planned
      cases inherited : (scope.inheritedNames entity).contains part.name with
      | true =>
          rw [inherited, if_pos rfl] at planned
          rw [List.filter_cons_of_neg (by simp only [inherited]; simp)]
          exact ih planned
      | false =>
          rw [inherited, if_neg (by simp)] at planned
          cases association : part.isAssociation with
          | true =>
              rw [association, if_pos rfl] at planned
              simp only [except_bind_ok_iff, except_pure_ok_iff, Prod.exists,
                Prod.mk.injEq] at planned
              obtain ⟨resolution, comes, resolutions, _, later, rfl, rfl⟩ := planned
              rw [List.filter_cons_of_pos (by simp only [inherited, association]; rfl)]
              exact .resolve true comes (ih later)
          | false =>
              rw [association, if_neg (by simp)] at planned
              rw [List.filter_cons_of_neg (by simp [association])]
              exact .insert position rfl (ih planned)

theorem keyResolutions_fills {properties final : List DataProperty}
    {resolutions : List Resolution}
    (planned : scope.keyResolutions entity properties = .ok (resolutions, final)) :
    scope.Fills entity properties (scope.keyLinks entity) resolutions final := by
  unfold Scope.keyResolutions at planned
  unfold Scope.keyLinks
  cases identified : entity.identifier with
  | none =>
      have unparted : entity.keyParts? = none := by simp [Entity.keyParts?, identified]
      simp only [identified, unparted] at planned ⊢
      cases planned
      exact .done _
  | some identifier =>
      cases parted : entity.keyParts? with
      | some parts =>
          simp only [identified, parted] at planned ⊢
          exact partResolutions_fills planned
      | none =>
          simp only [identified, parted] at planned ⊢
          split at planned
          next =>
            cases planned
            exact .done _
          next =>
            cases planned
            exact .insert 0 rfl (.done _)

/-- **How a profile is made.** Its data properties are filled in from those of the members, with
the custom members between the key and the other associations. -/
theorem profile_fills {profile : Profile} (profiled : scope.profile entity = .ok profile) :
    ∃ keys properties links,
      scope.Fills entity ((scope.dataMembers entity).map (scope.memberProperty entity))
        (scope.keyLinks entity) keys properties ∧
      scope.Fills entity (properties ++ customProperties scope entity) (scope.linkMembers entity)
        links profile.properties ∧
      profile.resolutions = keys ++ links := by
  obtain ⟨keys, properties, links, ofKey, ofLinks, resolutions⟩ := profile_ok_iff.mp profiled
  exact ⟨keys, properties, links, keyResolutions_fills ofKey, linkResolutions_fills ofLinks,
    resolutions⟩

end Filling

/-! ## Data properties without a mapping -/

/-- A data property, apart from whether it is part of the key. -/
def DataProperty.unmarked (property : DataProperty) : DataProperty :=
  { property with isPartOfKey := false }

/-- The data properties that have no mapping, apart from whether they are part of the key. -/
def unmapped (properties : List DataProperty) : List DataProperty :=
  (properties.filter (·.isUnmapped)).map DataProperty.unmarked

theorem unmapped_append (properties others : List DataProperty) :
    unmapped (properties ++ others) = unmapped properties ++ unmapped others := by
  simp [unmapped]

theorem unmapped_of_mapped {properties : List DataProperty}
    (mapped : ∀ property ∈ properties, property.isUnmapped = false) :
    unmapped properties = [] := by
  rw [unmapped, List.filter_eq_nil_iff.mpr, List.map_nil]
  exact fun property among => by simp [mapped property among]

theorem unmapped_withKeyPart (name : Option String) (properties : List DataProperty) :
    unmapped (withKeyPart name properties) = unmapped properties := by
  induction properties with
  | nil => rfl
  | cons property rest ih =>
      unfold unmapped at ih ⊢
      unfold withKeyPart
      split
      next => cases without : property.isUnmapped <;> simp [without, DataProperty.unmarked]
      next => cases without : property.isUnmapped <;> simp [without, ih]

/-- A mapped data property may be put anywhere. -/
theorem unmapped_insertIdx {property : DataProperty} (mapped : property.isUnmapped = false)
    (position : Nat) (properties : List DataProperty) :
    unmapped (properties.insertIdx position property) = unmapped properties := by
  induction properties generalizing position with
  | nil => cases position <;> simp [unmapped, mapped]
  | cons first rest ih =>
      cases position with
      | zero => simp [unmapped, mapped]
      | succ position =>
          have later := ih position
          unfold unmapped at later ⊢
          rw [List.insertIdx_succ_cons]
          cases without : first.isUnmapped <;> simp [without, later]

/-- Only the carrier of its key adds something to what has no mapping. -/
theorem unmapped_onto (resolution : Resolution) (partOfKey : Bool)
    (properties : List DataProperty) :
    unmapped (resolution.onto partOfKey properties) =
      unmapped properties ++ unmapped resolution.carrier.properties := by
  cases partOfKey with
  | false => exact unmapped_append _ _
  | true =>
      exact (foldl_withKeyPart _ unmapped_withKeyPart _ _).trans (unmapped_append _ _)

/-! ## Surrogates of associations -/

/-- The name of the surrogate that an association asks for. It asks for one if it leads to one
entity and has a single column of its own entity as its key, which no member carries. -/
def Entity.surrogateName? (entity : Entity) (association : Member) : Option String :=
  if association.isCollection || !association.keyOnDeclarer then none
  else
    match entity.foreignKeyColumns association with
    | .ok [column] => if entity.carries [column] then none else some (pascal column)
    | _ => none

section Asking

variable {entity : Entity} {association : Member} {column : String} {columns : List String}

theorem carries_of_namesOver {names : List (Option String)}
    (searched : entity.namesOver (columns.map some) true = .ok (some names)) :
    entity.carries columns = true := by
  rw [Entity.carries, searched]

theorem not_carries_of_namesOver
    (searched : entity.namesOver (columns.map some) true = .ok none) :
    entity.carries columns = false := by
  rw [Entity.carries, searched]

/-- Only an association to one entity that has the key itself asks for a surrogate. -/
theorem surrogateName?_of_elsewhere
    (elsewhere : association.isCollection = true ∨ association.keyOnDeclarer = false) :
    entity.surrogateName? association = none := by
  rcases elsewhere with collection | onOther
  · simp [Entity.surrogateName?, collection]
  · simp [Entity.surrogateName?, onOther]

/-- Columns that members carry need no surrogate. -/
theorem surrogateName?_of_carries
    (read : entity.foreignKeyColumns association = .ok columns)
    (carried : entity.carries columns = true) : entity.surrogateName? association = none := by
  unfold Entity.surrogateName?
  rw [read]
  match columns, carried with
  | [], _ | _ :: _ :: _, _ => exact ite_self none
  | [column], carried => simp [carried]

/-- A single column that no member carries needs one. -/
theorem surrogateName?_of_single (one : association.isCollection = false)
    (onDeclarer : association.keyOnDeclarer = true)
    (read : entity.foreignKeyColumns association = .ok [column])
    (uncarried : entity.carries [column] = false) :
    entity.surrogateName? association = some (pascal column) := by
  simp [Entity.surrogateName?, one, onDeclarer, read, uncarried]

end Asking

/-- A surrogate stands for the key of an association: a single column, after which it is named. -/
structure Surrogate.StandsFor (surrogate : Surrogate) (entity : Entity) (association : Member) :
    Prop where
  through : surrogate.association = association.name
  related : surrogate.relatedType = association.type
  one : association.isCollection = false
  onDeclarer : association.keyOnDeclarer = true
  column : ∃ column, entity.foreignKeyColumns association = .ok [column] ∧
    surrogate.name = pascal column

/-- A data property shows a surrogate: with its name, its nullability, and the data type of the key
behind it. -/
structure DataProperty.Shows (property : DataProperty) (surrogate : Surrogate) : Prop where
  named : property.nameOnServer = some surrogate.name
  nullable : property.isNullable = .ofBool surrogate.isNullable
  typed : property.type = .data (some (DataType.clientName surrogate.keyType.name))

/-- The data properties have a surrogate of a name to use again. Only the first of that name is
looked at. -/
def Reuses (properties : List DataProperty) (name : String) : Prop :=
  ∃ property, findProperty? properties (some name) = some property ∧ property.isUnmapped = true

/-- The surrogate and the data property that an association makes on top of some data properties. -/
structure Entity.Makes (entity : Entity) (association : Member) (properties : List DataProperty)
    (made : Surrogate) (property : DataProperty) : Prop where
  asked : entity.surrogateName? association = some made.name
  fresh : ¬ Reuses properties made.name
  standsFor : made.StandsFor entity association
  shows : property.Shows made
  unmapped : property.isUnmapped = true

section Associations

variable {scope : Scope} {entity : Entity} {association : Member} {related : TypeExpr}
  {column : String} {columns : List String} {properties : List DataProperty}
  {carrier : KeyCarrier} {resolution : Resolution}

/-- An entity looks for the key of an association on itself if it has the key. -/
theorem mappedKeyNames_of_keyOnDeclarer (onDeclarer : association.keyOnDeclarer = true) :
    scope.mappedKeyNames entity association related columns =
      entity.namesOver (columns.map some) true := by
  simp [Scope.mappedKeyNames, onDeclarer, pure, Except.pure, bind, Except.bind]

theorem relatedType_of_one (one : association.isCollection = false) :
    entity.relatedType association = .ok association.type := by
  simp [Entity.relatedType, Member.relatedType?, one]

/-- The carrier of a surrogate: one that is there, or a new one. -/
theorem surrogateCarrier_makes
    (settled : scope.surrogateCarrier entity association related column properties = .ok carrier) :
    (carrier = .members [some (pascal column)] ∧ Reuses properties (pascal column)) ∨
      ∃ made property, carrier = .surrogate made property ∧ ¬ Reuses properties (pascal column) ∧
        made.name = pascal column ∧ made.association = association.name ∧
        made.relatedType = related ∧ property.Shows made ∧ property.isUnmapped = true := by
  have reuses : (findProperty? properties (some (pascal column))).any (·.isUnmapped) = true ↔
      Reuses properties (pascal column) := Option.any_eq_true _ _
  simp only [Scope.surrogateCarrier] at settled
  split at settled
  next there =>
    cases settled
    exact .inl ⟨rfl, reuses.mp there⟩
  next absent =>
    split at settled
    next => cases settled
    next identifier found =>
      cases settled
      exact .inr ⟨_, _, rfl, fun there => absent (reuses.mpr there), rfl, rfl, rfl,
        ⟨rfl, rfl, rfl⟩, rfl⟩

/-- What comes to something has a carrier for its key. -/
theorem carrier_ne_nothing
    (comes : scope.resolution entity association properties = .ok resolution) :
    resolution.carrier ≠ .nothing := by
  simp only [Scope.resolution, except_bind_ok_iff] at comes
  obtain ⟨related, -, columns, -, comes⟩ := comes
  cases collection : association.isCollection with
  | true =>
      rw [collection, if_pos rfl, except_bind_ok_iff] at comes
      obtain ⟨names, -, comes⟩ := comes
      cases comes
      exact fun same => by cases same
  | false =>
      rw [collection, if_neg (by simp), except_bind_ok_iff] at comes
      obtain ⟨carrier, -, comes⟩ := comes
      cases carrier <;> cases comes <;> exact fun same => by cases same

/-- **One association.** It makes a surrogate together with a data property, or it makes neither,
and then the one that it asks for is there already. -/
theorem resolution_makes
    (comes : scope.resolution entity association properties = .ok resolution) :
    (resolution.carrier.properties = [] ∧ resolution.carrier.surrogates = [] ∧
        ∀ name, entity.surrogateName? association = some name → Reuses properties name) ∨
      ∃ made property, resolution.carrier = .surrogate made property ∧
        entity.Makes association properties made property := by
  obtain ⟨related, columns, leads, read,
    ⟨collection, _, -, rfl⟩ | ⟨one, carrier, settled, rfl⟩⟩ := resolution_ok comes
  · refine .inl ⟨rfl, rfl, fun name asked => ?_⟩
    rw [surrogateName?_of_elsewhere (.inl collection)] at asked
    cases asked
  obtain rfl : association.type = related := by
    rw [relatedType_of_one one] at leads
    exact Except.ok.inj leads
  rcases keyCarrier_ok settled with ⟨names, searched, rfl⟩ |
    ⟨searched, ⟨column, rfl, onDeclarer, settled⟩ | ⟨column, rfl, onOther, rfl⟩ | rfl⟩
  · -- Members carry the key.
    refine .inl ⟨rfl, rfl, fun name asked => ?_⟩
    cases onDeclarer : association.keyOnDeclarer with
    | false =>
        rw [surrogateName?_of_elsewhere (.inr onDeclarer)] at asked
        cases asked
    | true =>
        rw [mappedKeyNames_of_keyOnDeclarer onDeclarer] at searched
        rw [surrogateName?_of_carries read (carries_of_namesOver searched)] at asked
        cases asked
  · -- No member carries the one column.
    rw [mappedKeyNames_of_keyOnDeclarer onDeclarer] at searched
    have asks := surrogateName?_of_single one onDeclarer read (not_carries_of_namesOver searched)
    rcases surrogateCarrier_makes settled with ⟨rfl, there⟩ |
      ⟨made, property, rfl, absent, named, through, leadsTo, shows, unmapped⟩
    · refine .inl ⟨rfl, rfl, fun name asked => ?_⟩
      rw [asks] at asked
      exact Option.some.inj asked ▸ there
    · exact .inr ⟨made, property, rfl, {
        asked := named ▸ asks
        fresh := named ▸ absent
        standsFor := ⟨through, leadsTo, one, onDeclarer, column, read, named⟩
        shows
        unmapped }⟩
  · refine .inl ⟨rfl, rfl, fun name asked => ?_⟩
    rw [surrogateName?_of_elsewhere (.inr onOther)] at asked
    cases asked
  · exact (carrier_ne_nothing comes rfl).elim

end Associations

/-! ## Surrogates of an entity -/

section Entities

variable {scope : Scope} {entity : Entity}

/-- **What fills in an entity.** New data properties without a mapping come at the end, each with
the surrogate that it shows. -/
theorem shows_of_fills {properties final : List DataProperty} {associations : List Member}
    {resolutions : List Resolution}
    (fills : scope.Fills entity properties associations resolutions final) :
    ∃ made, unmapped final = unmapped properties ++ made ∧
      List.Forall₂ DataProperty.Shows made (resolutions.flatMap (·.carrier.surrogates)) := by
  induction fills with
  | done => exact ⟨[], by simp, .nil⟩
  | insert position mapped further ih =>
      rw [unmapped_insertIdx mapped] at ih
      exact ih
  | @resolve properties final association associations resolution resolutions partOfKey comes
      further ih =>
      obtain ⟨later, shown, shows⟩ := ih
      rw [unmapped_onto, List.append_assoc] at shown
      rw [List.flatMap_cons]
      rcases resolution_makes comes with ⟨without, unmade, -⟩ | ⟨made, property, carried, makes⟩
      · rw [without] at shown
        rw [unmade]
        exact ⟨later, shown, shows⟩
      · rw [carried] at shown ⊢
        refine ⟨property.unmarked :: later, ?_, .cons ?_ shows⟩
        · simpa [unmapped, KeyCarrier.properties, makes.unmapped] using shown
        · exact ⟨makes.shows.named, makes.shows.nullable, makes.shows.typed⟩

/-- Each surrogate stands for one of the associations. -/
theorem standsFor_of_fills {properties final : List DataProperty} {associations : List Member}
    {resolutions : List Resolution}
    (fills : scope.Fills entity properties associations resolutions final) :
    ∀ surrogate ∈ resolutions.flatMap (·.carrier.surrogates),
      ∃ association ∈ associations, surrogate.StandsFor entity association := by
  induction fills with
  | done => simp
  | insert position mapped further ih => exact ih
  | @resolve properties final association associations resolution resolutions partOfKey comes
      further ih =>
      intro surrogate among
      rcases List.mem_append.mp (List.flatMap_cons ▸ among) with here | later
      · rcases resolution_makes comes with ⟨-, unmade, -⟩ | ⟨made, property, carried, makes⟩
        · rw [unmade] at here
          cases here
        · rw [carried] at here
          obtain rfl := List.mem_singleton.mp here
          exact ⟨association, List.mem_cons_self, makes.standsFor⟩
      · obtain ⟨other, inside, standsFor⟩ := ih surrogate later
        exact ⟨other, List.mem_cons_of_mem _ inside, standsFor⟩

theorem unmapped_dataMembers (scope : Scope) (entity : Entity) :
    unmapped ((scope.dataMembers entity).map (scope.memberProperty entity)) = [] := by
  refine unmapped_of_mapped fun property among => ?_
  obtain ⟨member, -, rfl⟩ := List.mem_map.mp among
  exact isUnmapped_memberProperty scope entity member

/-- The associations that become navigation properties are declared. -/
theorem links_declared {association : Member}
    (among : association ∈ scope.keyLinks entity ++ scope.linkMembers entity) :
    association ∈ entity.declared ∧ association.isAssociation = true := by
  rcases List.mem_append.mp among with key | link
  · obtain ⟨inside, kept⟩ := List.mem_filter.mp key
    simp only [Bool.and_eq_true] at kept
    exact ⟨List.mem_append_right _ inside, kept.2⟩
  · obtain ⟨inside, kept⟩ := List.mem_filter.mp link
    simp only [Scope.publishesLink, Bool.and_eq_true] at kept
    exact ⟨List.mem_append_left _ inside, kept.1.1⟩

theorem customProperties_of_members_nil
    (unconfigured : (scope.overrides.ofType entity.type).members = []) :
    customProperties scope entity = [] := by
  simp [customProperties, unconfigured]

/-- **The surrogates of an entity.** What has no mapping on an entity without configured members
shows its surrogates, one for one, and each of these stands for an association of the entity. -/
theorem shows_of_profile {profile : Profile} (profiled : scope.profile entity = .ok profile)
    (unconfigured : (scope.overrides.ofType entity.type).members = []) :
    List.Forall₂ DataProperty.Shows (profile.properties.filter (·.isUnmapped))
        profile.surrogates ∧
      ∀ surrogate ∈ profile.surrogates, ∃ association ∈ entity.declared,
        association.isAssociation = true ∧ surrogate.StandsFor entity association := by
  obtain ⟨keys, properties, links, ofKey, ofLinks, resolutions⟩ := profile_fills profiled
  rw [customProperties_of_members_nil unconfigured, List.append_nil] at ofLinks
  have fills := ofKey.trans ofLinks
  obtain ⟨made, shown, shows⟩ := shows_of_fills fills
  rw [unmapped_dataMembers, List.nil_append] at shown
  rw [Profile.surrogates, resolutions]
  constructor
  · rw [← shown, unmapped, List.forall₂_map_left_iff] at shows
    exact shows.imp fun property surrogate shown => ⟨shown.named, shown.nullable, shown.typed⟩
  · intro surrogate among
    obtain ⟨association, inside, standsFor⟩ := standsFor_of_fills fills surrogate among
    obtain ⟨declared, leads⟩ := links_declared inside
    exact ⟨association, declared, leads, standsFor⟩

end Entities

/-! ## The table of surrogates -/

theorem own_prefix_withNewSurrogates (own others : List Surrogate) :
    own <+: withNewSurrogates own others := by
  unfold withNewSurrogates
  induction others generalizing own with
  | nil => exact List.prefix_refl own
  | cons surrogate rest ih =>
      rw [List.foldl_cons]
      split
      next => exact ih own
      next => exact (List.prefix_append own [surrogate]).trans (ih _)

/-- A type keeps its own surrogates in front of those that it takes over. -/
theorem ofKey_prefix_inherited (catalogue : Catalogue) (table : SurrogateTable) (key : String) :
    table.ofKey key <+: (SurrogateTable.inherited catalogue table).ofKey key := by
  rw [SurrogateTable.ofKey_inherited, SurrogateTable.ofKey]
  cases table.lookup key with
  | none => exact List.prefix_refl []
  | some own =>
      rw [Option.map_some, Option.getD_some, Option.getD_some]
      generalize catalogue.superclassKeys key = superclasses
      induction superclasses generalizing own with
      | nil => exact List.prefix_refl own
      | cons superclass rest ih => exact (own_prefix_withNewSurrogates own _).trans (ih _)

section Builds

variable {catalogue : Catalogue} {options : BuildOptions} {entity : Entity}

/-- A participant has a place for surrogates if it keeps any, and there stand those that its
associations made. -/
theorem Published.lookup_surrogates {scope : Scope} {resourceName : TypeExpr → Option String}
    {done : List Entity} {draft : Draft} (published : Published scope resourceName done draft)
    (included : entity ∈ done) :
    draft.surrogates.lookup entity.key =
      if scope.keepsSurrogates entity then some (scope.profileOf entity).surrogates else none := by
  split
  next keeps =>
    rw [Keyed.lookup_eq_some_iff published.distinctSurrogates, published.surrogates]
    exact List.mem_map_of_mem (List.mem_filter.mpr ⟨included, keeps⟩)
  next without =>
    rw [Keyed.lookup_eq_none_iff, published.surrogates, List.map_map]
    intro among
    obtain ⟨other, inside, same⟩ := List.mem_map.mp among
    obtain ⟨listed, keeps⟩ := List.mem_filter.mp inside
    rw [List.inj_on_of_nodup_map published.distinctKeys listed included same] at keeps
    exact without keeps

/-- The surrogates recorded for a participant are those that its associations made. -/
theorem Published.ofKey_surrogates {scope : Scope} {resourceName : TypeExpr → Option String}
    {done : List Entity} {draft : Draft} (published : Published scope resourceName done draft)
    (included : entity ∈ done) :
    SurrogateTable.ofKey draft.surrogates entity.key = (scope.profileOf entity).surrogates := by
  rw [SurrogateTable.ofKey, published.lookup_surrogates included]
  split
  next => rfl
  next without =>
    -- Without a place the entity has made none.
    simp only [Scope.keepsSurrogates, Bool.not_eq_true, Bool.or_eq_false_iff, Bool.not_eq_false',
      List.isEmpty_iff] at without
    rw [without.2, Option.getD_none]

/-- **Clients and the source know the same surrogates.** On the type of a participant without
configured members, what has no mapping shows the surrogates recorded for it, one for one and in
order, and these come first among those that the source keeps for the type. Each of them stands for
an association of the entity. -/
theorem build_showsSurrogates {edition : Edition}
    (built : build catalogue options = .ok edition)
    (included : entity ∈ options.participants catalogue)
    (unconfigured : (options.overrides.ofType entity.type).members = []) :
    ∃ type, edition.document.type? entity.key = some type ∧
      List.Forall₂ DataProperty.Shows (type.dataProperties.filter (·.isUnmapped))
        (SurrogateTable.ofKey edition.surrogates entity.key) ∧
      SurrogateTable.ofKey edition.surrogates entity.key <+:
        (SurrogateTable.inherited catalogue edition.surrogates).ofKey entity.key ∧
      ∀ surrogate ∈ SurrogateTable.ofKey edition.surrogates entity.key,
        ∃ association ∈ entity.declared,
          association.isAssociation = true ∧ surrogate.StandsFor entity association := by
  obtain ⟨draft, published, document, surrogates⟩ := build_published built
  obtain ⟨shows, stands⟩ := shows_of_profile (published.profiled entity included) unconfigured
  refine ⟨_, document ▸ published.type?_of_mem included options.comparisonOptions, ?_,
    ofKey_prefix_inherited catalogue edition.surrogates entity.key, ?_⟩
  · rw [surrogates, published.ofKey_surrogates included]
    exact shows
  · rw [surrogates, published.ofKey_surrogates included]
    exact stands

end Builds

/-! ## A shop -/

/-- A build that succeeds where its view does. -/
theorem exists_edition_of_view {α : Type} {catalogue : Catalogue} {options : BuildOptions}
    (view : Edition → α) {seen : α}
    (viewed : (build catalogue options).toOption.map view = some seen) :
    ∃ edition, build catalogue options = .ok edition ∧ view edition = seen := by
  cases built : build catalogue options with
  | error error => simp [built, Except.toOption] at viewed
  | ok edition => exact ⟨edition, rfl, by simpa [built, Except.toOption] using viewed⟩

/-- Where describing an entity succeeds, its data properties and navigation properties. -/
def Scope.described? (scope : Scope) (entity : Entity) :
    Option (List DataProperty × List NavigationProperty) :=
  match describeEntity scope entity {} with
  | .ok described _ => some described
  | .error _ _ => none

/-- An entity whose description looks as given is described. -/
theorem exists_described_of_view {α : Type} {scope : Scope} {entity : Entity}
    (view : List DataProperty × List NavigationProperty → α) {seen : α}
    (viewed : (scope.described? entity).map view = some seen) :
    ∃ properties navigations after,
      describeEntity scope entity {} = .ok (properties, navigations) after ∧
        view (properties, navigations) = seen := by
  unfold Scope.described? at viewed
  split at viewed
  next described after run =>
    obtain ⟨properties, navigations⟩ := described
    exact ⟨properties, navigations, after, run, Option.some.inj viewed⟩
  next => cases viewed

/-! Customers and their orders, where the column behind the customer has no member of its own. -/

namespace Shop

/-- A type of the shop. -/
def type (name : String) : TypeExpr := { name, space := "Shop" }

/-- A number over a column. -/
def number (name column : String) : Member :=
  { name := some name, type := { name := "Int32", space := "System" }, columns := [some column] }

/-- An association to one entity over a column. -/
def toOne (name target column : String) : Member :=
  { name := some name, type := type target, columns := [some column], isAssociation := true }

/-- An entity with a number over a column as its identifier. -/
def entity (name keyColumn : String) (members : List Member) : Entity :=
  { type := type name
    identifier := some (number "Id" keyColumn)
    keyColumns := [some keyColumn]
    members }

def customer : Entity := entity "Customer" "Id" []

def order : Entity := entity "Order" "Id" [toOne "Customer" "Customer" "customer_id"]

/-- Orders with a payer, who is found over the same column as the customer. -/
def rushOrder : Entity :=
  { entity "RushOrder" "Id"
      [toOne "Customer" "Customer" "customer_id", toOne "BillTo" "Customer" "customer_id"] with
    superclass := some order.type }

def catalogue : Catalogue := { entities := [customer, order, rushOrder] }

end Shop

/-- The surrogate of orders is the key of their customer. -/
theorem build_showsSurrogates_order : ∃ edition,
    build Shop.catalogue Sample.options = .ok edition ∧
    (SurrogateTable.ofKey edition.surrogates Shop.order.key).map (·.name) = ["CustomerId"] ∧
    ∃ type, edition.document.type? Shop.order.key = some type ∧
      List.Forall₂ DataProperty.Shows (type.dataProperties.filter (·.isUnmapped))
        (SurrogateTable.ofKey edition.surrogates Shop.order.key) ∧
      SurrogateTable.ofKey edition.surrogates Shop.order.key <+:
        (SurrogateTable.inherited Shop.catalogue edition.surrogates).ofKey Shop.order.key ∧
      ∀ surrogate ∈ SurrogateTable.ofKey edition.surrogates Shop.order.key,
        ∃ association ∈ Shop.order.declared,
          association.isAssociation = true ∧ surrogate.StandsFor Shop.order association := by
  obtain ⟨edition, built, named⟩ := exists_edition_of_view
    (fun edition => (SurrogateTable.ofKey edition.surrogates Shop.order.key).map (·.name))
    (by decide +kernel : (build Shop.catalogue Sample.options).toOption.map _ = some ["CustomerId"])
  exact ⟨edition, built, named,
    build_showsSurrogates built (by simp [BuildOptions.participants, Sample.options,
      Shop.catalogue]) rfl⟩

end EntityAtlas

import EntityAtlas.Proofs.ComplexReferences
import EntityAtlas.Proofs.SerializedNames

/-!
# Ignored members

An application may say of a member that it is ignored. The data members of an entity, its
associations and its custom members are then left out. The key, the surrogates and the members of
embedded types are published without asking, so an ignored name is shown where one of these has it,
and nowhere else (`build_showsIgnored_iff`).

An application says things one after the other. A custom member is read off the list of what was
said, and not looked up by its name. Both come to the same, because nothing is listed twice
(`Overrides.Made.membersApart`).
-/

set_option autoImplicit false

namespace EntityAtlas

/-! ## What an application says -/

namespace Overrides

/-- Overrides that an application can make, saying one thing after the other. -/
inductive Made : Overrides → Prop where
  | nothing : Made {}
  | type {overrides : Overrides} (made : Made overrides) (type : TypeExpr)
      (resourceName : Option String) : Made (overrides.configureType type resourceName)
  | member {overrides : Overrides} (made : Made overrides) (type : TypeExpr) (name : String)
      (settings : List MemberSetting) : Made (overrides.configureMember type name settings)

/-- No member of a type is listed twice. -/
def MembersApart (overrides : Overrides) : Prop :=
  ∀ type, ((overrides.ofType type).members.map Prod.fst).Nodup

/-- Whether a member of a type is said to be ignored. -/
def ignores (overrides : Overrides) (type : TypeExpr) (name : String) : Bool :=
  (overrides.ofMember type (some name)).ignored.holds

variable {overrides : Overrides}

/-- What is said by options can be said by settings, also where an option is refused. -/
theorem Made.configureByOptions (made : overrides.Made) (type : TypeExpr) (name : String)
    (options : List (String × Datum)) :
    (overrides.configureByOptions type name options).1.Made := by
  unfold Overrides.configureByOptions
  split
  · exact made
  · exact made.member type name _

theorem members_configureType (type owner : TypeExpr) (resourceName : Option String) :
    ((overrides.configureType type resourceName).ofType owner).members =
      (overrides.ofType owner).members := by
  by_cases same : owner.key = type.key
  · simp only [ofType, configureType, same, Keyed.lookup_update_self, Option.getD_some]
  · rw [ofType, configureType, Keyed.lookup_update_of_ne same, ofType]

theorem MembersApart.configureMember (apart : overrides.MembersApart) (type : TypeExpr)
    (name : String) (settings : List MemberSetting) :
    (overrides.configureMember type name settings).MembersApart := by
  intro owner
  rw [ofType_configureMember]
  split
  next =>
    rw [Keyed.map_fst_update]
    split
    next => exact apart type
    next fresh =>
      refine List.nodup_append.mpr ⟨apart type, List.nodup_singleton name, ?_⟩
      rintro other among _ last rfl
      exact fresh (List.mem_singleton.mp last ▸ among)
  next => exact apart owner

/-- **Overrides list no member twice**, whatever was said. -/
theorem Made.membersApart (made : overrides.Made) : overrides.MembersApart := by
  induction made with
  | nothing => exact fun type => List.nodup_nil
  | type _ type resourceName apart =>
      intro owner
      rw [members_configureType]
      exact apart owner
  | member _ type name settings apart => exact apart.configureMember type name settings

end Overrides

/-! ## Names on an entity -/

section Entities

variable {scope : Scope} {entity : Entity} {name : String}

/-- No member is left of those with a name that a choice refuses. -/
theorem not_mem_names_of_refused {publishes : Member → Bool} {name : Option String}
    (refused : ∀ member : Member, member.name = name → publishes member = false)
    (members : List Member) : name ∉ (members.filter publishes).map (·.name) := by
  intro among
  obtain ⟨member, inside, named⟩ := List.mem_map.mp among
  have published := (List.mem_filter.mp inside).2
  rw [refused member named] at published
  cases published

theorem not_mem_dataMembers_of_ignored
    (ignored : scope.overrides.ignores entity.type name = true) :
    some name ∉ (scope.dataMembers entity).map (·.name) := by
  refine not_mem_names_of_refused (fun member named => ?_) entity.members
  rw [Overrides.ignores, ← named] at ignored
  simp [Scope.publishesData, ignored]

theorem not_mem_linkMembers_of_ignored
    (ignored : scope.overrides.ignores entity.type name = true) :
    some name ∉ (scope.linkMembers entity).map (·.name) := by
  refine not_mem_names_of_refused (fun member named => ?_) entity.members
  rw [Overrides.ignores, ← named] at ignored
  simp [Scope.publishesLink, ignored]

theorem not_mem_customProperties_of_ignored (apart : scope.overrides.MembersApart)
    (ignored : scope.overrides.ignores entity.type name = true) :
    some name ∉ (customProperties scope entity).map (·.nameOnServer) := by
  intro among
  obtain ⟨property, inside, named⟩ := List.mem_map.mp among
  obtain ⟨⟨other, override⟩, listed, rfl⟩ := List.mem_map.mp inside
  obtain ⟨said, shown⟩ := List.mem_filter.mp listed
  obtain rfl : other = name := Option.some.inj named
  have found := (Keyed.lookup_eq_some_iff (apart entity.type)).mpr said
  have same : scope.overrides.ofMember entity.type (some other) = override := by
    rw [Overrides.ofMember, TypeOverride.ofMember, found, Option.getD_some]
  rw [Overrides.ignores, same] at ignored
  simp [ignored] at shown

/-- The names without a mapping are those of custom members and those of surrogates. -/
theorem mem_unmappedNames_of_profile_iff {profile : Profile}
    (profiled : scope.profile entity = .ok profile) {name : Option String} :
    name ∈ unmappedNames profile.properties ↔
      name ∈ (customProperties scope entity).map (·.nameOnServer) ∨
        ∃ surrogate ∈ scope.surrogateNames entity, name = some surrogate := by
  obtain ⟨keys, properties, links, ofKey, ofLinks, -⟩ := profile_fills profiled
  have nothing : unmappedNames ((scope.dataMembers entity).map (scope.memberProperty entity)) =
      [] := by
    rw [unmappedNames, unmapped_dataMembers, List.map_nil]
  have sorted : unmappedNames (properties ++ customProperties scope entity) =
      unmappedNames properties ++ (customProperties scope entity).map (·.nameOnServer) := by
    rw [← unmappedNames_customProperties, unmappedNames, unmapped_append, List.map_append]
    rfl
  rw [mem_unmappedNames_iff ofLinks, sorted, List.mem_append, mem_unmappedNames_iff ofKey, nothing,
    Scope.surrogateNames, List.filterMap_append]
  simp only [List.not_mem_nil, false_or, List.mem_append, or_and_right, exists_or]
  rw [or_assoc, or_left_comm]

/-- **Ignored names on an entity.** They are shown where the key or a surrogate has them. -/
theorem shows_ignored_iff {profile : Profile} (profiled : scope.profile entity = .ok profile)
    (apart : scope.overrides.MembersApart)
    (ignored : scope.overrides.ignores entity.type name = true) :
    (some name ∈ profile.properties.map (·.nameOnServer) ↔
      some name ∈ (scope.keyMembers entity).map (·.name) ∨ name ∈ scope.surrogateNames entity) ∧
    (some name ∈ profile.navigations.map (·.nameOnServer) ↔
      some name ∈ (scope.keyLinks entity).map (·.name)) := by
  constructor
  · rw [(names_of_profile profiled).mem_iff, List.mem_append, Scope.dataNames, List.map_append,
      List.mem_append, mem_unmappedNames_of_profile_iff profiled]
    simp [not_mem_dataMembers_of_ignored ignored, not_mem_customProperties_of_ignored apart ignored]
  · rw [Profile.navigations, navigations_of_resolves (profile_resolves profiled).2, List.map_append,
      List.mem_append]
    simp [not_mem_linkMembers_of_ignored ignored]

end Entities

/-! ## Documents -/

/-- The names of the navigation properties of the type with a key. -/
def Document.navigationNames (document : Document) (key : String) : List (Option String) :=
  ((document.type? key).map fun type => type.navigationProperties.map (·.nameOnServer)).getD []

/-- Embedded types show all their members, whatever was said. -/
theorem exists_component_of_complexType {scope : Scope}
    {resourceName : TypeExpr → Option String} {done : List Entity} {draft : Draft}
    (published : Published scope resourceName done draft) {type : StructuralType}
    (among : type ∈ draft.complexTypes) :
    ∃ component ∈ done.flatMap scope.embeddedTypes, type.key = component.type.key ∧
      type.dataProperties.map (·.nameOnServer) = component.members.map (·.name) ∧
      type.navigationProperties = [] := by
  obtain ⟨components, complexTypes, embedded, -⟩ := published.complexTypes
  obtain ⟨component, inside, rfl⟩ := List.mem_map.mp (complexTypes ▸ among)
  refine ⟨component, embedded component inside, rfl, ?_, rfl⟩
  rw [Scope.complexType, List.map_map]
  refine List.map_congr_left fun member _ => ?_
  simp only [Function.comp, Scope.partProperty]
  split <;> rfl

/-- **Ignored names.** In a build that succeeds, an ignored name of a participant is that of a data
property exactly if the key or a surrogate has it, and that of a navigation property exactly if an
association in the key has it. A complex type shows all members of the type that is embedded,
whether they are ignored or not. -/
theorem build_showsIgnored_iff {catalogue : Catalogue} {options : BuildOptions} {edition : Edition}
    (built : build catalogue options = .ok edition) (made : options.overrides.Made) :
    (∀ entity ∈ options.participants catalogue, ∀ name,
      options.overrides.ignores entity.type name = true →
        (some name ∈ edition.document.dataNames entity.key ↔
          some name ∈ ((options.scope catalogue).keyMembers entity).map (·.name) ∨
            name ∈ (options.scope catalogue).surrogateNames entity) ∧
        (some name ∈ edition.document.navigationNames entity.key ↔
          some name ∈ ((options.scope catalogue).keyLinks entity).map (·.name))) ∧
    ∀ type ∈ edition.document.complexTypes,
      ∃ component ∈
        (options.participants catalogue).flatMap (options.scope catalogue).embeddedTypes,
          type.key = component.type.key ∧
          type.dataProperties.map (·.nameOnServer) = component.members.map (·.name) ∧
          type.navigationProperties = [] := by
  obtain ⟨draft, published, document, -⟩ := build_published built
  rw [document]
  refine ⟨fun entity included name ignored => ?_, fun type among => ?_⟩
  · rw [dataNames_of_published published included, Document.navigationNames,
      published.type?_of_mem included]
    exact shows_ignored_iff (published.profiled entity included) made.membersApart ignored
  · rw [complexTypes_document published] at among
    exact exists_component_of_complexType published among

namespace Shop

/-- Customers with a rank and an address. -/
def resident : Entity :=
  entity "Customer" "Id" [number "Rank" "rank", embedding "Address" address]

def residents : Catalogue := { entities := [resident] }

/-- The key and the rank of customers are ignored, and the house in addresses. -/
def discreet : BuildOptions :=
  { Sample.options with
    overrides :=
      ((({} : Overrides).configureMember resident.type "Id" [.ignored (.ofBool true)]
        ).configureMember resident.type "Rank" [.ignored (.ofBool true)]
        ).configureMember address.type "House" [.ignored (.ofBool true)] }

theorem made_discreet : discreet.overrides.Made := .member (.member (.member .nothing ..) ..) ..

end Shop

/-- Of the names ignored on customers the key is shown, and the rank is not. -/
theorem build_showsIgnored_iff_discreet : ∃ edition,
    build Shop.residents Shop.discreet = .ok edition ∧
    some "Id" ∈ edition.document.dataNames Shop.resident.key ∧
    some "Rank" ∉ edition.document.dataNames Shop.resident.key ∧
    some "Id" ∉ edition.document.navigationNames Shop.resident.key := by
  obtain ⟨edition, built, -⟩ := exists_edition_of_view (fun _ => ())
    (by decide +kernel : (build Shop.residents Shop.discreet).toOption.map _ = some ())
  have onCustomers := (build_showsIgnored_iff built Shop.made_discreet).1 Shop.resident
    List.mem_cons_self
  obtain ⟨idShown, idLeads⟩ := onCustomers "Id" (by decide +kernel)
  obtain ⟨rankShown, -⟩ := onCustomers "Rank" (by decide +kernel)
  exact ⟨edition, built, idShown.mpr (by decide +kernel),
    fun shown => absurd (rankShown.mp shown) (by decide +kernel),
    fun shown => absurd (idLeads.mp shown) (by decide +kernel)⟩

/-- The house in addresses is ignored, and so is the key of customers, but both are shown. -/
theorem ignored_shown_residents : ∃ edition,
    build Shop.residents Shop.discreet = .ok edition ∧
    Shop.discreet.overrides.Made ∧
    Shop.discreet.overrides.ignores Shop.address.type "House" = true ∧
    some "House" ∈ edition.document.dataNames Shop.address.type.key ∧
    Shop.discreet.overrides.ignores Shop.resident.type "Id" = true ∧
    some "Id" ∈ edition.document.dataNames Shop.resident.key := by
  obtain ⟨edition, built, shown⟩ := exists_edition_of_view
    (fun edition => decide (some "House" ∈ edition.document.dataNames Shop.address.type.key) &&
      decide (some "Id" ∈ edition.document.dataNames Shop.resident.key))
    (by decide +kernel : (build Shop.residents Shop.discreet).toOption.map _ = some true)
  obtain ⟨house, key⟩ := Bool.and_eq_true_iff.mp shown
  exact ⟨edition, built, Shop.made_discreet, by decide +kernel, of_decide_eq_true house,
    by decide +kernel, of_decide_eq_true key⟩

end EntityAtlas

import EntityAtlas.Proofs.DocumentShape
import EntityAtlas.Proofs.PropertyOrigins

/-!
# References to complex types

A data property that is no scalar names a complex type. On an entity type such a property comes from
an embedded member (`exists_embedded_of_complex`), and the members of embedded types are treated
alike. Publishing an embedded type makes sure that the document has a type with its key, but does
not ask what kind of type it is. So every name leads to a type, and this is a complex type exactly if
no participant has the key (`build_resolvesComplexTypes`).
-/

set_option autoImplicit false

namespace EntityAtlas

/-- The key of the complex type that a data property names. -/
def DataProperty.complexTypeName? (property : DataProperty) : Option String :=
  match property.type with
  | .data _ => none
  | .complex typeName => some typeName

/-! ## Which data properties name a complex type -/

section Origins

variable {scope : Scope} {entity : Entity} {key : String}

theorem complexTypeName?_unmarked (property : DataProperty) :
    property.unmarked.complexTypeName? = property.complexTypeName? := rfl

/-- A part of the key is a scalar. -/
theorem complexTypeName?_of_mem_keyProperties {property : DataProperty}
    (among : property ∈ scope.keyProperties entity) : property.complexTypeName? = none := by
  obtain ⟨_, _, rfl⟩ := exists_part_of_mem_keyProperties among
  rfl

theorem complexTypeName?_of_mem_customProperties {property : DataProperty}
    (among : property ∈ customProperties scope entity) : property.complexTypeName? = none := by
  obtain ⟨_, -, rfl⟩ := List.mem_map.mp among
  rfl

/-- A surrogate is a scalar. -/
theorem complexTypeName?_of_carried {association : Member} {properties : List DataProperty}
    {resolution : Resolution}
    (comes : scope.resolution entity association properties = .ok resolution)
    {property : DataProperty} (among : property ∈ resolution.carrier.properties) :
    property.complexTypeName? = none := by
  rcases resolution_makes comes with ⟨without, -, -⟩ | ⟨made, shown, carried, makes⟩
  · rw [without] at among
    cases among
  · rw [carried] at among
    obtain rfl := List.mem_singleton.mp among
    rw [DataProperty.complexTypeName?, makes.shows.typed]

/-- An embedded member names the type that it embeds. -/
theorem complexTypeName?_memberProperty (member : Member) :
    (scope.memberProperty entity member).complexTypeName? =
      member.embedded?.map (·.type.key) := by
  unfold Scope.memberProperty
  cases member.embedded? <;> rfl

theorem complexTypeName?_partProperty (owner : TypeExpr) (member : Member) :
    (scope.partProperty owner member).complexTypeName? = member.embedded?.map (·.type.key) := by
  unfold Scope.partProperty
  cases member.embedded? <;> rfl

/-- **What names a complex type on an entity.** A data property that does comes from a data member
that embeds the type. -/
theorem exists_embedded_of_complex {profile : Profile}
    (profiled : scope.profile entity = .ok profile) {property : DataProperty}
    (among : property ∈ profile.properties) (complex : property.complexTypeName? = some key) :
    ∃ member ∈ scope.dataMembers entity, ∃ component, member.embedded? = some component ∧
      component.type.key = key := by
  obtain ⟨origin, same, from_⟩ := exists_origin profiled among
  have complexThere : origin.complexTypeName? = some key := by
    rw [← complexTypeName?_unmarked, same, complexTypeName?_unmarked, complex]
  rcases from_ with ofKey | ⟨member, inside, rfl⟩ | custom | ⟨resolution, resolved, carried⟩
  · rw [complexTypeName?_of_mem_keyProperties ofKey] at complexThere
    cases complexThere
  · rw [complexTypeName?_memberProperty] at complexThere
    exact ⟨member, inside, Option.map_eq_some_iff.mp complexThere⟩
  · rw [complexTypeName?_of_mem_customProperties custom] at complexThere
    cases complexThere
  · obtain ⟨association, -, given, comes, -⟩ :=
      exists_resolves (profile_resolves profiled).2 resolved
    rw [complexTypeName?_of_carried comes carried] at complexThere
    cases complexThere

end Origins

/-! ## What the names lead to -/

/-- The keys of the entity types of a draft. -/
def Draft.entityKeys (draft : Draft) : List String := draft.entityTypes.map (·.key)

section Published

variable {scope : Scope} {resourceName : TypeExpr → Option String} {done : List Entity}
  {draft : Draft}

/-- A name of a complex type is the key of an embedded type, and the draft has a type with it. -/
theorem exists_component_of_complex (published : Published scope resourceName done draft)
    {type : StructuralType} (among : type ∈ draft.structuralTypes) {property : DataProperty}
    (shown : property ∈ type.dataProperties) {key : String}
    (complex : property.complexTypeName? = some key) :
    draft.holdsType key = true ∧
      ∃ component ∈ done.flatMap scope.embeddedTypes, component.type.key = key := by
  rcases List.mem_append.mp among with embedded | node
  · obtain ⟨components, complexTypes, met, plain, settled⟩ := published.complexTypes
    rw [complexTypes] at embedded
    obtain ⟨component, inside, rfl⟩ := List.mem_map.mp embedded
    obtain ⟨member, part, rfl⟩ := List.mem_map.mp shown
    rw [complexTypeName?_partProperty] at complex
    obtain ⟨inner, embeds, rfl⟩ := Option.map_eq_some_iff.mp complex
    refine ⟨(settled component inside member part).embedded inner embeds, inner, ?_, rfl⟩
    obtain ⟨entity, included, nested⟩ := List.mem_flatMap.mp (met component inside)
    refine List.mem_flatMap.mpr ⟨entity, included, nestedAmong_trans nested ?_⟩
    exact Component.mem_nested_iff.mpr (.inr (nestedAmong_of_embedded part
      (plain component inside member part) embeds inner.self_mem_nested))
  · rw [published.entityTypes] at node
    obtain ⟨entity, included, rfl⟩ := List.mem_map.mp node
    obtain ⟨member, inside, inner, embeds, rfl⟩ :=
      exists_embedded_of_complex (published.profiled entity included) shown complex
    refine ⟨(published.settled entity included member inside).embedded inner embeds, inner,
      List.mem_flatMap.mpr ⟨entity, included, ?_⟩, rfl⟩
    exact nestedAmong_of_embedded inside
      (isAssociation_of_publishesData (List.mem_filter.mp inside).2) embeds inner.self_mem_nested

theorem Published.entityKeys_eq (published : Published scope resourceName done draft) :
    draft.entityKeys = done.map (·.key) := by
  rw [Draft.entityKeys, published.entityTypes, List.map_map]
  rfl

/-- A type of the draft is complex exactly if its key is that of no entity. -/
theorem isComplex_iff_of_mem (published : Published scope resourceName done draft)
    {type : StructuralType} (among : type ∈ draft.structuralTypes) :
    type.isComplex = true ↔ type.key ∉ done.map (·.key) := by
  rw [← published.entityKeys_eq]
  rcases List.mem_append.mp among with complex | node
  · have distinct := published.distinctTypes
    rw [Draft.structuralTypes, List.map_append, List.nodup_append] at distinct
    refine iff_of_true (isComplex_of_mem_complexTypes published complex) fun taken => ?_
    exact distinct.2.2 _ (List.mem_map_of_mem complex) _ taken rfl
  · refine iff_of_false ?_ fun free => free (List.mem_map_of_mem node)
    rw [isComplex_of_mem_entityTypes published node]
    exact Bool.false_ne_true

end Published

/-- **Names of complex types lead to types.** In the document of a build that succeeds, every name of
a complex type is the key of a type. This is a complex type exactly if no participant has the
key. -/
theorem build_resolvesComplexTypes {catalogue : Catalogue} {options : BuildOptions}
    {edition : Edition} (built : build catalogue options = .ok edition) :
    ∀ type ∈ edition.document.structuralTypes, ∀ property ∈ type.dataProperties, ∀ key,
      property.complexTypeName? = some key →
        ∃ named, edition.document.type? key = some named ∧
          (named.isComplex = true ↔ key ∉ (options.participants catalogue).map (·.key)) := by
  obtain ⟨draft, published, document, -⟩ := build_published built
  rw [document]
  intro type among property shown key complex
  obtain ⟨named, inside, rfl⟩ := holdsType_iff.mp
    (exists_component_of_complex published among shown complex).1
  refine ⟨named, ?_, isComplex_iff_of_mem published inside⟩
  exact (Keyed.find?_eq_some_iff published.distinctTypes).mpr ⟨inside, rfl⟩

/-- In the sample every name of a complex type leads to a type. -/
theorem build_resolvesComplexTypes_sample :
    ∃ edition, build Sample.catalogue Sample.options = .ok edition ∧
      ∀ type ∈ edition.document.structuralTypes, ∀ property ∈ type.dataProperties, ∀ key,
        property.complexTypeName? = some key →
          ∃ named, edition.document.type? key = some named ∧
            (named.isComplex = true ↔
              key ∉ (Sample.options.participants Sample.catalogue).map (·.key)) := by
  obtain ⟨edition, built⟩ := Sample.exists_edition
  exact ⟨edition, built, build_resolvesComplexTypes built⟩

namespace Shop

/-- A member that embeds a type. -/
def embedding (name : String) (component : Component) : Member :=
  { name := some name, type := component.type, isEmbedded := true, component := some component }

def address : Component :=
  { type := type "Address", members := [number "Zip" "zip", number "House" "house"] }

/-- Addresses as entities, and customers that embed addresses. -/
def addressBook : Catalogue :=
  { entities := [entity "Address" "Id" [], entity "Customer" "Id" [embedding "Address" address]] }

end Shop

/-- The address of customers is said to be of a complex type, but the only type with its key is an
entity type. -/
theorem complexTypeName_of_entity_addressBook :
    ∃ edition, build Shop.addressBook Sample.options = .ok edition ∧
      (∃ type ∈ edition.document.structuralTypes, ∃ property ∈ type.dataProperties,
        property.complexTypeName? = some "Address:#Shop") ∧
      ∀ named ∈ edition.document.structuralTypes, named.key = "Address:#Shop" →
        named.isComplex = false := by
  obtain ⟨edition, built, shown⟩ := exists_edition_of_view
    (fun edition =>
      decide (∃ type ∈ edition.document.structuralTypes, ∃ property ∈ type.dataProperties,
        property.complexTypeName? = some "Address:#Shop") &&
      decide (∀ named ∈ edition.document.structuralTypes, named.key = "Address:#Shop" →
        named.isComplex = false))
    (by decide +kernel : (build Shop.addressBook Sample.options).toOption.map _ = some true)
  obtain ⟨named, entities⟩ := Bool.and_eq_true_iff.mp shown
  exact ⟨edition, built, of_decide_eq_true named, of_decide_eq_true entities⟩

end EntityAtlas

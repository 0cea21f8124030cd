import EntityAtlas.Proofs.BaseTypes

/-!
# The shape of a document

Whatever the catalogue and its hierarchy look like, a build that succeeds gives a document of one
shape (`build_hasShapeOf`): the complex types stand before the entity types, and the entity types
are those of the participants in their order. No two types have one key. The resource names are
those of the entity types, in the same order, and an entity type has a base exactly if the
superclass of its entity takes part. Cycles do no harm, because a base is named and not followed.
-/

set_option autoImplicit false

namespace EntityAtlas

namespace StructuralType

/-- Whether a structural type is an embedded type. -/
def isComplex (type : StructuralType) : Bool :=
  match type.role with
  | .complex => true
  | .entity .. => false

/-- The resource name of an entity type. -/
def resourceName? (type : StructuralType) : Option String :=
  match type.role with
  | .complex => none
  | .entity _ _ resourceName => resourceName

end StructuralType

namespace Document

/-- The complex types of a document, in order. -/
def complexTypes (document : Document) : List StructuralType :=
  document.structuralTypes.filter (·.isComplex)

/-- The entity types of a document, in order. -/
def entityTypes (document : Document) : List StructuralType :=
  document.structuralTypes.filter (!·.isComplex)

/-- A document has the shape that entities give it. -/
structure HasShapeOf (document : Document) (entities : List Entity) : Prop where
  /-- The complex types stand before the entity types. -/
  blocks : document.structuralTypes = document.complexTypes ++ document.entityTypes
  /-- The entity types are those of the entities, one for each and in order. -/
  entityTypes : document.entityTypes.map (·.key) = entities.map (·.key)
  distinctKeys : (document.structuralTypes.map (·.key)).Nodup
  /-- The resource names are those of the entity types, in order. -/
  resources : (document.resources.map fun entry => (some entry.1, entry.2)) =
    document.entityTypes.map fun type => (type.resourceName?, type.key)
  distinctResources : (document.resources.map Prod.fst).Nodup
  /-- A type has a base exactly if it is that of an entity whose superclass is among the entities,
  and then the superclass is the base. -/
  based : ∀ type ∈ document.structuralTypes, ∀ base, type.baseTypeName? = some base ↔
    ∃ entity ∈ entities, entity.key = type.key ∧
      entity.superclass.map (·.key) = some base ∧ base ∈ entities.map (·.key)
  /-- The base of a type is an entity type of the document. -/
  bases : ∀ type ∈ document.structuralTypes, ∀ base, type.baseTypeName? = some base →
    ∃ above ∈ document.entityTypes, above.key = base

end Document

section Published

variable {scope : Scope} {resourceName : TypeExpr → Option String} {done : List Entity}
  {draft : Draft}

/-- The complex types of a draft are those of embedded types. -/
theorem exists_component_of_mem (published : Published scope resourceName done draft)
    {type : StructuralType} (among : type ∈ draft.complexTypes) :
    ∃ component, type = scope.complexType component := by
  obtain ⟨components, complexTypes, -⟩ := published.complexTypes
  obtain ⟨component, -, same⟩ := List.mem_map.mp (complexTypes ▸ among)
  exact ⟨component, same.symm⟩

theorem isComplex_of_mem_complexTypes (published : Published scope resourceName done draft)
    {type : StructuralType} (among : type ∈ draft.complexTypes) : type.isComplex = true := by
  obtain ⟨component, rfl⟩ := exists_component_of_mem published among
  rfl

theorem isComplex_of_mem_entityTypes (published : Published scope resourceName done draft)
    {type : StructuralType} (among : type ∈ draft.entityTypes) : type.isComplex = false := by
  rw [published.entityTypes] at among
  obtain ⟨entity, -, rfl⟩ := List.mem_map.mp among
  rfl

/-- The complex types of the document are those of the draft. -/
theorem complexTypes_document (published : Published scope resourceName done draft)
    (comparisonOptions : String) :
    (draft.document comparisonOptions).complexTypes = draft.complexTypes := by
  have complex : draft.complexTypes.filter (·.isComplex) = draft.complexTypes :=
    List.filter_eq_self.mpr fun _ among => isComplex_of_mem_complexTypes published among
  have others : draft.entityTypes.filter (·.isComplex) = [] :=
    List.filter_eq_nil_iff.mpr fun _ among => by
      simp [isComplex_of_mem_entityTypes published among]
  rw [Document.complexTypes, Draft.document, Draft.structuralTypes, List.filter_append, complex,
    others, List.append_nil]

/-- The entity types of the document are those of the draft. -/
theorem entityTypes_document (published : Published scope resourceName done draft)
    (comparisonOptions : String) :
    (draft.document comparisonOptions).entityTypes = draft.entityTypes := by
  have complex : draft.complexTypes.filter (!·.isComplex) = [] :=
    List.filter_eq_nil_iff.mpr fun _ among => by
      simp [isComplex_of_mem_complexTypes published among]
  have others : draft.entityTypes.filter (!·.isComplex) = draft.entityTypes :=
    List.filter_eq_self.mpr fun _ among => by
      simp [isComplex_of_mem_entityTypes published among]
  rw [Document.entityTypes, Draft.document, Draft.structuralTypes, List.filter_append, complex,
    others, List.nil_append]

/-- The resource names in the draft are those of its entity types. -/
theorem resources_eq_entityTypes (published : Published scope resourceName done draft) :
    (draft.resources.map fun entry => (some entry.1, entry.2)) =
      draft.entityTypes.map fun type => (type.resourceName?, type.key) := by
  rw [published.resources, published.entityTypes, List.map_map, List.map_map]
  apply List.map_congr_left
  intro entity among
  obtain ⟨name, named⟩ := Option.isSome_iff_exists.mp (published.named entity among)
  show (some ((resourceName entity.type).getD ""), entity.key) =
    (resourceName entity.type, entity.key)
  rw [named, Option.getD_some]

end Published

section Builds

variable {catalogue : Catalogue} {options : BuildOptions}

/-- The base of the entity type of an entity is its superclass, if that takes part. -/
theorem baseTypeName?_node_eq_some_iff (entity : Entity) (resource : Option String)
    {base : String} :
    ((options.scope catalogue).node entity resource).baseTypeName? = some base ↔
      entity.superclass.map (·.key) = some base ∧
        base ∈ (options.participants catalogue).map (·.key) := by
  show (entity.superclass.map (·.key)).filter (options.scope catalogue).includes = some base ↔ _
  rw [Option.filter_eq_some_iff]
  exact and_congr_right fun _ => List.contains_iff_mem

/-- The base of a type in the draft is the superclass of the entity with its key. -/
theorem baseTypeName?_eq_some_iff {draft : Draft}
    (published : Published (options.scope catalogue) options.resourceName
      (options.participants catalogue) draft)
    {type : StructuralType} (among : type ∈ draft.structuralTypes) {base : String} :
    type.baseTypeName? = some base ↔
      ∃ entity ∈ options.participants catalogue, entity.key = type.key ∧
        entity.superclass.map (·.key) = some base ∧
        base ∈ (options.participants catalogue).map (·.key) := by
  rcases List.mem_append.mp among with complex | node
  · have distinct := published.distinctTypes
    rw [Draft.structuralTypes, List.map_append, List.nodup_append] at distinct
    have taken : type.key ∈ draft.complexTypes.map (·.key) := List.mem_map_of_mem complex
    obtain ⟨component, rfl⟩ := exists_component_of_mem published complex
    constructor
    · intro based
      cases based
    · -- No participant has the key of a complex type.
      rintro ⟨entity, included, same, -⟩
      refine (distinct.2.2 _ taken entity.key ?_ same.symm).elim
      rw [published.entityTypes]
      exact List.mem_map_of_mem (List.mem_map_of_mem included)
  · rw [published.entityTypes] at node
    obtain ⟨entity, included, rfl⟩ := List.mem_map.mp node
    rw [baseTypeName?_node_eq_some_iff]
    constructor
    · exact fun based => ⟨entity, included, rfl, based⟩
    · rintro ⟨other, amongOthers, same, based⟩
      rwa [List.inj_on_of_nodup_map published.distinctKeys amongOthers included same] at based

/-- **The shape of a document.** The document of a build that succeeds has the shape that the
participants give it. -/
theorem build_hasShapeOf {edition : Edition} (built : build catalogue options = .ok edition) :
    edition.document.HasShapeOf (options.participants catalogue) := by
  obtain ⟨draft, published, document, -⟩ := build_published built
  rw [document]
  have complexTypes := complexTypes_document published options.comparisonOptions
  have entityTypes := entityTypes_document published options.comparisonOptions
  have keys : draft.entityTypes.map (·.key) =
      (options.participants catalogue).map (·.key) := by
    rw [published.entityTypes, List.map_map]
    rfl
  exact {
    blocks := by
      rw [complexTypes, entityTypes]
      rfl
    entityTypes := by rw [entityTypes, keys]
    distinctKeys := published.distinctTypes
    resources := by
      rw [entityTypes]
      exact resources_eq_entityTypes published
    distinctResources := published.distinctResources
    based := fun type among base => baseTypeName?_eq_some_iff published among
    bases := fun type among base based => by
      obtain ⟨-, -, -, -, included⟩ := (baseTypeName?_eq_some_iff published among).mp based
      rw [entityTypes]
      exact List.mem_map.mp (keys ▸ included) }

end Builds

/-- The document of the sample has the shape of its entities. -/
theorem build_hasShapeOf_sample : ∃ edition, build Sample.catalogue Sample.options = .ok edition ∧
    edition.document.HasShapeOf (Sample.options.participants Sample.catalogue) := by
  obtain ⟨edition, built⟩ := Sample.exists_edition
  exact ⟨edition, built, build_hasShapeOf built⟩

end EntityAtlas

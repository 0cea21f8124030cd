import EntityAtlas.Proofs.AlikeScopes
import EntityAtlas.Proofs.Coherence

/-!
# Builds in another order

The entities of a coherent catalogue may come in any order: the build succeeds or is refused all the
same, and its documents have the same contents (`build_perm`). Nothing that one entity leaves behind
changes what the others come to.
-/

set_option autoImplicit false

namespace EntityAtlas

/-- Two documents say the same, in whatever order. -/
structure Document.SameContents (document other : Document) : Prop where
  comparisonOptions : document.comparisonOptions = other.comparisonOptions
  structuralTypes : document.structuralTypes.Perm other.structuralTypes
  types : ∀ key, document.type? key = other.type? key
  enumTypes : document.enumTypes.Perm other.enumTypes
  resources : document.resources.Perm other.resources
  resourceKeys : ∀ name, document.resources.lookup name = other.resources.lookup name
  foreignKeys : document.foreignKeys.Perm other.foreignKeys
  foreignKeyColumns : ∀ name, document.foreignKeys.lookup name = other.foreignKeys.lookup name

section Order

variable {catalogue other : Catalogue}

namespace Catalogue

/-- With distinct keys the order of a catalogue does not matter to a lookup. -/
theorem Distinct.find?_eq_of_perm (distinct : catalogue.Distinct)
    (perm : catalogue.entities.Perm other.entities) (key : String) :
    catalogue.find? key = other.find? key := by
  have distinctOther : other.Distinct := (perm.map _).nodup distinct
  ext entity
  rw [distinct.find?_iff, distinctOther.find?_iff, perm.mem_iff]

/-- A coherent catalogue is coherent in any order. -/
theorem Coherent.of_perm (coherent : catalogue.Coherent)
    (perm : catalogue.entities.Perm other.entities) : other.Coherent where
  distinct := (perm.map _).nodup coherent.distinct
  apart component among taken := coherent.apart component
    ((perm.flatMap_right _).mem_iff.mpr among) ((perm.map _).mem_iff.mpr taken)
  alike := coherent.alike.of_subset (perm.flatMap_right _).symm.subset
    (perm.flatMap_right _).symm.subset

end Catalogue

theorem participants_perm (options : BuildOptions)
    (perm : catalogue.entities.Perm other.entities) :
    (options.participants catalogue).Perm (options.participants other) := by
  unfold BuildOptions.participants
  cases options.accepts with
  | none => exact perm
  | some accepts => exact perm.filter _

/-- In another order the surroundings of a build are alike for every entity. -/
theorem alike_of_perm (options : BuildOptions) (distinct : catalogue.Distinct)
    (perm : catalogue.entities.Perm other.entities) (entity : Entity) :
    (options.scope catalogue).Alike (options.scope other) entity := by
  refine .of_includes rfl rfl (distinct.find?_eq_of_perm perm) (fun _ => True) ?_
    (fun _ _ _ _ => trivial) trivial
  intro _ _ base _
  have same := ((participants_perm options perm).map (·.key)).contains_eq (a := base.key)
  exact same

section Drafts

variable {options : BuildOptions} {draft reordered : Draft} (coherent : catalogue.Coherent)
  (perm : catalogue.entities.Perm other.entities)
  (first : Published (options.scope catalogue) options.resourceName
    (options.participants catalogue) draft)
  (second : Published (options.scope other) options.resourceName (options.participants other)
    reordered)

include coherent perm first second

theorem complexTypes_perm : draft.complexTypes.Perm reordered.complexTypes := by
  have embeddedTypes := funext fun entity =>
    (alike_of_perm options coherent.distinct perm entity).embeddedTypes_eq
  have complexType : (options.scope catalogue).complexType = (options.scope other).complexType :=
    Scope.complexType_congr rfl
  rw [List.perm_ext_iff_of_nodup first.nodup_complexTypes second.nodup_complexTypes]
  intro type
  rw [first.mem_complexTypes_iff (coherent.participants options),
    second.mem_complexTypes_iff ((coherent.of_perm perm).participants options), embeddedTypes,
    complexType]
  simp only [((participants_perm options perm).flatMap_right _).mem_iff]

theorem enumTypes_perm : draft.enumTypes.Perm reordered.enumTypes := by
  have mentioned := funext fun entity =>
    (alike_of_perm options coherent.distinct perm entity).mentioned_eq
  rw [List.perm_ext_iff_of_nodup first.nodup_enumTypes second.nodup_enumTypes]
  intro type
  rw [first.mem_enumTypes_iff (coherent.participants options),
    second.mem_enumTypes_iff ((coherent.of_perm perm).participants options), mentioned]
  simp only [((participants_perm options perm).flatMap_right _).mem_iff]

/-- The drafts of two runs over the same entities in another order hold the same. -/
theorem Published.sameContents :
    (draft.document options.comparisonOptions).SameContents
        (reordered.document options.comparisonOptions) ∧
      ∀ key, draft.surrogates.lookup key = reordered.surrogates.lookup key := by
  have entities := participants_perm options perm
  have alike := alike_of_perm options coherent.distinct perm
  have profiles := funext fun entity => (alike entity).profileOf_eq
  have keeps := funext fun entity => (alike entity).keepsSurrogates_eq
  have entityTypes : draft.entityTypes.Perm reordered.entityTypes := by
    rw [first.entityTypes, second.entityTypes]
    simp only [(alike _).node_eq]
    exact entities.map _
  have structuralTypes : draft.structuralTypes.Perm reordered.structuralTypes :=
    (complexTypes_perm coherent perm first second).append entityTypes
  have resources : draft.resources.Perm reordered.resources := by
    rw [first.resources, second.resources]
    exact entities.map _
  have foreignKeys : draft.foreignKeys.Perm reordered.foreignKeys := by
    rw [first.foreignKeys, second.foreignKeys, profiles]
    exact entities.flatMap_right _
  have surrogates : draft.surrogates.Perm reordered.surrogates := by
    rw [first.surrogates, second.surrogates, profiles, keeps]
    exact (entities.filter _).map _
  have types : ∀ key, (draft.document options.comparisonOptions).type? key =
      (reordered.document options.comparisonOptions).type? key := by
    intro key
    ext type
    exact (Keyed.find?_eq_some_iff first.distinctTypes).trans
      ((and_congr_left fun _ => structuralTypes.mem_iff).trans
        (Keyed.find?_eq_some_iff second.distinctTypes).symm)
  exact ⟨⟨rfl, structuralTypes, types, enumTypes_perm coherent perm first second, resources,
    Keyed.lookup_eq_of_perm resources first.distinctResources, foreignKeys,
    Keyed.lookup_eq_of_perm foreignKeys first.distinctForeignKeys⟩,
    Keyed.lookup_eq_of_perm surrogates first.distinctSurrogates⟩

end Drafts

/-- **Entities in any order.** A coherent catalogue is built or refused whatever the order of its
entities, its documents have the same contents, and every type ends with the same surrogates. -/
theorem build_perm (options : BuildOptions) (coherent : catalogue.Coherent)
    (perm : catalogue.entities.Perm other.entities) :
    ((∃ edition, build catalogue options = .ok edition) ↔
        ∃ reordered, build other options = .ok reordered) ∧
      ∀ edition reordered, build catalogue options = .ok edition →
        build other options = .ok reordered →
          edition.document.SameContents reordered.document ∧
            ∀ key, (SurrogateTable.inherited catalogue edition.surrogates).ofKey key =
              (SurrogateTable.inherited other reordered.surrogates).ofKey key := by
  have coherentOther := coherent.of_perm perm
  constructor
  · rw [exists_build_iff coherent, exists_build_iff coherentOther]
    constructor
    · intro publishable
      exact (publishable.congr fun entity _ => alike_of_perm options coherent.distinct perm entity)
        |>.of_perm (participants_perm options perm)
    · intro publishable
      exact (publishable.congr fun entity _ =>
        alike_of_perm options coherentOther.distinct perm.symm entity)
        |>.of_perm (participants_perm options perm.symm)
  · intro edition reordered built rebuilt
    obtain ⟨draft, published, document, surrogates⟩ := build_published built
    obtain ⟨draft', published', document', surrogates'⟩ := build_published rebuilt
    obtain ⟨same, lookups⟩ := Published.sameContents coherent perm published published'
    rw [document, document', surrogates, surrogates']
    refine ⟨same, ?_⟩
    intro key
    rw [SurrogateTable.ofKey_inherited_congr catalogue (lookups key) fun superclass _ =>
      lookups superclass]
    rw [SurrogateTable.ofKey_inherited, SurrogateTable.ofKey_inherited,
      Catalogue.superclassKeys_congr (coherent.distinct.find?_eq_of_perm perm)]

end Order

/-- The sample is built backwards as well, with the same contents. -/
theorem build_perm_sample : ∃ edition reordered,
    build Sample.catalogue Sample.options = .ok edition ∧
      build ⟨Sample.catalogue.entities.reverse⟩ Sample.options = .ok reordered ∧
      edition.document.SameContents reordered.document ∧
      ∀ key, (SurrogateTable.inherited Sample.catalogue edition.surrogates).ofKey key =
        (SurrogateTable.inherited ⟨Sample.catalogue.entities.reverse⟩
          reordered.surrogates).ofKey key := by
  obtain ⟨edition, built⟩ := Sample.exists_edition
  have perm : Sample.catalogue.entities.Perm
      (Catalogue.mk Sample.catalogue.entities.reverse).entities :=
    (List.reverse_perm Sample.catalogue.entities).symm
  obtain ⟨alike, contents⟩ := build_perm Sample.options Sample.coherent_catalogue perm
  obtain ⟨reordered, rebuilt⟩ := alike.mp ⟨edition, built⟩
  exact ⟨edition, reordered, built, rebuilt, contents edition reordered built rebuilt⟩

end EntityAtlas

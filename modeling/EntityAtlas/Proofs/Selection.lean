import EntityAtlas.Proofs.AlikeScopes
import EntityAtlas.Proofs.Coherence
import EntityAtlas.Proofs.Members
import Mathlib.Data.List.Pairwise

/-!
# Builds of selected entities

A filter that accepts the superclasses of what it accepts only leaves out: over a coherent catalogue
the document of the selected entities is the part of the whole document that belongs to them
(`build_selected`). Selected entities inherit as before, and related entities are looked up whether
they are selected or not.
-/

set_option autoImplicit false

namespace EntityAtlas

/-- Whether an entity type of a document has a navigation property to one entity that is recorded
under a name. -/
def Document.records (document : Document) (entity : Entity) (relationship : String) : Bool :=
  (document.type? entity.key).any fun node => node.navigationProperties.any fun navigation =>
    navigation.isScalar && relationshipName entity.type navigation.nameOnServer == relationship

/-- One edition is the part of another that belongs to some entities. -/
structure Edition.IsPartOf (selected whole : Edition) (catalogue : Catalogue)
    (entities : List Entity) : Prop where
  comparisonOptions : selected.document.comparisonOptions = whole.document.comparisonOptions
  nodes : ∀ entity ∈ entities, ∃ node,
    selected.document.type? entity.key = some node ∧ whole.document.type? entity.key = some node
  structuralTypes : selected.document.structuralTypes ⊆ whole.document.structuralTypes
  enumTypes : selected.document.enumTypes ⊆ whole.document.enumTypes
  resources : selected.document.resources =
    whole.document.resources.filter fun entry => (entities.map (·.key)).contains entry.2
  foreignKeys : selected.document.foreignKeys =
    whole.document.foreignKeys.filter fun entry =>
      entities.any fun entity => whole.document.records entity entry.1
  surrogates : ∀ entity ∈ entities,
    (SurrogateTable.inherited catalogue selected.surrogates).ofKey entity.key =
      (SurrogateTable.inherited catalogue whole.surrogates).ofKey entity.key

/-- A filter accepts with every entity its mapped superclass. -/
def Catalogue.ClosedUpwards (catalogue : Catalogue) (accepts : Option String → Bool) : Prop :=
  ∀ entity ∈ catalogue.entities, accepts entity.mappedClass = true →
    ∀ parent ∈ catalogue.entities, entity.superclass.map (·.key) = some parent.key →
      accepts parent.mappedClass = true

section Filtering

variable {catalogue : Catalogue} {options : BuildOptions} {accepts : Option String → Bool}

/-- The options that let all entities take part. -/
def BuildOptions.whole (options : BuildOptions) : BuildOptions := { options with accepts := none }

/-- The options that let the accepted entities take part. -/
def BuildOptions.selecting (options : BuildOptions) (accepts : Option String → Bool) :
    BuildOptions := { options with accepts := some accepts }

theorem Catalogue.ClosedUpwards.parent? (closed : catalogue.ClosedUpwards accepts)
    {entity parent : Entity}
    (here : entity ∈ catalogue.entities ∧ accepts entity.mappedClass = true)
    (leads : catalogue.parent? entity = some parent) :
    parent ∈ catalogue.entities ∧ accepts parent.mappedClass = true := by
  obtain ⟨base, based, found⟩ := Option.bind_eq_some_iff.mp leads
  refine ⟨mem_of_find? found, closed entity here.1 here.2 parent (mem_of_find? found) ?_⟩
  rw [based, Option.map_some, key_of_find? found]

/-- For an accepted entity it makes no difference whether the others take part. -/
theorem alike_of_accepted (options : BuildOptions) (closed : catalogue.ClosedUpwards accepts)
    {entity : Entity} (among : entity ∈ catalogue.entities)
    (accepted : accepts entity.mappedClass = true) :
    (options.whole.scope catalogue).Alike ((options.selecting accepts).scope catalogue) entity := by
  refine .of_includes rfl rfl (fun _ => rfl)
    (fun entity => entity ∈ catalogue.entities ∧ accepts entity.mappedClass = true) ?_
    (fun entity here parent leads => closed.parent? here leads) ⟨among, accepted⟩
  intro entity ⟨among, accepted⟩ base based
  rw [Bool.eq_iff_iff]
  show (catalogue.entities.map (·.key)).contains base.key = true ↔
    ((catalogue.entities.filter fun entity => accepts entity.mappedClass).map (·.key)).contains
      base.key = true
  simp only [List.contains_iff_mem]
  constructor
  · intro known
    obtain ⟨parent, inside, same⟩ := List.mem_map.mp known
    refine List.mem_map.mpr ⟨parent, List.mem_filter.mpr ⟨inside, ?_⟩, same⟩
    exact closed entity among accepted parent inside (by rw [based, Option.map_some, same])
  · exact fun known => List.map_subset _ List.filter_sublist.subset known

/-- Filtering what items contribute is filtering the items, if the filter tells their contributions
apart. -/
theorem filter_flatMap {α β : Type} {items : List α} {contributes : α → List β} {chosen : α → Bool}
    {keeps : β → Bool} (kept : ∀ item ∈ items, ∀ value ∈ contributes item,
      keeps value = chosen item) :
    (items.flatMap contributes).filter keeps = (items.filter chosen).flatMap contributes := by
  induction items with
  | nil => rfl
  | cons item rest ih =>
      have first := kept item List.mem_cons_self
      rw [List.flatMap_cons, List.filter_append,
        ih fun other among => kept other (List.mem_cons_of_mem _ among)]
      cases choice : chosen item with
      | true =>
          rw [List.filter_cons_of_pos choice, List.flatMap_cons, List.filter_eq_self.mpr]
          exact fun value among => (first value among).trans choice
      | false =>
          rw [List.filter_cons_of_neg (by simp [choice]), List.filter_eq_nil_iff.mpr,
            List.nil_append]
          exact fun value among => by simp [first value among, choice]

/-- The entity type of an entity shows what was recorded of it. -/
theorem records_iff {scope : Scope} {resourceName : TypeExpr → Option String} {done : List Entity}
    {draft : Draft} (published : Published scope resourceName done draft) {entity : Entity}
    (among : entity ∈ done) (comparisonOptions relationship : String) :
    (draft.document comparisonOptions).records entity relationship = true ↔
      relationship ∈ (scope.profileOf entity).entries.map Prod.fst := by
  have profiled := published.profiled entity among
  rw [Document.records, published.type?_of_mem among, Profile.entries,
    entries_of_resolves (profile_resolves profiled).2]
  simp [Scope.node, Profile.navigations, and_assoc]

/-- No two entities of a run have recorded one name. -/
theorem eq_of_recorded {scope : Scope} {resourceName : TypeExpr → Option String}
    {done : List Entity} {draft : Draft} (published : Published scope resourceName done draft)
    {entity other : Entity} (among : entity ∈ done) (amongOther : other ∈ done)
    {relationship : String}
    (recorded : relationship ∈ (scope.profileOf entity).entries.map Prod.fst)
    (recordedOther : relationship ∈ (scope.profileOf other).entries.map Prod.fst) :
    entity = other := by
  have distinct := published.distinctForeignKeys
  rw [published.foreignKeys, List.map_flatMap, List.nodup_flatMap] at distinct
  have symmetric : Std.Symm (Function.onFun List.Disjoint fun entity =>
      (scope.profileOf entity).entries.map Prod.fst) :=
    ⟨fun _ _ disjoint _ first second => disjoint second first⟩
  by_contra apart
  exact distinct.2.forall among amongOther apart recorded recordedOther

section Drafts

variable {draft part : Draft}
  (all : Published (options.whole.scope catalogue) options.whole.resourceName catalogue.entities
    draft)
  (chosen : Published ((options.selecting accepts).scope catalogue)
    (options.selecting accepts).resourceName
    (catalogue.entities.filter fun entity => accepts entity.mappedClass) part)

include all chosen

/-- What is recorded of the accepted entities is what their entity types show. -/
theorem foreignKeys_of_accepted (closed : catalogue.ClosedUpwards accepts)
    (comparisonOptions : String) :
    part.foreignKeys = draft.foreignKeys.filter fun entry =>
      (catalogue.entities.filter fun entity => accepts entity.mappedClass).any fun entity =>
        (draft.document comparisonOptions).records entity entry.1 := by
  rw [all.foreignKeys, chosen.foreignKeys]
  have profiles : ((catalogue.entities.filter fun entity => accepts entity.mappedClass).flatMap
      fun entity => (((options.selecting accepts).scope catalogue).profileOf entity).entries) =
        (catalogue.entities.filter fun entity => accepts entity.mappedClass).flatMap
          fun entity => ((options.whole.scope catalogue).profileOf entity).entries := by
    apply List.flatMap_congr
    intro entity among
    obtain ⟨among, accepted⟩ := List.mem_filter.mp among
    rw [(alike_of_accepted options closed among accepted).profileOf_eq]
  rw [profiles]
  refine (filter_flatMap fun entity among entry recorded => ?_).symm
  have own := List.mem_map_of_mem (f := Prod.fst) recorded
  rw [Bool.eq_iff_iff, List.any_eq_true]
  constructor
  · rintro ⟨other, inside, records⟩
    obtain ⟨amongOther, accepted⟩ := List.mem_filter.mp inside
    rw [records_iff all amongOther] at records
    rw [eq_of_recorded all among amongOther own records]
    exact accepted
  · intro accepted
    exact ⟨entity, List.mem_filter.mpr ⟨among, accepted⟩, (records_iff all among _ _).mpr own⟩

/-- The resource names of the accepted entities are those with their keys. -/
theorem resources_of_accepted (distinct : catalogue.Distinct) :
    part.resources = draft.resources.filter fun entry =>
      ((catalogue.entities.filter fun entity => accepts entity.mappedClass).map
        (·.key)).contains entry.2 := by
  rw [all.resources, chosen.resources, List.filter_map]
  refine congrArg (List.map _) (List.filter_congr fun entity among => ?_)
  rw [Bool.eq_iff_iff, Function.comp, List.contains_iff_mem, List.mem_map]
  constructor
  · exact fun accepted => ⟨entity, List.mem_filter.mpr ⟨among, accepted⟩, rfl⟩
  · rintro ⟨other, inside, same⟩
    obtain ⟨amongOther, accepted⟩ := List.mem_filter.mp inside
    rw [← List.inj_on_of_nodup_map distinct amongOther among same]
    exact accepted

/-- The embedded types and enumerations of the accepted entities are among those of the whole. -/
theorem types_of_accepted (coherent : catalogue.Coherent)
    (closed : catalogue.ClosedUpwards accepts) :
    part.structuralTypes ⊆ draft.structuralTypes ∧ part.enumTypes ⊆ draft.enumTypes := by
  have alike : ∀ entity ∈ catalogue.entities.filter fun entity => accepts entity.mappedClass,
      entity ∈ catalogue.entities ∧ (options.whole.scope catalogue).Alike
        ((options.selecting accepts).scope catalogue) entity := fun entity inside =>
    ⟨(List.mem_filter.mp inside).1, alike_of_accepted options closed (List.mem_filter.mp inside).1
      (List.mem_filter.mp inside).2⟩
  constructor
  · intro type inside
    rcases List.mem_append.mp inside with complex | node
    · obtain ⟨component, embedded, rfl⟩ := (chosen.mem_complexTypes_iff
        (coherent.participants (options.selecting accepts)) type).mp complex
      obtain ⟨entity, among, own⟩ := List.mem_flatMap.mp embedded
      obtain ⟨among, same⟩ := alike entity among
      refine List.mem_append_left _ ((all.mem_complexTypes_iff
        (coherent.participants options.whole) _).mpr
          ⟨component, List.mem_flatMap.mpr ⟨entity, among, same.embeddedTypes_eq ▸ own⟩, ?_⟩)
      rw [Scope.complexType_congr same.overrides]
    · rw [chosen.entityTypes] at node
      obtain ⟨entity, among, rfl⟩ := List.mem_map.mp node
      obtain ⟨among, same⟩ := alike entity among
      refine List.mem_append_right _ (all.entityTypes ▸ ?_)
      rw [← same.node_eq]
      exact List.mem_map_of_mem among
  · intro type inside
    obtain ⟨enumeration, mentions, rfl⟩ := (chosen.mem_enumTypes_iff
      (coherent.participants (options.selecting accepts)) type).mp inside
    obtain ⟨entity, among, own⟩ := List.mem_flatMap.mp mentions
    obtain ⟨among, same⟩ := alike entity among
    exact (all.mem_enumTypes_iff (coherent.participants options.whole) _).mpr
        ⟨enumeration, List.mem_flatMap.mpr ⟨entity, among, same.mentioned_eq ▸ own⟩, rfl⟩

/-- The surrogates of a type are those of the whole if no entity of its key is left out. -/
theorem surrogates_of_accepted (distinct : catalogue.Distinct)
    (closed : catalogue.ClosedUpwards accepts) {key : String}
    (known : ∀ entity, catalogue.find? key = some entity → accepts entity.mappedClass = true) :
    part.surrogates.lookup key = draft.surrogates.lookup key := by
  ext made
  rw [Keyed.lookup_eq_some_iff chosen.distinctSurrogates,
    Keyed.lookup_eq_some_iff all.distinctSurrogates, chosen.surrogates, all.surrogates]
  simp only [List.mem_map, List.mem_filter, Prod.mk.injEq]
  constructor
  · rintro ⟨entity, ⟨⟨among, accepted⟩, keeps⟩, keyed, same⟩
    have alike := alike_of_accepted options closed among accepted
    exact ⟨entity, ⟨among, alike.keepsSurrogates_eq ▸ keeps⟩, keyed, alike.profileOf_eq ▸ same⟩
  · rintro ⟨entity, ⟨among, keeps⟩, keyed, same⟩
    have accepted := known entity (distinct.find?_iff.mpr ⟨among, keyed⟩)
    have alike := alike_of_accepted options closed among accepted
    exact ⟨entity, ⟨⟨among, accepted⟩, alike.keepsSurrogates_eq ▸ keeps⟩, keyed,
      alike.profileOf_eq ▸ same⟩

/-- The surrogates that an accepted entity has or takes over are those of the whole. -/
theorem ofKey_of_accepted (distinct : catalogue.Distinct)
    (closed : catalogue.ClosedUpwards accepts) {entity : Entity}
    (among : entity ∈ catalogue.entities) (accepted : accepts entity.mappedClass = true) :
    (SurrogateTable.inherited catalogue part.surrogates).ofKey entity.key =
      (SurrogateTable.inherited catalogue draft.surrogates).ofKey entity.key := by
  have itself := distinct.find?_self among
  apply SurrogateTable.ofKey_inherited_congr
  · apply surrogates_of_accepted all chosen distinct closed
    intro other found
    obtain rfl := Option.some.inj (itself.symm.trans found)
    exact accepted
  · intro superclass above
    apply surrogates_of_accepted all chosen distinct closed
    intro ancestor found
    rw [Catalogue.superclassKeys, itself] at above
    exact (Catalogue.of_mem_superclassKeysFrom
      (fun entity => entity ∈ catalogue.entities ∧ accepts entity.mappedClass = true)
      (fun entity here parent leads => closed.parent? here leads) ⟨among, accepted⟩ above found).2

end Drafts

/-- **Filtering is projection.** If a coherent catalogue is built as a whole, then so is any part
of it that is closed upwards, and the edition of the part is the part of the whole edition. -/
theorem build_selected (options : BuildOptions) (coherent : catalogue.Coherent)
    (closed : catalogue.ClosedUpwards accepts) {whole : Edition}
    (built : build catalogue options.whole = .ok whole) :
    ∃ selected, build catalogue (options.selecting accepts) = .ok selected ∧
      selected.IsPartOf whole catalogue ((options.selecting accepts).participants catalogue) := by
  have alike : ∀ entity ∈ (options.selecting accepts).participants catalogue,
      (options.whole.scope catalogue).Alike ((options.selecting accepts).scope catalogue) entity :=
    fun entity chosen => alike_of_accepted options closed (List.mem_filter.mp chosen).1
      (List.mem_filter.mp chosen).2
  have sublist : ((options.selecting accepts).participants catalogue).Sublist
      (options.whole.participants catalogue) := List.filter_sublist
  have publishable :=
    (((exists_build_iff coherent).mp ⟨whole, built⟩).of_sublist sublist).congr alike
  obtain ⟨selected, rebuilt⟩ := (exists_build_iff coherent).mpr publishable
  refine ⟨selected, rebuilt, ?_⟩
  obtain ⟨draft, all, document, surrogates⟩ := build_published built
  obtain ⟨part, chosen, documentPart, surrogatesPart⟩ := build_published rebuilt
  obtain ⟨structuralTypes, enumTypes⟩ := types_of_accepted all chosen coherent closed
  exact {
    comparisonOptions := by rw [document, documentPart]; rfl
    nodes := fun entity among => by
      refine ⟨_, documentPart ▸ chosen.type?_of_mem among _, ?_⟩
      rw [document, all.type?_of_mem (sublist.mem among), (alike entity among).node_eq]
      rfl
    structuralTypes := by
      rw [document, documentPart]
      exact structuralTypes
    enumTypes := by
      rw [document, documentPart]
      exact enumTypes
    resources := by
      rw [document, documentPart]
      exact resources_of_accepted all chosen coherent.distinct
    foreignKeys := by
      rw [document, documentPart]
      exact foreignKeys_of_accepted all chosen closed _
    surrogates := fun entity among => by
      rw [surrogates, surrogatesPart]
      exact ofKey_of_accepted all chosen coherent.distinct closed (List.mem_filter.mp among).1
        (List.mem_filter.mp among).2 }

end Filtering

/-- A filter for the employees of the sample. -/
def Sample.isEmployee (mappedClass : Option String) : Bool :=
  [some "models.employee.Employee", some "models.employee.Manager"].contains mappedClass

/-- The part of the sample that is about employees. -/
theorem build_selected_sample : ∃ whole selected,
    build Sample.catalogue Sample.options.whole = .ok whole ∧
      build Sample.catalogue (Sample.options.selecting Sample.isEmployee) = .ok selected ∧
      selected.IsPartOf whole Sample.catalogue
        ((Sample.options.selecting Sample.isEmployee).participants Sample.catalogue) := by
  obtain ⟨whole, built⟩ := Sample.exists_edition
  have closed : Sample.catalogue.ClosedUpwards Sample.isEmployee := by
    unfold Catalogue.ClosedUpwards
    decide +kernel
  obtain ⟨selected, rebuilt, part⟩ :=
    build_selected Sample.options Sample.coherent_catalogue closed built
  exact ⟨whole, selected, built, rebuilt, part⟩

end EntityAtlas

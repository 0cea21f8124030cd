import EntityAtlas.Proofs.BaseTypes
import EntityAtlas.Proofs.Members
import Mathlib.Algebra.GroupWithZero.Nat

/-!
# Inherited members

A member that several entities of a hierarchy declare is shown by one of them: the farthest ancestor
that takes part and declares it. Whether an entity shows a name is settled by its ancestors alone
(`count_shown`), and along a walk to the root the names add up to one (`declared_once`).
-/

set_option autoImplicit false

namespace EntityAtlas

/-! ## Names -/

namespace Entity

/-- The names that an entity declares, those of its identifier included. -/
def declaredNames (entity : Entity) : List (Option String) :=
  entity.memberNames ++ entity.identifierNames

/-- No name of an entity is missing or empty, no two are the same, and a composite identifier has
none of its own. -/
structure WellNamed (entity : Entity) : Prop where
  present : none ∉ entity.declaredNames
  nonempty : some "" ∉ entity.declaredNames
  distinct : entity.declaredNames.Nodup
  unnamed : entity.keyParts?.isSome → entity.identifierName? = none

theorem WellNamed.exists_text {entity : Entity} (named : entity.WellNamed) {name : Option String}
    (declared : name ∈ entity.declaredNames) : ∃ text, name = some text ∧ text ≠ "" := by
  cases name with
  | none => exact (named.present declared).elim
  | some text => exact ⟨text, rfl, fun empty => named.nonempty (empty ▸ declared)⟩

end Entity

/-- Overrides that leave no member out. -/
def Overrides.KeepMembers (overrides : Overrides) : Prop :=
  ∀ type ∈ overrides.types, ∀ member ∈ type.2.members, member.2.ignored.holds = false

theorem ignored_of_keepMembers {overrides : Overrides} (keeps : overrides.KeepMembers)
    (type : TypeExpr) (name : Option String) :
    (overrides.ofMember type name).ignored.holds = false := by
  cases name with
  | none => rfl
  | some name =>
      show ((((overrides.types.lookup type.key).getD {}).members.lookup
        name).getD {}).ignored.holds = false
      cases ofType : overrides.types.lookup type.key with
      | none => rfl
      | some override =>
          rw [Option.getD_some]
          cases ofMember : override.members.lookup name with
          | none => rfl
          | some member =>
              exact keeps _ (Keyed.mem_of_lookup ofType) _ (Keyed.mem_of_lookup ofMember)

/-- How often a structural type shows a name: as a data property that has a mapping, or as a
navigation property. -/
def StructuralType.shows (type : StructuralType) (name : Option String) : Nat :=
  (mappedNames type.dataProperties).count name +
    (type.navigationProperties.map (·.nameOnServer)).count name

/-- How often the type with a key shows a name. -/
def Document.shows (document : Document) (key : String) (name : Option String) : Nat :=
  ((document.type? key).map (·.shows name)).getD 0

/-! ## One entity -/

/-- Members are sorted by their kind, and those of inherited names are passed over. -/
theorem count_sorted (inherited : List (Option String)) (members : List Member)
    (name : Option String) :
    ((members.filter fun member =>
        !inherited.contains member.name && !member.isAssociation).map (·.name)).count name +
      ((members.filter fun member =>
        !inherited.contains member.name && member.isAssociation).map (·.name)).count name =
      if name ∈ inherited then 0 else (members.map (·.name)).count name := by
  induction members with
  | nil => simp
  | cons member rest ih =>
      cases passed : inherited.contains member.name with
      | true =>
          rw [List.filter_cons_of_neg (by simp only [passed]; simp),
            List.filter_cons_of_neg (by simp only [passed]; simp), ih]
          split
          next => rfl
          next own =>
            have apart : member.name ≠ name := fun same =>
              own (same ▸ List.contains_iff_mem.mp passed)
            rw [List.map_cons, List.count_cons_of_ne apart]
      | false =>
          have fresh : member.name ∉ inherited := by simpa using passed
          have counted : (if name ∈ inherited then 0
              else ((member :: rest).map (·.name)).count name) =
                (if name ∈ inherited then 0 else (rest.map (·.name)).count name) +
                  if member.name == name then 1 else 0 := by
            rw [List.map_cons, List.count_cons]
            split
            next own =>
              have apart : member.name ≠ name := fun same => fresh (same ▸ own)
              simp [apart]
            next => rfl
          rw [counted, ← ih]
          cases association : member.isAssociation with
          | true =>
              rw [List.filter_cons_of_neg (by simp [association]),
                List.filter_cons_of_pos (by simp only [passed, association]; rfl), List.map_cons,
                List.count_cons, Nat.add_assoc]
          | false =>
              rw [List.filter_cons_of_pos (by simp only [passed, association]; rfl),
                List.filter_cons_of_neg (by simp [association]), List.map_cons, List.count_cons]
              omega

section Entity

variable {scope : Scope} {entity : Entity} {name : Option String}

theorem count_members (keeps : scope.overrides.KeepMembers) (entity : Entity)
    (name : Option String) :
    ((scope.dataMembers entity).map (·.name)).count name +
        ((scope.linkMembers entity).map (·.name)).count name =
      if name ∈ scope.inheritedNames entity then 0 else entity.memberNames.count name := by
  rw [Entity.memberNames, ← count_sorted]
  congr 3
  · apply List.filter_congr
    intro member _
    simp [Scope.publishesData, ignored_of_keepMembers keeps]
  · apply List.filter_congr
    intro member _
    simp [Scope.publishesLink, ignored_of_keepMembers keeps, Bool.and_comm]

/-- The identifier or its parts are sorted like members. -/
theorem count_identifier (scope : Scope) (named : entity.WellNamed)
    (present : ∃ text, name = some text ∧ text ≠ "") :
    ((scope.keyMembers entity).map (·.name)).count name +
        ((scope.keyLinks entity).map (·.name)).count name =
      if name ∈ scope.inheritedNames entity then 0 else entity.identifierNames.count name := by
  unfold Scope.keyMembers Scope.keyLinks Entity.identifierNames
  cases parted : entity.keyParts? with
  | some parts =>
      obtain ⟨identifier, identified⟩ : ∃ identifier, entity.identifier = some identifier := by
        cases identified : entity.identifier with
        | none => simp [Entity.keyParts?, identified] at parted
        | some identifier => exact ⟨identifier, rfl⟩
      rw [named.unnamed (by simp [parted])]
      simp only [identified, Option.getD_some, Option.map_none, Option.toList_none, List.nil_append]
      rw [← count_sorted]
      rfl
  | none =>
      simp only [Option.getD_none, List.filter_nil, List.map_nil, List.count_nil, Nat.add_zero,
        List.append_nil]
      cases identified : entity.identifier with
      | none => simp [Entity.identifierName?, identified]
      | some identifier =>
          simp only [Entity.identifierName?, identified]
          by_cases same : identifier.name = name
          · obtain ⟨text, rfl, nonempty⟩ := present
            have kept : (some text).filter (· ≠ "") = some text := by simp [nonempty]
            rw [same, kept]
            by_cases inherited : some text ∈ scope.inheritedNames entity <;> simp [inherited, same]
          · have others : ((identifier.name.filter (· ≠ "")).map some).toList.count name = 0 := by
              rw [List.count_eq_zero]
              cases own : identifier.name with
              | none => simp
              | some text => grind
            rw [others, ite_self]
            split
            next => rfl
            next => simp [same]

/-- **What one entity shows.** A name that it declares, unless an ancestor that takes part does. -/
theorem count_shown {profile : Profile} (profiled : scope.profile entity = .ok profile)
    (keeps : scope.overrides.KeepMembers) (named : entity.WellNamed)
    (present : ∃ text, name = some text ∧ text ≠ "") :
    (mappedNames profile.properties).count name +
        (profile.navigations.map (·.nameOnServer)).count name =
      if name ∈ scope.inheritedNames entity then 0 else entity.declaredNames.count name := by
  obtain ⟨mapped, resolves⟩ := profile_resolves profiled
  have members := count_members keeps entity name
  have identifier := count_identifier scope named present
  rw [mapped.count_eq, Profile.navigations, navigations_of_resolves resolves, List.map_append,
    List.map_append, List.count_append, List.count_append, Entity.declaredNames, List.count_append]
  split
  next inherited =>
    rw [if_pos inherited] at members identifier
    omega
  next own =>
    rw [if_neg own] at members identifier
    omega

end Entity

/-! ## Along a walk -/

/-- The last item of a list that has a property. -/
theorem exists_last {α : Type} (holds : α → Prop) {items : List α}
    (among : ∃ item ∈ items, holds item) :
    ∃ before last after, items = before ++ last :: after ∧ holds last ∧
      ∀ item ∈ after, ¬ holds item := by
  induction items with
  | nil => simp at among
  | cons item rest ih =>
      by_cases later : ∃ other ∈ rest, holds other
      · obtain ⟨before, last, after, rfl, here, none⟩ := ih later
        exact ⟨item :: before, last, after, rfl, here, none⟩
      · refine ⟨[], item, rest, rfl, ?_, fun other inside here => later ⟨other, inside, here⟩⟩
        obtain ⟨other, inside, here⟩ := among
        rcases List.mem_cons.mp inside with rfl | inside
        · exact here
        · exact (later ⟨other, inside, here⟩).elim

/-- If every entity on a walk shows a name that it declares unless a later one does, the walk shows
the name once. -/
theorem sum_shown {shows : Entity → Nat} {name : Option String} {walk : List Entity}
    (distinct : ∀ entity ∈ walk, entity.declaredNames.Nodup)
    (each : ∀ before entity after, walk = before ++ entity :: after →
      shows entity =
        if name ∈ after.flatMap Entity.declaredNames then 0 else entity.declaredNames.count name) :
    (walk.map shows).sum = if name ∈ walk.flatMap Entity.declaredNames then 1 else 0 := by
  induction walk with
  | nil => rfl
  | cons entity rest ih =>
      have later := ih (fun other inside => distinct other (List.mem_cons_of_mem _ inside))
        fun before other after split => each (entity :: before) other after (by rw [split]; rfl)
      have first := each [] entity rest rfl
      rw [(distinct entity List.mem_cons_self).count] at first
      rw [List.map_cons, List.sum_cons, later, first, List.flatMap_cons]
      simp only [List.mem_append]
      by_cases inherited : name ∈ rest.flatMap Entity.declaredNames <;> simp [inherited]

section Builds

variable {catalogue : Catalogue} {options : BuildOptions} {entity : Entity}

/-- What the entity type of a participant shows. -/
theorem shows_of_published {draft : Draft} {name : Option String}
    (published : Published (options.scope catalogue) options.resourceName
      (options.participants catalogue) draft)
    (included : entity ∈ options.participants catalogue)
    (keeps : options.overrides.KeepMembers) (named : entity.WellNamed)
    (present : ∃ text, name = some text ∧ text ≠ "") (comparisonOptions : String) :
    (draft.document comparisonOptions).shows entity.key name =
      if name ∈ (options.scope catalogue).inheritedNames entity then 0
      else entity.declaredNames.count name := by
  rw [Document.shows, published.type?_of_mem included, Option.map_some, Option.getD_some]
  exact count_shown (published.profiled entity included) keeps named present

/-- **Inherited members are shown once.** Each name that a participant declares is shown once on the
walk from it along its ancestors, by the farthest of them that declares the name, and the links to
base types lead along just these ancestors. -/
theorem declared_once {edition : Edition} (distinct : catalogue.Distinct)
    (acyclic : catalogue.Acyclic) (named : ∀ entity ∈ catalogue.entities, entity.WellNamed)
    (keeps : options.overrides.KeepMembers) (built : build catalogue options = .ok edition)
    (included : entity ∈ options.participants catalogue) :
    (∀ name ∈ entity.declaredNames, ∃ before holder after,
        entity :: (options.scope catalogue).ancestors true entity = before ++ holder :: after ∧
        name ∈ holder.declaredNames ∧ (∀ ancestor ∈ after, name ∉ ancestor.declaredNames) ∧
        edition.document.shows holder.key name = 1 ∧
        ((entity :: (options.scope catalogue).ancestors true entity).map fun shown =>
          edition.document.shows shown.key name).sum = 1) ∧
      edition.document.Climbs entity.key
        (((options.scope catalogue).ancestors true entity).map (·.key)) := by
  obtain ⟨draft, published, document, -⟩ := build_published built
  rw [document]
  refine ⟨?_, climbs_ancestors distinct acyclic published included _⟩
  intro name declared
  have present := (named entity (participants_subset options catalogue included)).exists_text
    declared
  -- On the walk every entity shows what no later one declares.
  have each : ∀ before holder after,
      entity :: (options.scope catalogue).ancestors true entity = before ++ holder :: after →
        holder.WellNamed ∧ (draft.document options.comparisonOptions).shows holder.key name =
          if name ∈ after.flatMap Entity.declaredNames then 0
          else holder.declaredNames.count name := by
    intro before holder after split
    obtain ⟨inside, rfl⟩ := ancestors_of_split distinct acyclic included split
    have wellNamed := named holder (participants_subset options catalogue inside)
    exact ⟨wellNamed, shows_of_published published inside keeps wellNamed present _⟩
  have wellNamed : ∀ shown ∈ entity :: (options.scope catalogue).ancestors true entity,
      shown.WellNamed := by
    intro shown inside
    obtain ⟨before, after, split⟩ := List.append_of_mem inside
    exact (each before shown after split).1
  obtain ⟨before, holder, after, split, holds, farthest⟩ := exists_last
    (fun shown : Entity => name ∈ shown.declaredNames) ⟨entity, List.mem_cons_self, declared⟩
  refine ⟨before, holder, after, split, holds, farthest, ?_, ?_⟩
  · obtain ⟨holderNamed, shows⟩ := each before holder after split
    rw [shows, if_neg, holderNamed.distinct.count, if_pos holds]
    intro inherited
    obtain ⟨ancestor, above, declares⟩ := List.mem_flatMap.mp inherited
    exact farthest ancestor above declares
  · rw [sum_shown (fun shown inside => (wellNamed shown inside).distinct)
      fun before shown after split => (each before shown after split).2, if_pos]
    exact List.mem_flatMap.mpr ⟨entity, List.mem_cons_self, declared⟩

end Builds

/-- In the sample the names of managers are shown once by managers or by employees. -/
theorem declared_once_sample : ∃ edition, build Sample.catalogue Sample.options = .ok edition ∧
    ∀ entity ∈ Sample.catalogue.entities,
      (∀ name ∈ entity.declaredNames, ∃ before holder after,
        entity :: (Sample.options.scope Sample.catalogue).ancestors true entity =
          before ++ holder :: after ∧
        name ∈ holder.declaredNames ∧ (∀ ancestor ∈ after, name ∉ ancestor.declaredNames) ∧
        edition.document.shows holder.key name = 1 ∧
        ((entity :: (Sample.options.scope Sample.catalogue).ancestors true entity).map fun shown =>
          edition.document.shows shown.key name).sum = 1) ∧
      edition.document.Climbs entity.key
        (((Sample.options.scope Sample.catalogue).ancestors true entity).map (·.key)) := by
  obtain ⟨edition, built⟩ := Sample.exists_edition
  have named : ∀ entity ∈ Sample.catalogue.entities,
      (none ∉ entity.declaredNames ∧ some "" ∉ entity.declaredNames) ∧
        entity.declaredNames.Nodup ∧
        (entity.keyParts?.isSome → entity.identifierName? = none) := by
    decide +kernel
  refine ⟨edition, built, ?_⟩
  intro entity included
  refine declared_once Sample.distinct_catalogue Sample.acyclic_catalogue ?_ ?_ built included
  · intro entity among
    obtain ⟨⟨present, nonempty⟩, distinct, unnamed⟩ := named entity among
    exact ⟨present, nonempty, distinct, unnamed⟩
  · intro type among
    cases among

end EntityAtlas

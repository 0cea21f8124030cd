import EntityAtlas.Proofs.ItemByItem
import EntityAtlas.Proofs.SurrogateMembers

/-!
# Where data properties come from

The data properties of an entity have four origins: the members of its key, its other members, the
members that the application declares without a mapping, and the surrogates made for its
associations. A profile holds just these, each once, in an order that does not depend on how key
parts and associations alternate (`properties_marked`). Associations in the key mark some of them as
parts of the key, and change nothing else.
-/

set_option autoImplicit false

namespace EntityAtlas

namespace Scope

/-- The data properties of the members of the key. A single identifier is never null. -/
def keyProperties (scope : Scope) (entity : Entity) : List DataProperty :=
  match entity.identifier, entity.keyParts? with
  | none, _ => []
  | some _, some parts =>
    (parts.filter (scope.publishesPart entity)).map fun part =>
      scope.keyProperty entity part part.nullable
  | some identifier, none =>
    if (scope.inheritedNames entity).contains identifier.name then []
    else [scope.keyProperty entity identifier false]

end Scope

/-! ## Marks of the key -/

/-- A data property afterwards: what it was, or the same made part of the key because it has one of
some names. -/
def DataProperty.MarkedBy (names : List (Option String)) (before after : DataProperty) : Prop :=
  after = before ∨ before.nameOnServer ∈ names ∧ after = { before with isPartOfKey := true }

namespace DataProperty.MarkedBy

variable {names others : List (Option String)} {first second third : DataProperty}

theorem trans (earlier : first.MarkedBy names second) (later : second.MarkedBy names third) :
    first.MarkedBy names third := by
  rcases later with rfl | ⟨named, rfl⟩
  · exact earlier
  · rcases earlier with rfl | ⟨named, rfl⟩
    · exact .inr ⟨named, rfl⟩
    · exact .inr ⟨named, rfl⟩

theorem mono (marked : first.MarkedBy names second) (more : names ⊆ others) :
    first.MarkedBy others second :=
  marked.imp_right fun ⟨named, same⟩ => ⟨more named, same⟩

theorem unmarked_eq (marked : first.MarkedBy names second) : second.unmarked = first.unmarked := by
  rcases marked with rfl | ⟨-, rfl⟩ <;> rfl

theorem nameOnServer_eq (marked : first.MarkedBy names second) :
    second.nameOnServer = first.nameOnServer := by
  rcases marked with rfl | ⟨-, rfl⟩ <;> rfl

theorem isUnmapped_eq (marked : first.MarkedBy names second) :
    second.isUnmapped = first.isUnmapped := by
  rcases marked with rfl | ⟨-, rfl⟩ <;> rfl

/-- What is part of the key afterwards was before, or has one of the names. -/
theorem reason (marked : first.MarkedBy names second) (flagged : second.isPartOfKey = true) :
    first.isPartOfKey = true ∨ second.nameOnServer ∈ names := by
  rcases marked with rfl | ⟨named, rfl⟩
  · exact .inl flagged
  · exact .inr named

theorem flagged (marked : first.MarkedBy names second) (already : first.isPartOfKey = true) :
    second.isPartOfKey = true := by
  rcases marked with rfl | ⟨-, rfl⟩
  · exact already
  · rfl

end DataProperty.MarkedBy

theorem markedBy_self (names : List (Option String)) (properties : List DataProperty) :
    List.Forall₂ (DataProperty.MarkedBy names) properties properties :=
  List.forall₂_same.mpr fun _ _ => .inl rfl

theorem withKeyPart_markedBy {names : List (Option String)} {name : Option String}
    (among : name ∈ names) (properties : List DataProperty) :
    List.Forall₂ (DataProperty.MarkedBy names) properties (withKeyPart name properties) := by
  induction properties with
  | nil => exact .nil
  | cons property rest ih =>
      unfold withKeyPart
      split
      next same => exact .cons (.inr ⟨eq_of_beq same ▸ among, rfl⟩) (markedBy_self names rest)
      next => exact .cons (.inl rfl) ih

/-- Apart from marks all data properties stay as they are. -/
theorem map_unmarked_of_markedBy {names : List (Option String)}
    {properties others : List DataProperty}
    (marked : List.Forall₂ (DataProperty.MarkedBy names) properties others) :
    others.map DataProperty.unmarked = properties.map DataProperty.unmarked := by
  induction marked with
  | nil => rfl
  | cons here _ ih => rw [List.map_cons, List.map_cons, here.unmarked_eq, ih]

/-- What is part of the key already stays as it is. -/
theorem eq_of_markedBy {names : List (Option String)} {properties others : List DataProperty}
    (marked : List.Forall₂ (DataProperty.MarkedBy names) properties others)
    (already : ∀ property ∈ properties, property.isPartOfKey = true) : others = properties := by
  induction marked with
  | nil => rfl
  | cons here _ ih =>
      obtain ⟨first, later⟩ := List.forall_mem_cons.mp already
      rcases here with rfl | ⟨-, rfl⟩
      · rw [ih later]
      · rw [ih later, ← first]

/-- Marking several parts of the key marks nothing else. -/
theorem foldl_markedBy {names marks : List (Option String)} (among : marks ⊆ names)
    (properties : List DataProperty) :
    List.Forall₂ (DataProperty.MarkedBy names) properties
      (marks.foldl (fun properties name => withKeyPart name properties) properties) := by
  induction marks generalizing properties with
  | nil => exact markedBy_self names properties
  | cons mark rest ih =>
      obtain ⟨first, later⟩ := List.cons_subset.mp among
      exact forall₂_trans .trans (withKeyPart_markedBy first properties) (ih later _)

/-- A part of the key adds the data properties of its carrier, and marks what carries it. -/
theorem onto_markedBy {names : List (Option String)} {resolution : Resolution}
    (among : resolution.carrier.names ⊆ names) (properties : List DataProperty) :
    List.Forall₂ (DataProperty.MarkedBy names) (properties ++ resolution.carrier.properties)
      (resolution.onto true properties) :=
  foldl_markedBy among _

/-! ## The steps of a profile -/

/-- An item inserted where the first of two lists ends stands between them. -/
theorem insertIdx_length_append {α : Type} (item : α) (first second : List α) :
    (first ++ second).insertIdx first.length item = first ++ [item] ++ second := by
  induction first with
  | nil => rfl
  | cons head rest ih => simp [ih]

section Steps

variable {scope : Scope} {entity : Entity} {properties final : List DataProperty}
  {resolutions : List Resolution}

/-- Associations add the data properties of their carriers, in order. -/
theorem linkResolutions_properties {members : List Member}
    (planned : scope.linkResolutions entity members properties = .ok (resolutions, final)) :
    final = properties ++ resolutions.flatMap (·.carrier.properties) := by
  induction members generalizing properties resolutions with
  | nil =>
      cases planned
      simp
  | cons member rest ih =>
      simp only [Scope.linkResolutions, except_bind_ok_iff, except_pure_ok_iff, Prod.exists,
        Prod.mk.injEq] at planned
      obtain ⟨resolution, -, resolutions, _, later, rfl, rfl⟩ := planned
      rw [ih later, List.flatMap_cons, ← List.append_assoc]
      rfl

/-- The parts of a composite identifier put the scalar ones among them between what stands in front
already and the rest, and add the data properties of the carriers of the others at the end. -/
theorem partResolutions_marked (front back : List DataProperty) {parts : List Member}
    (planned : scope.partResolutions entity front.length parts (front ++ back) =
      .ok (resolutions, final)) :
    List.Forall₂ (DataProperty.MarkedBy (resolutions.flatMap (·.carrier.names)))
      (front ++ (parts.filter (scope.publishesPart entity)).map (fun part =>
          scope.keyProperty entity part part.nullable) ++
        (back ++ resolutions.flatMap (·.carrier.properties)))
      final := by
  induction parts generalizing front back resolutions with
  | nil =>
      cases planned
      simpa using markedBy_self [] (front ++ back)
  | cons part rest ih =>
      unfold Scope.partResolutions at planned
      cases inherited : (scope.inheritedNames entity).contains part.name with
      | true =>
          rw [inherited, if_pos rfl] at planned
          rw [List.filter_cons_of_neg (by simp only [Scope.publishesPart, inherited]; simp)]
          exact ih front back planned
      | false =>
          rw [inherited, if_neg (by simp)] at planned
          cases association : part.isAssociation with
          | true =>
              rw [association, if_pos rfl] at planned
              simp only [except_bind_ok_iff, except_pure_ok_iff, Prod.exists,
                Prod.mk.injEq] at planned
              obtain ⟨resolution, -, resolutions, _, later, rfl, rfl⟩ := planned
              rw [List.filter_cons_of_neg (by simp [Scope.publishesPart, association]),
                List.flatMap_cons, List.flatMap_cons]
              -- What was in front stays in front, so the position is still right.
              have carried := onto_markedBy (List.subset_append_left resolution.carrier.names
                (resolutions.flatMap (·.carrier.names))) (front ++ back)
              rw [List.append_assoc] at carried
              obtain ⟨front', back', onto, marked, markedBack⟩ := exists_append_of_forall₂ carried
              rw [onto, marked.length_eq] at later
              refine forall₂_trans .trans ?_ ((ih front' back' later).imp fun _ _ kept =>
                kept.mono (List.subset_append_right _ _))
              rw [← List.append_assoc back]
              exact List.rel_append (List.rel_append marked (markedBy_self _ _))
                (List.rel_append markedBack (markedBy_self _ _))
          | false =>
              rw [association, if_neg (by simp), insertIdx_length_append] at planned
              rw [List.filter_cons_of_pos (by
                simp only [Scope.publishesPart, inherited, association]; rfl)]
              have added := ih (front ++ [scope.keyProperty entity part part.nullable]) back
                (by simpa using planned)
              simpa using added

theorem keyResolutions_marked
    (planned : scope.keyResolutions entity properties = .ok (resolutions, final)) :
    List.Forall₂ (DataProperty.MarkedBy (resolutions.flatMap (·.carrier.names)))
      (scope.keyProperties entity ++ (properties ++ resolutions.flatMap (·.carrier.properties)))
      final := by
  unfold Scope.keyResolutions at planned
  unfold Scope.keyProperties
  cases identified : entity.identifier with
  | none =>
      simp only [identified] at planned ⊢
      cases planned
      simpa using markedBy_self [] properties
  | some identifier =>
      cases parted : entity.keyParts? with
      | some parts =>
          simp only [identified, parted] at planned ⊢
          exact partResolutions_marked [] properties planned
      | none =>
          simp only [identified, parted] at planned ⊢
          split at planned
          next inherited =>
            cases planned
            rw [if_pos inherited]
            simpa using markedBy_self [] properties
          next declared =>
            cases planned
            rw [if_neg declared]
            simpa using markedBy_self [] (scope.keyProperty entity identifier false :: properties)

theorem exists_part_of_mem_keyProperties {property : DataProperty}
    (among : property ∈ scope.keyProperties entity) :
    ∃ part isNullable, property = scope.keyProperty entity part isNullable := by
  unfold Scope.keyProperties at among
  split at among
  next => cases among
  next =>
    obtain ⟨part, -, rfl⟩ := List.mem_map.mp among
    exact ⟨part, part.nullable, rfl⟩
  next identifier _ _ =>
    split at among
    next => cases among
    next => exact ⟨identifier, false, List.mem_singleton.mp among⟩

theorem isPartOfKey_of_mem_keyProperties {property : DataProperty}
    (among : property ∈ scope.keyProperties entity) : property.isPartOfKey = true := by
  obtain ⟨_, _, rfl⟩ := exists_part_of_mem_keyProperties among
  rfl

/-- **The data properties of a profile.** Those of the key come first, then those of the other
members, and then those without a mapping: of the carriers of the key, of the custom members and of
the carriers of the other associations. Some may be marked as parts of the key, if associations in
the key name them. -/
theorem properties_marked {profile : Profile} (profiled : scope.profile entity = .ok profile) :
    ∃ keys links members made,
      scope.keyResolutions entity ((scope.dataMembers entity).map (scope.memberProperty entity)) =
        .ok (keys, scope.keyProperties entity ++ (members ++ made)) ∧
      profile.resolutions = keys ++ links ∧
      List.Forall₂ (DataProperty.MarkedBy (keys.flatMap (·.carrier.names)))
        ((scope.dataMembers entity).map (scope.memberProperty entity)) members ∧
      List.Forall₂ (DataProperty.MarkedBy (keys.flatMap (·.carrier.names)))
        (keys.flatMap (·.carrier.properties)) made ∧
      profile.properties = scope.keyProperties entity ++ members ++
        (made ++ customProperties scope entity ++ links.flatMap (·.carrier.properties)) := by
  obtain ⟨keys, marked, links, ofKey, ofLinks, resolutions⟩ := profile_ok_iff.mp profiled
  obtain ⟨key, rest, rfl, sameKey, kept⟩ := exists_append_of_forall₂ (keyResolutions_marked ofKey)
  obtain ⟨members, made, rfl, keptMembers, keptMade⟩ := exists_append_of_forall₂ kept
  obtain rfl := eq_of_markedBy sameKey fun _ => isPartOfKey_of_mem_keyProperties
  refine ⟨keys, links, members, made, ofKey, resolutions, keptMembers, keptMade, ?_⟩
  rw [linkResolutions_properties ofLinks]
  simp only [List.append_assoc]

/-- What an association adds to the data properties is not part of the key as it is made. -/
theorem isPartOfKey_of_resolution
    {association : Member} {resolution : Resolution}
    (comes : scope.resolution entity association properties = .ok resolution) :
    ∀ property ∈ resolution.carrier.properties, property.isPartOfKey = false := by
  intro property among
  obtain ⟨related, columns, -, -, ⟨-, names, -, rfl⟩ | ⟨-, carrier, settled, rfl⟩⟩ :=
    resolution_ok comes
  · cases among
  rcases keyCarrier_ok settled with ⟨_, -, rfl⟩ | ⟨-, ⟨column, -, -, made⟩ | ⟨_, -, -, rfl⟩ | rfl⟩
  · cases among
  · simp only [Scope.surrogateCarrier] at made
    split at made
    next =>
      cases made
      cases among
    next =>
      split at made
      next => cases made
      next =>
        cases made
        rw [List.mem_singleton.mp among]
        rfl
  · cases among
  · cases among

theorem isPartOfKey_customProperties (scope : Scope) (entity : Entity) :
    ∀ property ∈ customProperties scope entity, property.isPartOfKey = false := by
  intro property among
  obtain ⟨_, -, rfl⟩ := List.mem_map.mp among
  rfl

/-- What has no mapping is made as no part of the key, and later at most marked. -/
theorem exists_unmapped_origin {profile : Profile} (profiled : scope.profile entity = .ok profile)
    {keys links : List Resolution} {made : List DataProperty}
    (split : profile.resolutions = keys ++ links)
    (kept : List.Forall₂ (DataProperty.MarkedBy (keys.flatMap (·.carrier.names)))
      (keys.flatMap (·.carrier.properties)) made)
    {property : DataProperty}
    (among : property ∈ made ++ customProperties scope entity ++
      links.flatMap (·.carrier.properties)) :
    ∃ origin : DataProperty, origin.isUnmapped = true ∧ origin.isPartOfKey = false ∧
      origin.MarkedBy (keys.flatMap (·.carrier.names)) property := by
  have carried : ∀ resolution ∈ keys ++ links, ∀ origin ∈ resolution.carrier.properties,
      origin.isUnmapped = true ∧ origin.isPartOfKey = false := by
    intro resolution listed origin inside
    obtain ⟨_, -, _, comes, -⟩ := exists_resolves (profile_resolves profiled).2 (split ▸ listed)
    exact ⟨isUnmapped_of_resolution comes origin inside,
      isPartOfKey_of_resolution comes origin inside⟩
  simp only [List.mem_append, List.mem_flatMap] at among
  rcases among with (surrogate | custom) | ⟨resolution, link, inside⟩
  · obtain ⟨origin, among, marked⟩ := exists_mem_of_forall₂ kept surrogate
    obtain ⟨resolution, key, inside⟩ := List.mem_flatMap.mp among
    obtain ⟨unmapped, unflagged⟩ := carried resolution (List.mem_append_left _ key) origin inside
    exact ⟨origin, unmapped, unflagged, marked⟩
  · exact ⟨property, isUnmapped_customProperties scope entity property custom,
      isPartOfKey_customProperties scope entity property custom, .inl rfl⟩
  · obtain ⟨unmapped, unflagged⟩ :=
      carried resolution (List.mem_append_right _ link) property inside
    exact ⟨property, unmapped, unflagged, .inl rfl⟩

/-- A data property has one of the four origins. -/
theorem exists_origin {profile : Profile} (profiled : scope.profile entity = .ok profile)
    {property : DataProperty} (among : property ∈ profile.properties) :
    ∃ origin, origin.unmarked = property.unmarked ∧
      (origin ∈ scope.keyProperties entity ∨
        (∃ member ∈ scope.dataMembers entity, origin = scope.memberProperty entity member) ∨
        origin ∈ customProperties scope entity ∨
        ∃ resolution ∈ profile.resolutions, origin ∈ resolution.carrier.properties) := by
  obtain ⟨keys, links, members, made, -, resolutions, kept, keptMade, ordered⟩ :=
    properties_marked profiled
  simp only [resolutions, List.mem_append]
  simp only [ordered, List.mem_append] at among
  rcases among with (key | member) | (surrogate | custom) | link
  · exact ⟨property, rfl, .inl key⟩
  · obtain ⟨origin, inside, same⟩ := exists_mem_of_forall₂ kept member
    obtain ⟨member, data, rfl⟩ := List.mem_map.mp inside
    exact ⟨_, same.unmarked_eq.symm, .inr (.inl ⟨member, data, rfl⟩)⟩
  · obtain ⟨origin, inside, same⟩ := exists_mem_of_forall₂ keptMade surrogate
    obtain ⟨resolution, listed, carried⟩ := List.mem_flatMap.mp inside
    exact ⟨origin, same.unmarked_eq.symm, .inr (.inr (.inr ⟨resolution, .inl listed, carried⟩))⟩
  · exact ⟨property, rfl, .inr (.inr (.inl custom))⟩
  · obtain ⟨resolution, listed, carried⟩ := List.mem_flatMap.mp link
    exact ⟨property, rfl, .inr (.inr (.inr ⟨resolution, .inr listed, carried⟩))⟩

end Steps

end EntityAtlas

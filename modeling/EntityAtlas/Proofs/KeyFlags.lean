import EntityAtlas.Proofs.MemberOrder
import Mathlib.Data.List.InsertIdx

/-!
# Flags of the key

A data property is part of the key for one of three reasons: a member of the key became it, its
member is listed in the natural key, or an association in the key names it as a carrier of its
foreign key. The last of these comes late. An association in the key marks data properties by name,
when other parts of the key and all surrogates of later associations are still missing. Where no two
members have one name, this makes no difference to the outcome (`describeEntity_flagsKey`): the
members are all there by then, and what comes in front of them later is part of the key anyway.
-/

set_option autoImplicit false

namespace EntityAtlas

/-! ## Names that are part of the key -/

/-- Whether the first data property with a name is part of the key. -/
def keyNamed (properties : List DataProperty) (name : Option String) : Bool :=
  (findProperty? properties name).any (·.isPartOfKey)

section Names

variable {properties others : List DataProperty} {name : Option String}

theorem keyNamed_cons (property : DataProperty) (rest : List DataProperty)
    (name : Option String) :
    keyNamed (property :: rest) name =
      if property.nameOnServer = name then property.isPartOfKey else keyNamed rest name := by
  unfold keyNamed findProperty?
  by_cases same : property.nameOnServer = name
  · simp [same]
  · have apart : (property.nameOnServer == name) = false := beq_false_of_ne same
    simp [same, apart]

/-- Marking a name marks the first data property that has it. -/
theorem keyNamed_withKeyPart (present : name ∈ properties.map (·.nameOnServer)) :
    keyNamed (withKeyPart name properties) name = true := by
  induction properties with
  | nil => cases present
  | cons property rest ih =>
      unfold withKeyPart
      by_cases same : property.nameOnServer = name
      · simp [same, keyNamed_cons]
      · have later : name ∈ rest.map (·.nameOnServer) := by
          simpa [Ne.symm same] using present
        simp [same, keyNamed_cons, ih later]

/-- No mark is taken back. -/
theorem keyNamed_of_markedBy {names : List (Option String)}
    (marked : List.Forall₂ (DataProperty.MarkedBy names) properties others)
    (already : keyNamed properties name = true) : keyNamed others name = true := by
  induction marked with
  | nil => exact already
  | @cons property other rest others here _ ih =>
      rw [keyNamed_cons] at already ⊢
      rcases here with rfl | ⟨-, rfl⟩
      · split at already
        next same => rw [if_pos same, already]
        next apart => rw [if_neg apart, ih already]
      · split at already
        next same => rw [if_pos same]
        next apart => rw [if_neg apart, ih already]

theorem keyNamed_append (already : keyNamed properties name = true)
    (more : List DataProperty) : keyNamed (properties ++ more) name = true := by
  obtain ⟨property, found, flagged⟩ := (Option.any_eq_true _ _).mp already
  simp only [keyNamed, findProperty?] at found ⊢
  rw [List.find?_append, found, Option.some_or, Option.any_some, flagged]

/-- What is part of the key may be put anywhere. -/
theorem keyNamed_insertIdx {property : DataProperty} (flagged : property.isPartOfKey = true)
    (already : keyNamed properties name = true) (position : Nat) :
    keyNamed (properties.insertIdx position property) name = true := by
  induction properties generalizing position with
  | nil => cases already
  | cons first rest ih =>
      cases position with
      | zero =>
          rw [List.insertIdx_zero, keyNamed_cons]
          split
          next => exact flagged
          next => exact already
      | succ position =>
          rw [List.insertIdx_succ_cons, keyNamed_cons]
          rw [keyNamed_cons] at already
          split at already
          next same => rw [if_pos same, already]
          next apart => rw [if_neg apart, ih already position]

/-- An association in the key marks every name that is there and carries it. -/
theorem keyNamed_foldl {marks : List (Option String)}
    (present : name ∈ properties.map (·.nameOnServer))
    (marked : keyNamed properties name = true ∨ name ∈ marks) :
    keyNamed (marks.foldl (fun properties name => withKeyPart name properties) properties) name =
      true := by
  induction marks generalizing properties with
  | nil => exact marked.resolve_right List.not_mem_nil
  | cons mark rest ih =>
      refine ih (map_nameOnServer_withKeyPart mark properties ▸ present) ?_
      rcases marked with already | among
      · exact .inl (keyNamed_of_markedBy (withKeyPart_markedBy (List.mem_singleton_self mark) _)
          already)
      · rcases List.mem_cons.mp among with rfl | later
        · exact .inl (keyNamed_withKeyPart present)
        · exact .inr later

theorem keyNamed_onto {resolution : Resolution}
    (present : name ∈ properties.map (·.nameOnServer))
    (marked : keyNamed properties name = true ∨ name ∈ resolution.carrier.names) :
    keyNamed (resolution.onto true properties) name = true := by
  refine keyNamed_foldl ?_ (marked.imp_left (keyNamed_append · _))
  rw [List.map_append]
  exact List.mem_append_left _ present

end Names

/-! ## Parts of a composite identifier -/

section Parts

variable {scope : Scope} {entity : Entity} {properties final : List DataProperty}
  {resolutions : List Resolution} {name : Option String}

/-- What is there when the parts of a composite identifier are gone through is part of the key in
the end, if it was before or if an association among the parts names it. -/
theorem keyNamed_partResolutions {position : Nat} {parts : List Member}
    (planned : scope.partResolutions entity position parts properties = .ok (resolutions, final))
    (present : name ∈ properties.map (·.nameOnServer))
    (marked : keyNamed properties name = true ∨
      name ∈ resolutions.flatMap (·.carrier.names)) :
    keyNamed final name = true := by
  induction parts generalizing position properties resolutions with
  | nil =>
      cases planned
      exact marked.resolve_right List.not_mem_nil
  | cons part rest ih =>
      unfold Scope.partResolutions at planned
      split at planned
      next => exact ih planned present marked
      next =>
        split at planned
        next =>
          simp only [except_bind_ok_iff, except_pure_ok_iff, Prod.exists, Prod.mk.injEq] at planned
          obtain ⟨resolution, -, resolutions, _, later, rfl, rfl⟩ := planned
          refine ih later ?_ ?_
          · rw [Resolution.names_onto, List.map_append]
            exact List.mem_append_left _ present
          · rw [List.flatMap_cons, List.mem_append, ← or_assoc] at marked
            exact marked.imp_left (keyNamed_onto present)
        next =>
          -- The part may come in front of what has its name, but it is part of the key itself.
          refine ih planned ?_ (marked.imp_left (keyNamed_insertIdx rfl · position))
          exact List.map_subset _ (List.subset_insertIdx properties position _) present

/-- Only a composite identifier has associations. -/
theorem exists_keyParts_of_ne_nil
    (planned : scope.keyResolutions entity properties = .ok (resolutions, final))
    (resolved : resolutions ≠ []) :
    ∃ parts, entity.keyParts? = some parts ∧
      scope.keyMembers entity = parts.filter (scope.publishesPart entity) ∧
      scope.partResolutions entity 0 parts properties = .ok (resolutions, final) := by
  unfold Scope.keyResolutions at planned
  unfold Scope.keyMembers
  cases identified : entity.identifier with
  | none =>
      rw [identified] at planned
      cases planned
      exact (resolved rfl).elim
  | some identifier =>
      cases parted : entity.keyParts? with
      | some parts =>
          simp only [identified, parted] at planned ⊢
          exact ⟨parts, rfl, rfl, planned⟩
      | none =>
          simp only [identified, parted] at planned
          split at planned
          next =>
            cases planned
            exact (resolved rfl).elim
          next =>
            cases planned
            exact (resolved rfl).elim

/-- The members that become data properties of the key are no other members. -/
theorem nodup_keyMembers_dataMembers {parts : List Member}
    (distinct : (entity.declared.map (·.name)).Nodup) (parted : entity.keyParts? = some parts)
    (keyed : scope.keyMembers entity = parts.filter (scope.publishesPart entity)) :
    ((scope.keyMembers entity ++ scope.dataMembers entity).map (·.name)).Nodup := by
  have swapped : entity.declared.Perm (parts ++ entity.members) := by
    simpa [Entity.declared, parted] using List.perm_append_comm
  have among : (scope.keyMembers entity ++ scope.dataMembers entity).Sublist
      (parts ++ entity.members) := by
    rw [keyed]
    exact List.filter_sublist.append List.filter_sublist
  exact (among.map _).nodup ((swapped.map _).nodup_iff.mp distinct)

end Parts

/-! ## Carriers in the key -/

/-- Whether a navigation property names a member as a carrier of its foreign key. On the other end
it does so only if it leads to one entity. -/
def NavigationProperty.CarriedBy (navigation : NavigationProperty) (name : Option String) : Prop :=
  ∃ names, name ∈ names ∧ (navigation.foreignKeyNames = some names ∨
    navigation.isScalar = true ∧ navigation.inverseForeignKeyNames = some names)

section Carriers

variable {scope : Scope} {entity : Entity} {association : Member}
  {properties : List DataProperty} {resolution : Resolution}

/-- A navigation property names the carriers of its foreign key. -/
theorem mem_carrierNames_iff
    (comes : scope.resolution entity association properties = .ok resolution)
    {name : Option String} :
    name ∈ resolution.carrier.names ↔ resolution.navigation.CarriedBy name := by
  obtain ⟨related, columns, -, -, ⟨collection, names, -, rfl⟩ | ⟨one, carrier, -, rfl⟩⟩ :=
    resolution_ok comes
  · simp [NavigationProperty.CarriedBy, KeyCarrier.names, Scope.navigation, collection]
  · cases onDeclarer : association.keyOnDeclarer <;>
      simp [NavigationProperty.CarriedBy, NavigationProperty.withKeyNames, Scope.navigation, one]

theorem mem_carriersNames_iff {names : List (Option String)} {members : List Member}
    {resolutions : List Resolution}
    (resolves : List.Forall₂ (scope.Resolves entity names) members resolutions)
    {name : Option String} :
    name ∈ resolutions.flatMap (·.carrier.names) ↔
      ∃ navigation ∈ resolutions.map (·.navigation), navigation.CarriedBy name := by
  simp only [List.mem_flatMap, List.mem_map, exists_exists_and_eq_and]
  refine exists_congr fun resolution => and_congr_right fun among => ?_
  obtain ⟨_, -, _, comes, -⟩ := exists_resolves resolves among
  exact mem_carrierNames_iff comes

theorem isPartOfKey_memberProperty_iff (scope : Scope) (entity : Entity) (member : Member) :
    (scope.memberProperty entity member).isPartOfKey = true ↔
      member.embedded? = none ∧ member.name ∈ entity.naturalKey := by
  unfold Scope.memberProperty
  cases embedded : member.embedded? with
  | some component => simp [Scope.embeddedProperty, DataProperty.embedded]
  | none => simp

end Carriers

/-! ## Entities -/

section Entities

variable {scope : Scope} {entity : Entity}

/-- Where members have distinct names, those that an association in the key names become part of the
key. -/
theorem isPartOfKey_of_carried {keys : List Resolution} {members made : List DataProperty}
    (distinct : (entity.declared.map (·.name)).Nodup)
    (planned : scope.keyResolutions entity
      ((scope.dataMembers entity).map (scope.memberProperty entity)) =
        .ok (keys, scope.keyProperties entity ++ (members ++ made)))
    (named : members.map (·.nameOnServer) = (scope.dataMembers entity).map (·.name))
    {property : DataProperty} (among : property ∈ members)
    (carried : property.nameOnServer ∈ keys.flatMap (·.carrier.names)) :
    property.isPartOfKey = true := by
  have associations : keys ≠ [] := by
    rintro rfl
    cases carried
  obtain ⟨parts, parted, keyed, planned⟩ := exists_keyParts_of_ne_nil planned associations
  have present : property.nameOnServer ∈
      ((scope.dataMembers entity).map (scope.memberProperty entity)).map (·.nameOnServer) := by
    rw [names_memberProperties, ← named]
    exact List.mem_map_of_mem among
  have marked := keyNamed_partResolutions planned present (.inr carried)
  have apart : ((scope.keyProperties entity ++ members).map (·.nameOnServer)).Nodup := by
    rw [List.map_append, names_keyProperties, named, ← List.map_append]
    exact nodup_keyMembers_dataMembers distinct parted keyed
  have found : findProperty? (scope.keyProperties entity ++ (members ++ made))
      property.nameOnServer = some property := by
    rw [← List.append_assoc, findProperty?, List.find?_append,
      (Keyed.find?_eq_some_iff apart).mpr ⟨List.mem_append_right _ among, rfl⟩, Option.some_or]
  rwa [keyNamed, found] at marked

/-- **Flags of the key.** Of an entity that is described, where members have distinct names, the
members of the key are part of the key. Another member is if it is listed in the natural key and not
embedded, or if an association in the key names it, and only then. What has no mapping is part of
the key only if an association in the key names it. -/
theorem describeEntity_flagsKey {before after : Draft} {properties : List DataProperty}
    {navigations : List NavigationProperty}
    (described : describeEntity scope entity before = .ok (properties, navigations) after)
    (distinct : (entity.declared.map (·.name)).Nodup) :
    ∃ key members unmapped inKey others,
      properties = key ++ members ++ unmapped ∧ navigations = inKey ++ others ∧
      inKey.map (·.nameOnServer) = (scope.keyLinks entity).map (·.name) ∧
      key.map (·.nameOnServer) = (scope.keyMembers entity).map (·.name) ∧
      (∀ property ∈ key, property.isPartOfKey = true) ∧
      List.Forall₂ (fun (member : Member) property => property.nameOnServer = member.name ∧
          (property.isPartOfKey = true ↔
            (member.embedded? = none ∧ member.name ∈ entity.naturalKey) ∨
              ∃ navigation ∈ inKey, navigation.CarriedBy member.name))
        (scope.dataMembers entity) members ∧
      ∀ property ∈ unmapped, property.isUnmapped = true ∧
        (property.isPartOfKey = true →
          ∃ navigation ∈ inKey, navigation.CarriedBy property.nameOnServer) := by
  obtain ⟨_, _, profile, -, profiled, -, rfl, rfl, -⟩ := describeEntity_ok_iff.mp described
  obtain ⟨keys, links, members, made, planned, resolutions, kept, keptMade, ordered⟩ :=
    properties_marked profiled
  have resolves := (keyResolutions_resolves planned).2.2
  have named : members.map (·.nameOnServer) = (scope.dataMembers entity).map (·.name) :=
    (names_of_markedBy kept).trans (names_memberProperties scope entity)
  have navigated : profile.navigations = keys.map (·.navigation) ++ links.map (·.navigation) := by
    rw [Profile.navigations, resolutions, List.map_append]
  refine ⟨scope.keyProperties entity, members, _, _, _, ordered, navigated,
    navigations_of_resolves resolves, names_keyProperties scope entity,
    fun _ => isPartOfKey_of_mem_keyProperties, ?_, ?_⟩
  · rw [List.forall₂_map_left_iff, List.forall₂_iff_zip] at kept
    refine List.forall₂_iff_zip.mpr ⟨kept.1, fun {member property} pair => ?_⟩
    have marked := kept.2 pair
    have same : property.nameOnServer = member.name :=
      marked.nameOnServer_eq.trans (nameOnServer_memberProperty scope entity member)
    refine ⟨same, ?_⟩
    rw [← isPartOfKey_memberProperty_iff scope entity member, ← mem_carriersNames_iff resolves,
      ← same]
    refine ⟨marked.reason, ?_⟩
    rintro (natural | carried)
    · exact marked.flagged natural
    · exact isPartOfKey_of_carried distinct planned named (List.of_mem_zip pair).2 carried
  · intro property among
    obtain ⟨origin, unmapped, unflagged, marked⟩ :=
      exists_unmapped_origin profiled resolutions keptMade among
    refine ⟨marked.isUnmapped_eq.trans unmapped, fun flagged => ?_⟩
    rw [← mem_carriersNames_iff resolves]
    exact (marked.reason flagged).resolve_left (by simp [unflagged])

end Entities

/-- Of the lines of an order, the number of the product is part of the key because the association
to the product is, and the quantity because it is in the natural key. -/
theorem describeEntity_flagsKey_orderLine : ∃ properties navigations after,
    describeEntity Shop.lineScope Shop.orderLine {} = .ok (properties, navigations) after ∧
    (Shop.orderLine.declared.map (·.name)).Nodup ∧
    properties.map (fun property => (property.nameOnServer, property.isPartOfKey)) =
      [ (some "Position", true), (some "Part", true), (some "ProductId", true),
        (some "Quantity", true), (some "OrderId", true), (some "Label", false),
        (some "PayerId", false) ] ∧
    navigations.map (·.foreignKeyNames) =
      [some [some "OrderId"], some [some "ProductId"], some [some "PayerId"]] ∧
    ∃ key others, properties = key ++ others ∧
      key.map (·.nameOnServer) = (Shop.lineScope.keyMembers Shop.orderLine).map (·.name) ∧
      ∀ property ∈ key, property.isPartOfKey = true := by
  obtain ⟨properties, navigations, after, described, seen⟩ := exists_described_of_view
    (fun described => (described.1.map fun property =>
      (property.nameOnServer, property.isPartOfKey), described.2.map (·.foreignKeyNames)))
    (by decide +kernel : (Shop.lineScope.described? Shop.orderLine).map _ =
      some ([ (some "Position", true), (some "Part", true), (some "ProductId", true),
        (some "Quantity", true), (some "OrderId", true), (some "Label", false),
        (some "PayerId", false) ],
        [some [some "OrderId"], some [some "ProductId"], some [some "PayerId"]]))
  obtain ⟨flags, named⟩ := Prod.mk.inj seen
  have distinct : (Shop.orderLine.declared.map (·.name)).Nodup := by decide +kernel
  obtain ⟨key, members, unmapped, inKey, others, split, -, -, keyed, flagged, -⟩ :=
    describeEntity_flagsKey described distinct
  exact ⟨properties, navigations, after, described, distinct, flags, named, key,
    members ++ unmapped, by rw [split, List.append_assoc], keyed, flagged⟩

end EntityAtlas

import EntityAtlas.Proofs.PropertyOrigins

/-!
# The order of members

An entity shows its members in the order of the mapping, the key first. Of its data properties those
with a mapping come before all others, and the navigation properties of its key come before those of
its other associations (`describeEntity_ordersMembers`). It does not matter how scalar parts and
associations alternate in a composite identifier: an association only adds at the end, so the place
for the next scalar part is always right behind the scalar parts before it.
-/

set_option autoImplicit false

namespace EntityAtlas

/-- The members that make up the key in the mapping: the parts of a composite identifier, or a
single one. -/
def Entity.keyDeclared (entity : Entity) : List Member :=
  entity.keyParts?.getD entity.identifier.toList

section Order

variable {scope : Scope} {entity : Entity}

/-! ## The order of the mapping -/

theorem keyMembers_sublist (scope : Scope) (entity : Entity) :
    (scope.keyMembers entity).Sublist entity.keyDeclared := by
  unfold Scope.keyMembers Entity.keyDeclared
  cases identified : entity.identifier with
  | none => exact List.nil_sublist _
  | some identifier =>
      cases parted : entity.keyParts? with
      | some parts => exact List.filter_sublist
      | none =>
          simp only
          split
          next => exact List.nil_sublist _
          next => exact List.Sublist.refl _

theorem keyLinks_sublist (scope : Scope) (entity : Entity) :
    (scope.keyLinks entity).Sublist entity.keyDeclared := by
  unfold Scope.keyLinks Entity.keyDeclared
  cases parted : entity.keyParts? with
  | some parts => exact List.filter_sublist
  | none => exact List.nil_sublist _

/-! ## Names and mappings -/

theorem names_keyProperties (scope : Scope) (entity : Entity) :
    (scope.keyProperties entity).map (·.nameOnServer) =
      (scope.keyMembers entity).map (·.name) := by
  unfold Scope.keyProperties Scope.keyMembers
  cases identified : entity.identifier with
  | none => rfl
  | some identifier =>
      cases parted : entity.keyParts? with
      | some parts =>
          simp only [List.map_map]
          rfl
      | none =>
          simp only
          split
          next => rfl
          next => rfl

theorem isUnmapped_of_mem_keyProperties {property : DataProperty}
    (among : property ∈ scope.keyProperties entity) : property.isUnmapped = false := by
  obtain ⟨_, _, rfl⟩ := exists_part_of_mem_keyProperties among
  rfl

theorem names_of_markedBy {names : List (Option String)} {properties others : List DataProperty}
    (marked : List.Forall₂ (DataProperty.MarkedBy names) properties others) :
    others.map (·.nameOnServer) = properties.map (·.nameOnServer) := by
  simpa [Function.comp_def, DataProperty.unmarked] using
    congrArg (List.map (·.nameOnServer)) (map_unmarked_of_markedBy marked)

/-! ## Entities -/

/-- **The order of members.** The data properties of an entity that is described are those of its
key, those of its other members, and those without a mapping. Its navigation properties are those of
the associations in the key and then of the others. All keep the order of the mapping, whatever key
parts there are. -/
theorem describeEntity_ordersMembers {before after : Draft} {properties : List DataProperty}
    {navigations : List NavigationProperty}
    (described : describeEntity scope entity before = .ok (properties, navigations) after) :
    (∃ members unmapped,
      properties = scope.keyProperties entity ++ members ++ unmapped ∧
      (∀ property ∈ scope.keyProperties entity ++ members, property.isUnmapped = false) ∧
      (∀ property ∈ unmapped, property.isUnmapped = true) ∧
      (scope.keyProperties entity).map (·.nameOnServer) = (scope.keyMembers entity).map (·.name) ∧
      members.map (·.nameOnServer) = (scope.dataMembers entity).map (·.name)) ∧
    navigations.map (·.nameOnServer) =
      (scope.keyLinks entity ++ scope.linkMembers entity).map (·.name) ∧
    (scope.keyMembers entity).Sublist entity.keyDeclared ∧
    (scope.dataMembers entity).Sublist entity.members ∧
    (scope.keyLinks entity).Sublist entity.keyDeclared ∧
    (scope.linkMembers entity).Sublist entity.members := by
  obtain ⟨_, _, profile, -, profiled, -, rfl, rfl, -⟩ := describeEntity_ok_iff.mp described
  obtain ⟨keys, links, members, made, -, resolutions, kept, keptMade, ordered⟩ :=
    properties_marked profiled
  refine ⟨⟨members, _, ordered, ?_, ?_, names_keyProperties scope entity,
      (names_of_markedBy kept).trans (names_memberProperties scope entity)⟩,
    navigations_of_resolves (profile_resolves profiled).2, keyMembers_sublist scope entity,
    List.filter_sublist, keyLinks_sublist scope entity, List.filter_sublist⟩
  · intro property among
    rcases List.mem_append.mp among with key | member
    · exact isUnmapped_of_mem_keyProperties key
    · obtain ⟨origin, inside, marked⟩ := exists_mem_of_forall₂ kept member
      obtain ⟨member, -, rfl⟩ := List.mem_map.mp inside
      exact marked.isUnmapped_eq.trans (isUnmapped_memberProperty scope entity member)
  · intro property among
    obtain ⟨origin, without, -, marked⟩ :=
      exists_unmapped_origin profiled resolutions keptMade among
    exact marked.isUnmapped_eq.trans without

end Order

/-! ## Lines of an order -/

namespace Shop

/-- Lines of an order, in whose key associations and numbers alternate. The column behind the order
has no member of its own, the one behind the product has. -/
def orderLine : Entity :=
  { type := type "OrderLine"
    identifier := some
      { name := none
        type := type "OrderLineKey"
        isEmbedded := true
        component := some
          { type := type "OrderLineKey"
            members :=
              [ toOne "Order" "Order" "order_id", number "Position" "position",
                toOne "Product" "Product" "product_id", number "Part" "part" ] } }
    keyColumns := [some "order_id", some "position", some "product_id", some "part"]
    members :=
      [ toOne "Payer" "Customer" "payer_id", number "ProductId" "product_id",
        number "Quantity" "quantity" ]
    naturalKey := [some "Quantity"] }

/-- The scope of lines of an order. The application adds a label to them. -/
def lineScope : Scope :=
  { catalogue := { entities := [customer, order, entity "Product" "Id" [], orderLine] }
    overrides := Overrides.configureMember {} orderLine.type "Label" [] }

end Shop

/-- Lines of an order show the numbers in their key before their other numbers, and after these
what has no mapping. -/
theorem describeEntity_ordersMembers_orderLine : ∃ properties navigations after,
    describeEntity Shop.lineScope Shop.orderLine {} = .ok (properties, navigations) after ∧
    properties.map (fun property => (property.nameOnServer, property.isUnmapped)) =
      [ (some "Position", false), (some "Part", false), (some "ProductId", false),
        (some "Quantity", false), (some "OrderId", true), (some "Label", true),
        (some "PayerId", true) ] ∧
    (Shop.lineScope.keyMembers Shop.orderLine).map (·.name) = [some "Position", some "Part"] ∧
    navigations.map (·.nameOnServer) = [some "Order", some "Product", some "Payer"] ∧
    navigations.map (·.nameOnServer) =
      (Shop.lineScope.keyLinks Shop.orderLine ++ Shop.lineScope.linkMembers Shop.orderLine).map
        (·.name) := by
  obtain ⟨properties, navigations, after, described, seen⟩ := exists_described_of_view
    (fun described => (described.1.map fun property => (property.nameOnServer, property.isUnmapped),
      described.2.map (·.nameOnServer)))
    (by decide +kernel : (Shop.lineScope.described? Shop.orderLine).map _ =
      some ([ (some "Position", false), (some "Part", false), (some "ProductId", false),
        (some "Quantity", false), (some "OrderId", true), (some "Label", true),
        (some "PayerId", true) ], [some "Order", some "Product", some "Payer"]))
  obtain ⟨ordered, linked⟩ := Prod.mk.inj seen
  exact ⟨properties, navigations, after, described, ordered, by decide +kernel, linked,
    (describeEntity_ordersMembers described).2.1⟩

end EntityAtlas

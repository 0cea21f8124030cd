import EntityAtlas.Proofs.ComplexTypeOrder

/-!
# Visits of embedded types

Publishing an embedded type visits it and the types embedded in it, each before those that its
members embed. From a visit on, the key of the type is held. A type whose key is held already is not
entered, so a walk ends where a type embeds itself (`Component.visits`). Every key that was not held
becomes a complex type at its first visit, with one data property for each member, and no other type
is touched (`publishComponent_visits`). A type whose key is held then changes nothing any more.
-/

set_option autoImplicit false

namespace EntityAtlas

/-! ## Walks -/

/-- The keys that are held after some types were visited. -/
def heldWith (held : String → Bool) (visits : List Component) (key : String) : Bool :=
  held key || visits.any (·.type.key == key)

mutual

/-- The types that a walk through an embedded type visits, in order, where some keys are held
before. The type itself comes first, and the walk goes on to its members unless its key is held. -/
def Component.visits : Component → (String → Bool) → List Component
  | ⟨type, members⟩, held =>
    ⟨type, members⟩ ::
      if held type.key then [] else visitsAmong members (heldWith held [⟨type, members⟩])

/-- The types that a walk through the members of an embedded type visits, in order. -/
def visitsAmong : List Member → (String → Bool) → List Component
  | [], _ => []
  | member :: rest, held =>
    member.visits held ++ visitsAmong rest (heldWith held (member.visits held))

/-- The types that a walk through the type embedded in a member visits, in order. -/
def Member.visits : Member → (String → Bool) → List Component
  | { isAssociation := false, isEmbedded := true, component := some component, .. }, held =>
    Component.visits component held
  | _, _ => []

end

theorem Component.visits_eq (component : Component) (held : String → Bool) :
    component.visits held =
      component :: if held component.type.key then []
        else visitsAmong component.members (heldWith held [component]) := by
  obtain ⟨type, members⟩ := component
  rw [Component.visits]

theorem visitsAmong_cons (member : Member) (rest : List Member) (held : String → Bool) :
    visitsAmong (member :: rest) held =
      member.visits held ++ visitsAmong rest (heldWith held (member.visits held)) := by
  rw [visitsAmong]

theorem Member.visits_of_embedded {member : Member} {component : Component}
    (plain : member.isAssociation = false) (embeds : member.embedded? = some component)
    (held : String → Bool) : member.visits held = component.visits held := by
  obtain ⟨⟩ := member
  cases plain
  simp only [Member.embedded?, Option.ite_none_right_eq_some] at embeds
  obtain ⟨rfl, rfl⟩ := embeds
  rfl

theorem Member.visits_of_scalar {member : Member} (scalar : member.embedded? = none)
    (held : String → Bool) : member.visits held = [] := by
  unfold Member.visits
  split
  · simp [Member.embedded?] at scalar
  · rfl

/-! ## First visits -/

theorem heldWith_nil (held : String → Bool) : heldWith held [] = held := by
  funext key
  simp [heldWith]

theorem heldWith_append (held : String → Bool) (first second : List Component) :
    heldWith held (first ++ second) = heldWith (heldWith held first) second := by
  funext key
  simp [heldWith, Bool.or_assoc]

/-- A visit to a type whose key is held adds nothing. -/
theorem heldWith_cons_of_held {held : String → Bool} {component : Component}
    (known : held component.type.key = true) (visits : List Component) :
    heldWith held (component :: visits) = heldWith held visits := by
  funext key
  simp only [heldWith, List.any_cons]
  cases same : component.type.key == key with
  | true => simp [← eq_of_beq same, known]
  | false => rfl

/-- The first visits to types whose keys were not held before. -/
def newAmong (held : String → Bool) : List Component → List Component
  | [] => []
  | component :: rest =>
    if held component.type.key then newAmong held rest
    else component :: newAmong (heldWith held [component]) rest

section FirstVisits

variable {held : String → Bool} {component : Component} {visits : List Component}

theorem newAmong_append (held : String → Bool) (first second : List Component) :
    newAmong held (first ++ second) =
      newAmong held first ++ newAmong (heldWith held first) second := by
  induction first generalizing held with
  | nil => rw [heldWith_nil, List.nil_append, newAmong, List.nil_append]
  | cons component rest ih =>
      rw [List.cons_append, newAmong, newAmong]
      cases known : held component.type.key with
      | true =>
          simp only [↓reduceIte]
          rw [ih, heldWith_cons_of_held known]
      | false =>
          simp only [Bool.false_eq_true, ↓reduceIte, List.cons_append]
          rw [ih, ← heldWith_append, List.singleton_append]

theorem newAmong_sublist (held : String → Bool) (visits : List Component) :
    (newAmong held visits).Sublist visits := by
  induction visits generalizing held with
  | nil => exact .slnil
  | cons component rest ih =>
      rw [newAmong]
      split
      next => exact (ih held).cons component
      next => exact (ih _).cons_cons component

/-- The keys of the first visits are those of all visits that were not held. -/
theorem mem_keys_newAmong_iff {key : String} :
    key ∈ (newAmong held visits).map (·.type.key) ↔
      held key = false ∧ key ∈ visits.map (·.type.key) := by
  induction visits generalizing held with
  | nil => simp [newAmong]
  | cons component rest ih =>
      rw [newAmong, List.map_cons, List.mem_cons]
      cases known : held component.type.key with
      | true =>
          simp only [↓reduceIte, ih]
          refine and_congr_right fun fresh => (or_iff_right ?_).symm
          rintro rfl
          rw [known] at fresh
          cases fresh
      | false =>
          simp only [Bool.false_eq_true, ↓reduceIte, List.map_cons, List.mem_cons, ih, heldWith,
            List.any_cons, List.any_nil, Bool.or_false, Bool.or_eq_false_iff]
          by_cases same : key = component.type.key
          · simp [same, known]
          · simp [same, Ne.symm same]

theorem held_of_mem_newAmong (new : component ∈ newAmong held visits) :
    held component.type.key = false :=
  (mem_keys_newAmong_iff.mp (List.mem_map_of_mem new)).1

theorem nodup_keys_newAmong (held : String → Bool) (visits : List Component) :
    ((newAmong held visits).map (·.type.key)).Nodup := by
  induction visits generalizing held with
  | nil => exact .nil
  | cons component rest ih =>
      rw [newAmong]
      split
      next => exact ih held
      next =>
        rw [List.map_cons, List.nodup_cons]
        refine ⟨fun again => ?_, ih _⟩
        have fresh := (mem_keys_newAmong_iff.mp again).1
        simp [heldWith] at fresh

/-- A first visit is the first one to its key. -/
theorem find?_of_mem_newAmong (new : component ∈ newAmong held visits) :
    visits.find? (·.type.key == component.type.key) = some component := by
  induction visits generalizing held with
  | nil => simp [newAmong] at new
  | cons visit rest ih =>
      rw [newAmong] at new
      cases known : held visit.type.key with
      | true =>
          simp only [known, ↓reduceIte] at new
          have apart : (visit.type.key == component.type.key) = false := by
            apply Bool.eq_false_iff.mpr
            intro same
            have fresh := held_of_mem_newAmong new
            rw [← eq_of_beq same, known] at fresh
            cases fresh
          rw [List.find?_cons_of_neg (by simp [apart])]
          exact ih new
      | false =>
          simp only [known, Bool.false_eq_true, ↓reduceIte] at new
          rcases List.mem_cons.mp new with rfl | later
          · exact List.find?_cons_of_pos (beq_self_eq_true _)
          · have apart := held_of_mem_newAmong later
            simp only [heldWith, List.any_cons, List.any_nil, Bool.or_false,
              Bool.or_eq_false_iff] at apart
            rw [List.find?_cons_of_neg (by simp [apart.2])]
            exact ih later

end FirstVisits

/-! ## Drafts -/

theorem heldWith_openComplexType (draft : Draft) {type : StructuralType} {component : Component}
    (same : type.key = component.type.key) :
    (draft.openComplexType type).holdsType = heldWith draft.holdsType [component] := by
  funext key
  rw [holdsType_openComplexType, same, heldWith, Bool.or_comm, List.any_cons, List.any_nil,
    Bool.or_false]

/-- A draft afterwards holds in front one complex type for each first visit, the latest one first,
and all that it held before. -/
structure Draft.Visits (scope : Scope) (before after : Draft) (visits : List Component) :
    Prop where
  complexTypes : after.complexTypes =
    (newAmong before.holdsType visits).reverse.map scope.complexType ++ before.complexTypes
  entityTypes : after.entityTypes = before.entityTypes

namespace Draft.Visits

variable {scope : Scope} {before between after : Draft} {first second visits : List Component}

theorem refl (scope : Scope) (draft : Draft) : Draft.Visits scope draft draft [] := ⟨rfl, rfl⟩

/-- The keys held afterwards are those held before and those visited. -/
theorem holdsType_after (visited : Draft.Visits scope before after visits) :
    after.holdsType = heldWith before.holdsType visits := by
  funext key
  have keys : after.holdsType key =
      ((newAmong before.holdsType visits).any (·.type.key == key) || before.holdsType key) := by
    simp only [Draft.holdsType, Draft.structuralTypes, visited.complexTypes, visited.entityTypes,
      List.any_append, List.any_map, List.any_reverse, Bool.or_assoc]
    rfl
  have new : key ∈ (newAmong before.holdsType visits).map (·.type.key) ↔ _ :=
    mem_keys_newAmong_iff
  rw [keys, heldWith, Bool.eq_iff_iff]
  simp only [Bool.or_eq_true, List.any_eq_true, beq_iff_eq, List.mem_map] at new ⊢
  rw [new]
  cases before.holdsType key <;> simp

theorem trans (earlier : Draft.Visits scope before between first)
    (later : Draft.Visits scope between after second) :
    Draft.Visits scope before after (first ++ second) where
  complexTypes := by
    rw [newAmong_append, ← earlier.holdsType_after, later.complexTypes, earlier.complexTypes,
      List.reverse_append, List.map_append, List.append_assoc]
  entityTypes := later.entityTypes.trans earlier.entityTypes

/-- Adding a property to a type that was held before does not touch the new types. -/
theorem extended (visited : Draft.Visits scope before after visits) {key : String}
    (known : before.holdsType key = true) (property : DataProperty) :
    Draft.Visits scope (before.extendComplexType key property)
      (after.extendComplexType key property) visits where
  complexTypes := by
    have same : (before.extendComplexType key property).holdsType = before.holdsType :=
      funext fun other => holdsType_extendComplexType before key other property
    have apart : ∀ component ∈ (newAmong before.holdsType visits).reverse,
        ((scope.complexType component).key == key) = false := by
      intro component new
      apply Bool.eq_false_iff.mpr
      intro taken
      have fresh := held_of_mem_newAmong (List.mem_reverse.mp new)
      rw [← scope.key_complexType, eq_of_beq taken, known] at fresh
      cases fresh
    rw [same]
    simp only [Draft.extendComplexType, visited.complexTypes, List.map_append, List.map_map]
    congr 1
    apply List.map_congr_left
    intro component new
    simp only [Function.comp, apart component new, Bool.false_eq_true, ↓reduceIte]
  entityTypes := visited.entityTypes

theorem extendedAll (visited : Draft.Visits scope before after visits) {key : String}
    (known : before.holdsType key = true) (properties : List DataProperty) :
    Draft.Visits scope (before.extendAll key properties) (after.extendAll key properties)
      visits := by
  induction properties generalizing before after with
  | nil => exact visited
  | cons property rest ih =>
      exact ih (visited.extended known property) ((holdsType_extendComplexType ..).trans known)

/-- Opening a type whose key is not held is the first visit to it. -/
theorem opened {component : Component} (fresh : before.holdsType component.type.key = false)
    (visited : Draft.Visits scope (before.openComplexType (scope.complexType component)) after
      visits) :
    Draft.Visits scope before after (component :: visits) where
  complexTypes := by
    rw [visited.complexTypes, heldWith_openComplexType before (scope.key_complexType component),
      newAmong, fresh, if_neg Bool.false_ne_true]
    simp [Draft.openComplexType]
  entityTypes := visited.entityTypes

end Draft.Visits

/-! ## Publishing -/

section Publishing

variable {scope : Scope}

/-- Publishing an embedded type visits what a walk through it visits, on every draft over which it
succeeds. -/
def Component.IsVisited (scope : Scope) (component : Component) : Prop :=
  ∀ {before after : Draft} {key : String},
    publishComponent scope component before = .ok key after →
      Draft.Visits scope before after (component.visits before.holdsType)

/-- What publishing a member leaves: a draft in which the type that the member embeds is published,
or its enumeration is listed. -/
inductive Member.Leaves (scope : Scope) (member : Member) (before after : Draft) : Prop where
  | embedded {component : Component} {key : String} (embeds : member.embedded? = some component)
      (run : publishComponent scope component before = .ok key after)
  | scalar (embeds : member.embedded? = none) (lists : after = before.listEnumerationOf member)

theorem publishPart_leaves {owner : TypeExpr} {member : Member} {before after : Draft}
    {property : DataProperty}
    (run : publishPart scope owner member before = .ok property after) :
    member.isAssociation = false ∧ member.Leaves scope before after := by
  cases plain : member.isAssociation with
  | true =>
      rw [publishPart_of_association scope owner plain] at run
      exact (throw_ok_iff.mp run).elim
  | false =>
      refine ⟨rfl, ?_⟩
      cases embeds : member.embedded? with
      | some component =>
          rw [publishPart_of_embedded scope owner plain embeds] at run
          simp only [bind_ok_iff, pure_ok_iff] at run
          obtain ⟨key, _, published, -, rfl⟩ := run
          exact .embedded embeds published
      | none =>
          rw [publishPart_of_scalar scope owner plain embeds] at run
          exact .scalar embeds (draftScalar_ok_iff.mp run).2

/-- A member is visited as the type that it embeds is. -/
theorem Member.Leaves.visits {member : Member} {before after : Draft}
    (leaves : member.Leaves scope before after) (plain : member.isAssociation = false)
    (inner : ∀ component, member.embedded? = some component → component.IsVisited scope) :
    Draft.Visits scope before after (member.visits before.holdsType) := by
  cases leaves with
  | embedded embeds run =>
      rw [Member.visits_of_embedded plain embeds]
      exact inner _ embeds run
  | scalar embeds lists =>
      subst lists
      rw [Member.visits_of_scalar embeds]
      obtain ⟨_, growth, -⟩ := growth_listEnumerationOf scope before member
      exact ⟨growth.complexTypes, growth.entityTypes⟩

/-- Members are visited in order, while their data properties come to stand in the owner. -/
theorem publishParts_visits {owner : TypeExpr} {members : List Member}
    (inner : ∀ member ∈ members, ∀ component, member.embedded? = some component →
      component.IsVisited scope)
    {before after : Draft} {value : Unit} (known : before.holdsType owner.key = true)
    (run : publishParts scope owner members before = .ok value after) :
    Draft.Visits scope (before.extendAll owner.key (members.map (scope.partProperty owner))) after
      (visitsAmong members before.holdsType) := by
  induction members generalizing before with
  | nil =>
      obtain ⟨-, rfl⟩ := pure_ok_iff.mp run
      exact .refl scope before
  | cons member rest ih =>
      simp only [publishParts, bind_ok_iff, modify_ok_iff] at run
      obtain ⟨property, between, first, -, _, rfl, later⟩ := run
      obtain ⟨rfl, -⟩ :=
        publishPart_grows (fun component _ => publishComponent_grows scope component) first
      obtain ⟨plain, leaves⟩ := publishPart_leaves first
      have here := leaves.visits plain (inner member List.mem_cons_self)
      have extended := here.extended known (scope.partProperty owner member)
      have stillKnown : (before.extendComplexType owner.key
          (scope.partProperty owner member)).holdsType owner.key = true :=
        (holdsType_extendComplexType ..).trans known
      have same : (between.extendComplexType owner.key
          (scope.partProperty owner member)).holdsType =
          heldWith before.holdsType (member.visits before.holdsType) := by
        rw [← here.holdsType_after]
        exact funext fun key => holdsType_extendComplexType ..
      have further := ih (fun other among => inner other (List.mem_cons_of_mem _ among))
        (by rw [same, heldWith, known, Bool.true_or]) later
      rw [same] at further
      rw [visitsAmong_cons]
      exact (extended.extendedAll stillKnown _).trans further

/-- A type whose key is held is visited alone, and any other is opened at its visit. -/
theorem publishComponent_isVisited (component : Component) : component.IsVisited scope := by
  induction component using Component.induction with
  | step component inner =>
      intro before after key run
      obtain ⟨-, body⟩ := publishComponent_ok_iff.mp run
      rw [component.visits_eq]
      cases known : before.holdsType component.type.key with
      | true =>
          rw [known, if_pos rfl] at body
          subst body
          exact ⟨by simp [newAmong, known], rfl⟩
      | false =>
          rw [known, if_neg Bool.false_ne_true] at body
          have opens : (before.openComplexType (.emptyComplex component.type)).holdsType =
              heldWith before.holdsType [component] := heldWith_openComplexType before rfl
          have parts := publishParts_visits inner (by simp [opens, heldWith]) body
          rw [opens, extendAll_emptyComplex known scope] at parts
          exact parts.opened known

/-- A data property of a complex type stands for a member of the embedded type: it bears its name,
refers to the type that the member embeds, and is the scalar of a member that embeds none. -/
structure DataProperty.StandsForPart (scope : Scope) (owner : TypeExpr) (member : Member)
    (property : DataProperty) : Prop where
  named : property.nameOnServer = member.name
  refers : property.complexTypeName? = member.embedded?.map (·.type.key)
  scalar : member.embedded? = none →
    property = scope.scalarProperty owner member member.nullable

theorem standsForPart_partProperty (scope : Scope) (owner : TypeExpr) (member : Member) :
    (scope.partProperty owner member).StandsForPart scope owner member := by
  unfold Scope.partProperty
  cases embeds : member.embedded? with
  | none =>
      exact ⟨rfl, by rw [embeds]; rfl, fun _ => rfl⟩
  | some component =>
      exact ⟨rfl, by rw [embeds]; rfl, fun scalar => by rw [embeds] at scalar; cases scalar⟩

/-- A draft afterwards has gained complex types for some visits, one for each key that was not held
before. -/
structure Draft.Gains (scope : Scope) (before after : Draft) (visits new : List Component) :
    Prop where
  /-- The new types stand in front, the latest one first, and the rest is as it was. -/
  types : after.structuralTypes =
    new.reverse.map scope.complexType ++ before.structuralTypes
  inOrder : new.Sublist visits
  distinct : (new.map (·.type.key)).Nodup
  complete : ∀ key, key ∈ new.map (·.type.key) ↔
    before.holdsType key = false ∧ key ∈ visits.map (·.type.key)
  /-- A new type is the one that was visited first with its key. -/
  first : ∀ component ∈ new,
    visits.find? (·.type.key == component.type.key) = some component
  complex : ∀ component ∈ new, (scope.complexType component).isComplex = true
  parts : ∀ component ∈ new,
    List.Forall₂ (fun member property =>
        property.StandsForPart scope component.type member)
      component.members (scope.complexType component).dataProperties

/-- What was visited first is what a draft gains. -/
theorem Draft.Visits.gains {before after : Draft} {visits : List Component}
    (visited : Draft.Visits scope before after visits) :
    Draft.Gains scope before after visits (newAmong before.holdsType visits) where
  types := by
    rw [Draft.structuralTypes, visited.complexTypes, visited.entityTypes, List.append_assoc]
    rfl
  inOrder := newAmong_sublist before.holdsType visits
  distinct := nodup_keys_newAmong before.holdsType visits
  complete _ := mem_keys_newAmong_iff
  first _ := find?_of_mem_newAmong
  complex _ _ := rfl
  parts component _ :=
    List.forall₂_map_right_iff.mpr (List.forall₂_same.mpr fun member _ =>
      standsForPart_partProperty scope component.type member)

/-- **What publishing an embedded type gains.** A type without associations at any depth is
published over every draft. The draft gains a complex type for each key that a walk through the type
visits and that was not held, made from the members of the first type visited with the key. From
then on, publishing a type whose key is held changes nothing. -/
theorem publishComponent_visits (scope : Scope) {component : Component}
    (plain : ArePlain component.nested) (before : Draft) :
    ∃ new after, publishComponent scope component before = .ok component.type.key after ∧
      Draft.Gains scope before after (component.visits before.holdsType) new ∧
      ∀ other : Component, after.holdsType other.type.key = true →
        publishComponent scope other after = .ok other.type.key after := by
  obtain ⟨after, published⟩ := publishComponent_of_plain scope plain before
  refine ⟨_, after, published, (publishComponent_isVisited component published).gains, ?_⟩
  exact fun other known => publishComponent_ok_iff.mpr ⟨rfl, by rw [known, if_pos rfl]⟩

end Publishing

/-! ## Addresses in addresses -/

namespace Shop

/-- Positions of which only the latitude is known. -/
def latitude : Component := { type := type "GeoPoint", members := [number "Latitude" "lat"] }

/-- Addresses that embed a position, a former address, and another position. -/
def movedAddress : Component :=
  { type := type "Address"
    members :=
      [ number "Zip" "zip", embedding "Position" geoPoint,
        embedding "Former" { type := type "Address", members := [embedding "At" latitude] },
        embedding "Entrance" latitude ] }

def placesScope : Scope := Sample.options.scope places

/-- A draft with a complex type. -/
def startedDraft : Draft := { complexTypes := [.emptyComplex (type "Money")] }

end Shop

/-- An address and its position are published once each, although the address embeds another address
and a second position. -/
theorem publishComponent_visits_movedAddress : ∃ new after,
    ArePlain Shop.movedAddress.nested ∧
    (Shop.movedAddress.visits Shop.startedDraft.holdsType).map (·.type.key) =
      ["Address:#Shop", "GeoPoint:#Shop", "Address:#Shop", "GeoPoint:#Shop"] ∧
    publishComponent Shop.placesScope Shop.movedAddress Shop.startedDraft =
      .ok "Address:#Shop" after ∧
    Draft.Gains Shop.placesScope Shop.startedDraft after
      (Shop.movedAddress.visits Shop.startedDraft.holdsType) new ∧
    after.structuralTypes.map (fun type => (type.key, type.dataProperties.length)) =
      [("GeoPoint:#Shop", 2), ("Address:#Shop", 4), ("Money:#Shop", 0)] ∧
    after.holdsType Shop.latitude.type.key = true ∧
      publishComponent Shop.placesScope Shop.latitude after = .ok "GeoPoint:#Shop" after := by
  have plain : ArePlain Shop.movedAddress.nested := by unfold ArePlain; decide +kernel
  obtain ⟨new, after, published, gains, again⟩ :=
    publishComponent_visits Shop.placesScope plain Shop.startedDraft
  have view : (match publishComponent Shop.placesScope Shop.movedAddress Shop.startedDraft with
      | .ok _ draft => draft.structuralTypes.map fun type => (type.key, type.dataProperties.length)
      | .error _ _ => []) =
      [("GeoPoint:#Shop", 2), ("Address:#Shop", 4), ("Money:#Shop", 0)] := by decide +kernel
  rw [published] at view
  have known : after.holdsType Shop.latitude.type.key = true := by
    have keys := congrArg (List.map Prod.fst) view
    rw [List.map_map] at keys
    refine holdsType_iff.mpr (List.mem_map.mp ?_)
    exact keys ▸ List.mem_cons_self
  exact ⟨new, after, plain, by decide +kernel, published, gains, view, known,
    again Shop.latitude known⟩

end EntityAtlas

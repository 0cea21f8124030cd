import EntityAtlas.Embedding
import EntityAtlas.Proofs.Growth
import EntityAtlas.Proofs.Steps

/-!
# What publishing an embedded type adds

Publishing an embedded type is growth of the draft by the type itself and by types nested in it
(`publishComponent_grows`). It succeeds exactly when no association is found on the way: without
associations at any depth a type is published over every draft (`publishComponent_of_plain`).
-/

set_option autoImplicit false

namespace EntityAtlas

/-! ## Scalars -/

theorem draftScalar_ok_iff {scope : Scope} {owner : TypeExpr} {member : Member}
    {isNullable : Bool} {before after : Draft} {property : DataProperty} :
    draftScalar scope owner member isNullable before = .ok property after ↔
      property = scope.scalarProperty owner member isNullable ∧
        after = before.listEnumerationOf member := by
  simp only [draftScalar, bind_ok_iff, modify_ok_iff, pure_ok_iff]
  grind

/-- Listing the enumeration of a member adds it unless one of its name is there, and in the end
one of its name is there. -/
theorem growth_listEnumerationOf (scope : Scope) (draft : Draft) (member : Member) :
    ∃ enumerations, Growth scope draft (draft.listEnumerationOf member) [] enumerations ∧
      (∀ enumeration ∈ enumerations, member.enumeration = some enumeration) ∧
      ∀ enumeration, member.enumeration = some enumeration →
        ∃ type ∈ (draft.listEnumerationOf member).enumTypes,
          type.shortName = enumeration.name := by
  unfold Draft.listEnumerationOf
  cases member.enumeration with
  | none => exact ⟨[], .refl scope draft, by simp, by simp⟩
  | some enumeration =>
      simp only [Draft.listEnumeration]
      split
      next taken =>
        refine ⟨[], .refl scope draft, by simp, ?_⟩
        rintro _ ⟨⟩
        simpa using taken
      next fresh =>
        refine ⟨[enumeration], ?_, by simp, ?_⟩
        · constructor <;> simp_all [Enumeration.published]
        · rintro _ ⟨⟩
          exact ⟨enumeration.published, by simp [Enumeration.published], rfl⟩

/-- A scalar lists its enumeration, and then it is settled. -/
theorem draftScalar_growth {scope : Scope} {owner : TypeExpr} {member : Member}
    {isNullable : Bool} {before after : Draft} {property : DataProperty}
    (scalar : member.embedded? = none)
    (run : draftScalar scope owner member isNullable before = .ok property after) :
    property = scope.scalarProperty owner member isNullable ∧ member.SettledIn after ∧
      GrowsFrom scope before after [] [member] := by
  obtain ⟨rfl, rfl⟩ := draftScalar_ok_iff.mp run
  obtain ⟨enumerations, growth, lists, listed⟩ := growth_listEnumerationOf scope before member
  have same : member.listed? = member.enumeration := by simp [Member.listed?, scalar]
  refine ⟨rfl, ⟨?_, ?_⟩, [], enumerations, growth, by simp, fun enumeration among => ?_⟩
  · simp [scalar]
  · rw [same]
    exact listed
  · exact ⟨member, by simp, same.trans (lists enumeration among)⟩

/-! ## Publishing a type -/

theorem GrowsFrom.extendedAll {scope : Scope} {before after : Draft} {sources : List Component}
    {members : List Member} (grows : GrowsFrom scope before after sources members) {key : String}
    (held : before.holdsType key = true) (properties : List DataProperty) :
    GrowsFrom scope (before.extendAll key properties) (after.extendAll key properties) sources
      members := by
  induction properties generalizing before after with
  | nil => exact grows
  | cons property rest ih =>
      exact ih (grows.extended held property) ((holdsType_extendComplexType ..).trans held)

/-- Adding a property to a type that was just opened is opening it with the property. -/
theorem extendComplexType_openComplexType {draft : Draft} {type : StructuralType}
    (fresh : draft.holdsType type.key = false) (property : DataProperty) :
    (draft.openComplexType type).extendComplexType type.key property =
      draft.openComplexType
        { type with dataProperties := type.dataProperties ++ [property] } := by
  have apart : ∀ other ∈ draft.complexTypes, (other.key == type.key) = false := by
    intro other among
    apply Bool.eq_false_iff.mpr
    intro same
    have held : draft.holdsType type.key = true :=
      holdsType_iff.mpr ⟨other, List.mem_append_left _ among, eq_of_beq same⟩
    rw [fresh] at held
    cases held
  simp only [Draft.extendComplexType, Draft.openComplexType, List.map_cons, beq_self_eq_true,
    ↓reduceIte]
  congr 2
  refine (List.map_congr_left fun other among => ?_).trans (List.map_id _)
  simp only [apart other among, Bool.false_eq_true, ↓reduceIte, id]

theorem extendAll_openComplexType {draft : Draft} (type : StructuralType)
    (fresh : draft.holdsType type.key = false) (properties : List DataProperty) :
    (draft.openComplexType type).extendAll type.key properties =
      draft.openComplexType
        { type with dataProperties := type.dataProperties ++ properties } := by
  induction properties generalizing type with
  | nil => simp [Draft.extendAll]
  | cons property rest ih =>
      rw [Draft.extendAll, List.foldl_cons, extendComplexType_openComplexType fresh]
      refine (ih { type with dataProperties := type.dataProperties ++ [property] } fresh).trans ?_
      simp

/-- An embedded type that was just opened and is given its members is a complex type in front. -/
theorem extendAll_emptyComplex {draft : Draft} {component : Component}
    (fresh : draft.holdsType component.type.key = false) (scope : Scope) :
    (draft.openComplexType (.emptyComplex component.type)).extendAll component.type.key
        (component.members.map (scope.partProperty component.type)) =
      draft.openComplexType (scope.complexType component) :=
  extendAll_openComplexType (.emptyComplex component.type) fresh
    (component.members.map (scope.partProperty component.type))

/-- What publishing an embedded type does on every draft over which it succeeds. -/
def Component.Grows (scope : Scope) (component : Component) : Prop :=
  ∀ {before after : Draft} {key : String},
    publishComponent scope component before = .ok key after →
      key = component.type.key ∧ after.holdsType key = true ∧
        GrowsFrom scope before after component.nested []

/-- A published member of an embedded type is no association and is settled. -/
theorem publishPart_grows {scope : Scope} {owner : TypeExpr} {member : Member}
    (inner : ∀ component, member.embedded? = some component → component.Grows scope)
    {before after : Draft} {property : DataProperty}
    (run : publishPart scope owner member before = .ok property after) :
    property = scope.partProperty owner member ∧ member.isAssociation = false ∧
      member.SettledIn after ∧ GrowsFrom scope before after member.nested [member] := by
  cases plain : member.isAssociation with
  | true =>
      rw [publishPart_of_association scope owner plain] at run
      exact (throw_ok_iff.mp run).elim
  | false =>
      cases embeds : member.embedded? with
      | some component =>
          rw [publishPart_of_embedded scope owner plain embeds] at run
          simp only [bind_ok_iff, pure_ok_iff] at run
          obtain ⟨key, _, published, rfl, rfl⟩ := run
          obtain ⟨rfl, held, grows⟩ := inner component embeds published
          refine ⟨by simp [Scope.partProperty, embeds], rfl, ⟨?_, ?_⟩, ?_⟩
          · intro other same
            rw [embeds] at same
            cases same
            exact held
          · simp [Member.listed?, embeds]
          · rw [Member.nested_of_embedded plain embeds]
            exact grows.mono (fun _ among => among) (by simp)
      | none =>
          rw [publishPart_of_scalar scope owner plain embeds] at run
          obtain ⟨rfl, settled, grows⟩ := draftScalar_growth embeds run
          exact ⟨by simp [Scope.partProperty, embeds], rfl, settled,
            grows.mono (by simp) fun _ among => among⟩

/-- Published members of an embedded type come to stand in it, in order. -/
theorem publishParts_grows {scope : Scope} {owner : TypeExpr} {members : List Member}
    (inner : ∀ member ∈ members, ∀ component, member.embedded? = some component →
      component.Grows scope)
    {before after : Draft} {value : Unit} (held : before.holdsType owner.key = true)
    (run : publishParts scope owner members before = .ok value after) :
    (∀ member ∈ members, member.isAssociation = false ∧ member.SettledIn after) ∧
      GrowsFrom scope (before.extendAll owner.key (members.map (scope.partProperty owner))) after
        (nestedAmong members) members := by
  induction members generalizing before with
  | nil =>
      obtain ⟨-, rfl⟩ := pure_ok_iff.mp run
      exact ⟨by simp, .refl scope before [] []⟩
  | cons member rest ih =>
      simp only [publishParts, bind_ok_iff, modify_ok_iff] at run
      obtain ⟨property, between, first, -, _, rfl, later⟩ := run
      obtain ⟨rfl, plain, settled, grows⟩ :=
        publishPart_grows (inner member List.mem_cons_self) first
      have heldBetween : between.holdsType owner.key = true := grows.holdsType_of_before held
      obtain ⟨restSettled, restGrows⟩ :=
        ih (fun other among => inner other (List.mem_cons_of_mem _ among))
          ((holdsType_extendComplexType ..).trans heldBetween) later
      constructor
      · intro other among
        rcases List.mem_cons.mp among with rfl | among
        · have kept := settled.extended owner.key (scope.partProperty owner other)
          have keptAll : other.SettledIn
              ((between.extendComplexType owner.key (scope.partProperty owner other)).extendAll
                owner.key (rest.map (scope.partProperty owner))) :=
            kept.extendedAll _ _
          exact ⟨plain, restGrows.settledIn keptAll⟩
        · exact restSettled other among
      · have grown := (grows.extended held (scope.partProperty owner member)).extendedAll
          ((holdsType_extendComplexType ..).trans held) (rest.map (scope.partProperty owner))
        exact grown.trans restGrows

/-- A type whose key is held is left alone; any other is opened, and its members are published. -/
theorem publishComponent_ok_iff {scope : Scope} {component : Component} {before after : Draft}
    {key : String} :
    publishComponent scope component before = .ok key after ↔
      key = component.type.key ∧
        if before.holdsType component.type.key then after = before
        else publishParts scope component.type component.members
          (before.openComplexType (.emptyComplex component.type)) = .ok () after := by
  obtain ⟨type, members⟩ := component
  simp only [publishComponent, bind_ok_iff, get_ok_iff]
  cases held : before.holdsType type.key <;>
    simp only [and_assoc, exists_and_left, exists_eq_left', held, Bool.not_true, Bool.not_false,
      Bool.false_eq_true, ↓reduceIte, bind_ok_iff, modify_ok_iff, pure_ok_iff]
  · grind
  · grind

/-- **What a published type adds.** The draft holds its key afterwards, and grows by types nested
in it and by enumerations of their members. -/
theorem publishComponent_grows (scope : Scope) (component : Component) :
    component.Grows scope := by
  induction component using Component.induction with
  | step component inner =>
      intro before after key run
      obtain ⟨rfl, body⟩ := publishComponent_ok_iff.mp run
      refine ⟨rfl, ?_⟩
      cases held : before.holdsType component.type.key with
      | true =>
          simp only [held, ↓reduceIte] at body
          subst body
          exact ⟨held, .refl ..⟩
      | false =>
          simp only [held, Bool.false_eq_true, ↓reduceIte] at body
          have heldOpen : (before.openComplexType (.emptyComplex component.type)).holdsType
              component.type.key = true := by
            rw [holdsType_openComplexType]
            exact Bool.or_eq_true_iff.mpr (.inl (beq_self_eq_true _))
          obtain ⟨settled, components, enumerations, growth, among, listed⟩ :=
            publishParts_grows inner heldOpen body
          rw [extendAll_emptyComplex held scope] at growth
          have whole := growth.opened held (fun member inside => (settled member inside).1)
            fun member inside => (settled member inside).2
          refine ⟨whole.holdsType_after.mpr (.inl ⟨component, by simp, rfl⟩), _, _, whole, ?_, ?_⟩
          · intro other new
            rcases List.mem_append.mp new with later | same
            · exact Component.mem_nested_iff.mpr (.inr (among other later))
            · exact List.mem_singleton.mp same ▸ component.self_mem_nested
          · intro enumeration new
            obtain ⟨member, inside, lists⟩ := listed enumeration new
            refine ⟨member, ?_, lists⟩
            simp only [List.mem_append, List.flatMap_append, List.flatMap_singleton] at inside ⊢
            exact .inr inside.symm

/-! ## Types without associations -/

/-- No type among some embedded types has an association. -/
def ArePlain (components : List Component) : Prop :=
  ∀ component ∈ components, ∀ member ∈ component.members, member.isAssociation = false

theorem ArePlain.of_subset {components others : List Component} (plain : ArePlain others)
    (subset : ∀ component ∈ components, component ∈ others) : ArePlain components :=
  fun component among => plain component (subset component among)

theorem publishPart_of_plain {scope : Scope} (owner : TypeExpr) {member : Member}
    (inner : ∀ component, member.embedded? = some component → ∀ draft, ∃ after,
      publishComponent scope component draft = .ok component.type.key after)
    (plain : member.isAssociation = false) (before : Draft) :
    ∃ property after, publishPart scope owner member before = .ok property after := by
  cases embeds : member.embedded? with
  | some component =>
      obtain ⟨after, published⟩ := inner component embeds before
      rw [publishPart_of_embedded scope owner plain embeds]
      exact ⟨_, after, bind_ok_iff.mpr ⟨_, _, published, pure_ok_iff.mpr ⟨rfl, rfl⟩⟩⟩
  | none =>
      rw [publishPart_of_scalar scope owner plain embeds]
      exact ⟨_, _, draftScalar_ok_iff.mpr ⟨rfl, rfl⟩⟩

theorem publishParts_of_plain {scope : Scope} (owner : TypeExpr) {members : List Member}
    (inner : ∀ member ∈ members, ∀ component, member.embedded? = some component → ∀ draft,
      ∃ after, publishComponent scope component draft = .ok component.type.key after)
    (plain : ∀ member ∈ members, member.isAssociation = false) (before : Draft) :
    ∃ after, publishParts scope owner members before = .ok () after := by
  induction members generalizing before with
  | nil => exact ⟨before, rfl⟩
  | cons member rest ih =>
      obtain ⟨property, between, first⟩ :=
        publishPart_of_plain owner (inner member List.mem_cons_self)
          (plain member List.mem_cons_self) before
      obtain ⟨after, later⟩ :=
        ih (fun other among => inner other (List.mem_cons_of_mem _ among))
          (fun other among => plain other (List.mem_cons_of_mem _ among))
          (between.extendComplexType owner.key property)
      exact ⟨after, bind_ok_iff.mpr ⟨property, between, first,
        bind_ok_iff.mpr ⟨(), _, modify_ok_iff.mpr rfl, later⟩⟩⟩

/-- **A type without associations at any depth is published over every draft.** -/
theorem publishComponent_of_plain (scope : Scope) {component : Component}
    (plain : ArePlain component.nested) (before : Draft) :
    ∃ after, publishComponent scope component before = .ok component.type.key after := by
  induction component using Component.induction generalizing before with
  | step component inner =>
      have here := plain component component.self_mem_nested
      have deeper : ∀ member ∈ component.members, ∀ part, member.embedded? = some part →
          ∀ draft, ∃ after, publishComponent scope part draft = .ok part.type.key after := by
        intro member among part embeds draft
        refine inner member among part embeds (plain.of_subset fun other nested => ?_) draft
        exact Component.mem_nested_iff.mpr
          (.inr (nestedAmong_of_embedded among (here member among) embeds nested))
      cases held : before.holdsType component.type.key with
      | true => exact ⟨before, publishComponent_ok_iff.mpr ⟨rfl, by simp [held]⟩⟩
      | false =>
          obtain ⟨after, published⟩ := publishParts_of_plain component.type deeper here
            (before.openComplexType (.emptyComplex component.type))
          exact ⟨after, publishComponent_ok_iff.mpr ⟨rfl, by simpa [held] using published⟩⟩

end EntityAtlas

import EntityAtlas.Mapping

/-!
# Types nested in embedded types

The members of an embedded type may embed further types. The walk over all of them
(`Component.nested`) lists a type before the types that its members embed, and what is nested in a
nested type is nested in the whole (`Component.nested_trans`).
-/

set_option autoImplicit false

namespace EntityAtlas

mutual

/-- An embedded type with all types embedded in it, in the order in which a walk meets them. -/
def Component.nested : Component → List Component
  | ⟨type, members⟩ => ⟨type, members⟩ :: nestedAmong members

/-- The types embedded in members at any depth. -/
def nestedAmong : List Member → List Component
  | [] => []
  | member :: rest => member.nested ++ nestedAmong rest

/-- The types embedded in a member at any depth. An association embeds none. -/
def Member.nested : Member → List Component
  | { isAssociation := false, isEmbedded := true, component := some component, .. } =>
    Component.nested component
  | _ => []

end

theorem Member.nested_of_embedded {member : Member} {component : Component}
    (plain : member.isAssociation = false) (embeds : member.embedded? = some component) :
    member.nested = component.nested := by
  obtain ⟨⟩ := member
  cases plain
  simp only [Member.embedded?, Option.ite_none_right_eq_some] at embeds
  obtain ⟨rfl, rfl⟩ := embeds
  rfl

theorem Member.exists_of_mem_nested {member : Member} {inner : Component}
    (among : inner ∈ member.nested) :
    ∃ component, member.isAssociation = false ∧ member.embedded? = some component ∧
      inner ∈ component.nested := by
  unfold Member.nested at among
  split at among
  · exact ⟨_, rfl, rfl, among⟩
  · simp at among

theorem mem_nestedAmong_iff {members : List Member} {inner : Component} :
    inner ∈ nestedAmong members ↔ ∃ member ∈ members, inner ∈ member.nested := by
  induction members with
  | nil => simp [nestedAmong]
  | cons member rest ih => simp [nestedAmong, ih]

/-- Among the nested types are the type itself and those nested in its members. -/
theorem Component.mem_nested_iff {component inner : Component} :
    inner ∈ component.nested ↔ inner = component ∨ inner ∈ nestedAmong component.members := by
  obtain ⟨type, members⟩ := component
  simp [Component.nested]

theorem Component.self_mem_nested (component : Component) : component ∈ component.nested :=
  Component.mem_nested_iff.mpr (.inl rfl)

theorem nestedAmong_of_embedded {members : List Member} {member : Member}
    {component inner : Component} (among : member ∈ members)
    (plain : member.isAssociation = false) (embeds : member.embedded? = some component)
    (deeper : inner ∈ component.nested) : inner ∈ nestedAmong members :=
  mem_nestedAmong_iff.mpr ⟨member, among, Member.nested_of_embedded plain embeds ▸ deeper⟩

theorem sizeOf_embedded_lt {member : Member} {component : Component}
    (embeds : member.embedded? = some component) : sizeOf component < sizeOf member := by
  obtain ⟨⟩ := member
  simp only [Member.embedded?, Option.ite_none_right_eq_some] at embeds
  obtain ⟨-, rfl⟩ := embeds
  simp only [Member.mk.sizeOf_spec, Option.some.sizeOf_spec]
  omega

theorem sizeOf_part_lt {component inner : Component} {member : Member}
    (among : member ∈ component.members) (embeds : member.embedded? = some inner) :
    sizeOf inner < sizeOf component := by
  have inMembers := List.sizeOf_lt_of_mem among
  have inMember := sizeOf_embedded_lt embeds
  obtain ⟨type, members⟩ := component
  simp only [ComponentOf.mk.sizeOf_spec]
  simp only at inMembers
  omega

/-- Induction on embedded types: a property holds of a type if it follows from the property of the
types that its members embed. -/
theorem Component.induction {motive : Component → Prop}
    (step : ∀ component : Component,
      (∀ member ∈ component.members, ∀ inner, member.embedded? = some inner → motive inner) →
        motive component)
    (component : Component) : motive component :=
  step component fun _ _ inner _ => Component.induction step inner
termination_by sizeOf component
decreasing_by exact sizeOf_part_lt ‹_› ‹_›

/-- What is nested in a nested type is nested in the whole. -/
theorem Component.nested_trans {component inner deeper : Component}
    (nested : inner ∈ component.nested) (inside : deeper ∈ inner.nested) :
    deeper ∈ component.nested := by
  induction component using Component.induction with
  | step component ih =>
      rcases Component.mem_nested_iff.mp nested with rfl | among
      · exact inside
      · obtain ⟨member, part, holds⟩ := mem_nestedAmong_iff.mp among
        obtain ⟨middle, plain, embeds, below⟩ := Member.exists_of_mem_nested holds
        exact Component.mem_nested_iff.mpr
          (.inr (nestedAmong_of_embedded part plain embeds (ih member part middle embeds below)))

theorem nestedAmong_trans {members : List Member} {inner deeper : Component}
    (among : inner ∈ nestedAmong members) (inside : deeper ∈ inner.nested) :
    deeper ∈ nestedAmong members := by
  obtain ⟨member, part, holds⟩ := mem_nestedAmong_iff.mp among
  obtain ⟨middle, plain, embeds, below⟩ := Member.exists_of_mem_nested holds
  exact nestedAmong_of_embedded part plain embeds (Component.nested_trans below inside)

end EntityAtlas

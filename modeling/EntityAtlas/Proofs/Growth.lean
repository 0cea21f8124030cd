import EntityAtlas.DataMember
import EntityAtlas.Proofs.NestedTypes

/-!
# Growth of a draft

Publishing embedded types puts complex types in front of a draft, each complete with its members,
and lists enumerations (`Growth`). Which types are new depends on the draft. Their contents do not:
each is the complex type of a component (`Scope.complexType`). A run that goes through several
sources grows by what each of them brings (`GrowsFrom`).
-/

set_option autoImplicit false

namespace EntityAtlas

/-! ## Contents -/

/-- The data property of a member of an embedded type. -/
def Scope.partProperty (scope : Scope) (owner : TypeExpr) (member : Member) : DataProperty :=
  match member.embedded? with
  | some component => scope.embeddedProperty owner member component.type.key
  | none => scope.scalarProperty owner member member.nullable

/-- The complex type of an embedded type, with all its members. -/
def Scope.complexType (scope : Scope) (component : Component) : StructuralType :=
  { StructuralType.emptyComplex component.type with
    dataProperties := component.members.map (scope.partProperty component.type) }

@[simp]
theorem Scope.key_complexType (scope : Scope) (component : Component) :
    (scope.complexType component).key = component.type.key := rfl

/-- An enumeration as clients see it. -/
def Enumeration.published (enumeration : Enumeration) : EnumType :=
  { shortName := enumeration.name, space := enumeration.space, values := enumeration.values }

/-- The enumeration that a member lists when it is published as a scalar. -/
def Member.listed? (member : Member) : Option Enumeration :=
  match member.embedded? with
  | some _ => none
  | none => member.enumeration

/-- What a member refers to is in the draft: the type that it embeds, or an enumeration of the
name of its own. -/
structure Member.SettledIn (member : Member) (draft : Draft) : Prop where
  embedded : ∀ component, member.embedded? = some component →
    draft.holdsType component.type.key = true
  listed : ∀ enumeration, member.listed? = some enumeration →
    ∃ type ∈ draft.enumTypes, type.shortName = enumeration.name

theorem holdsType_iff {draft : Draft} {key : String} :
    draft.holdsType key = true ↔ ∃ type ∈ draft.structuralTypes, type.key = key := by
  simp [Draft.holdsType]

theorem holdsType_openComplexType (draft : Draft) (type : StructuralType) (key : String) :
    (draft.openComplexType type).holdsType key = (type.key == key || draft.holdsType key) := rfl

theorem holdsType_extendComplexType (draft : Draft) (owner key : String)
    (property : DataProperty) :
    (draft.extendComplexType owner property).holdsType key = draft.holdsType key := by
  simp only [Draft.holdsType, Draft.structuralTypes, Draft.extendComplexType, List.any_append,
    List.any_map]
  congr 2
  funext type
  simp only [Function.comp]
  split <;> rfl

/-- Adds data properties to the embedded type with a key, in order. -/
def Draft.extendAll (draft : Draft) (key : String) (properties : List DataProperty) : Draft :=
  properties.foldl (fun draft property => draft.extendComplexType key property) draft

theorem Member.SettledIn.extended {member : Member} {draft : Draft}
    (settled : member.SettledIn draft) (key : String) (property : DataProperty) :
    member.SettledIn (draft.extendComplexType key property) where
  embedded component embeds := by
    rw [holdsType_extendComplexType]
    exact settled.embedded component embeds
  listed := settled.listed

theorem Member.SettledIn.extendedAll {member : Member} {draft : Draft}
    (settled : member.SettledIn draft) (key : String) (properties : List DataProperty) :
    member.SettledIn (draft.extendAll key properties) := by
  induction properties generalizing draft with
  | nil => exact settled
  | cons property rest ih => exact ih (settled.extended key property)

/-! ## Growth -/

/-- A draft grows by complete complex types in front and by enumerations at the end. All of them
are new, and all else stays. -/
structure Growth (scope : Scope) (before after : Draft) (components : List Component)
    (enumerations : List Enumeration) : Prop where
  complexTypes : after.complexTypes = components.map scope.complexType ++ before.complexTypes
  enumTypes : after.enumTypes = before.enumTypes ++ enumerations.map Enumeration.published
  entityTypes : after.entityTypes = before.entityTypes
  resources : after.resources = before.resources
  foreignKeys : after.foreignKeys = before.foreignKeys
  surrogates : after.surrogates = before.surrogates
  newTypes : ∀ component ∈ components, before.holdsType component.type.key = false
  distinctTypes : (components.map (·.type.key)).Nodup
  newEnumerations : ∀ enumeration ∈ enumerations, ∀ type ∈ before.enumTypes,
    type.shortName ≠ enumeration.name
  distinctEnumerations : (enumerations.map (·.name)).Nodup
  plain : ∀ component ∈ components, ∀ member ∈ component.members, member.isAssociation = false
  settled : ∀ component ∈ components, ∀ member ∈ component.members, member.SettledIn after

namespace Growth

variable {scope : Scope} {before between after : Draft} {components later : List Component}
  {enumerations others : List Enumeration}

theorem refl (scope : Scope) (draft : Draft) : Growth scope draft draft [] [] where
  complexTypes := rfl
  enumTypes := by simp
  entityTypes := rfl
  resources := rfl
  foreignKeys := rfl
  surrogates := rfl
  newTypes := by simp
  distinctTypes := by simp
  newEnumerations := by simp
  distinctEnumerations := by simp
  plain := by simp
  settled := by simp

/-- The keys of a grown draft are those before and those of the new types. -/
theorem holdsType_after (growth : Growth scope before after components enumerations)
    {key : String} :
    after.holdsType key = true ↔
      (∃ component ∈ components, component.type.key = key) ∨ before.holdsType key = true := by
  have keys : after.holdsType key =
      (components.any (·.type.key == key) || before.holdsType key) := by
    simp only [Draft.holdsType, Draft.structuralTypes, growth.complexTypes, growth.entityTypes,
      List.any_append, List.any_map, Bool.or_assoc]
    rfl
  simp [keys]

theorem holdsType_of_before (growth : Growth scope before after components enumerations)
    {key : String} (held : before.holdsType key = true) : after.holdsType key = true :=
  growth.holdsType_after.mpr (.inr held)

/-- What is settled stays settled. -/
theorem settledIn (growth : Growth scope before after components enumerations) {member : Member}
    (settled : member.SettledIn before) : member.SettledIn after where
  embedded component embeds := growth.holdsType_of_before (settled.embedded component embeds)
  listed enumeration lists := by
    obtain ⟨type, among, named⟩ := settled.listed enumeration lists
    exact ⟨type, growth.enumTypes ▸ List.mem_append_left _ among, named⟩

theorem trans (first : Growth scope before between components enumerations)
    (second : Growth scope between after later others) :
    Growth scope before after (later ++ components) (enumerations ++ others) where
  complexTypes := by rw [second.complexTypes, first.complexTypes, List.map_append,
    List.append_assoc]
  enumTypes := by rw [second.enumTypes, first.enumTypes, List.map_append, List.append_assoc]
  entityTypes := second.entityTypes.trans first.entityTypes
  resources := second.resources.trans first.resources
  foreignKeys := second.foreignKeys.trans first.foreignKeys
  surrogates := second.surrogates.trans first.surrogates
  newTypes component among := by
    rcases List.mem_append.mp among with late | early
    · apply Bool.eq_false_iff.mpr
      intro held
      have fresh := second.newTypes component late
      rw [first.holdsType_of_before held] at fresh
      cases fresh
    · exact first.newTypes component early
  distinctTypes := by
    rw [List.map_append, List.nodup_append]
    refine ⟨second.distinctTypes, first.distinctTypes, ?_⟩
    rintro _ late _ early rfl
    obtain ⟨component, among, rfl⟩ := List.mem_map.mp late
    have fresh := second.newTypes component among
    rw [first.holdsType_after.mpr (.inl (List.mem_map.mp early))] at fresh
    cases fresh
  newEnumerations enumeration among type listed := by
    rcases List.mem_append.mp among with early | late
    · exact first.newEnumerations enumeration early type listed
    · exact second.newEnumerations enumeration late type
        (first.enumTypes ▸ List.mem_append_left _ listed)
  distinctEnumerations := by
    rw [List.map_append, List.nodup_append]
    refine ⟨first.distinctEnumerations, second.distinctEnumerations, ?_⟩
    rintro _ early _ late rfl
    obtain ⟨enumeration, among, same⟩ := List.mem_map.mp late
    obtain ⟨other, listed, named⟩ := List.mem_map.mp early
    refine second.newEnumerations enumeration among other.published ?_ (named.trans same.symm)
    exact first.enumTypes ▸ List.mem_append_right _ (List.mem_map_of_mem listed)
  plain component among := by
    rcases List.mem_append.mp among with late | early
    · exact second.plain component late
    · exact first.plain component early
  settled component among member inside := by
    rcases List.mem_append.mp among with late | early
    · exact second.settled component late member inside
    · exact second.settledIn (first.settled component early member inside)

/-- A type opened in front, whose members are settled in the end, is part of the growth. -/
theorem opened {component : Component}
    (growth : Growth scope (before.openComplexType (scope.complexType component)) after components
      enumerations)
    (fresh : before.holdsType component.type.key = false)
    (plain : ∀ member ∈ component.members, member.isAssociation = false)
    (settled : ∀ member ∈ component.members, member.SettledIn after) :
    Growth scope before after (components ++ [component]) enumerations where
  complexTypes := by
    rw [growth.complexTypes]
    simp [Draft.openComplexType]
  enumTypes := growth.enumTypes
  entityTypes := growth.entityTypes
  resources := growth.resources
  foreignKeys := growth.foreignKeys
  surrogates := growth.surrogates
  newTypes other among := by
    rcases List.mem_append.mp among with later | same
    · have apart := growth.newTypes other later
      simp only [holdsType_openComplexType, Bool.or_eq_false_iff] at apart
      exact apart.2
    · rw [List.mem_singleton.mp same]
      exact fresh
  distinctTypes := by
    rw [List.map_append, List.nodup_append]
    refine ⟨growth.distinctTypes, by simp, ?_⟩
    rintro _ late key same rfl
    obtain ⟨other, among, named⟩ := List.mem_map.mp late
    have apart := growth.newTypes other among
    simp only [List.map_cons, List.map_nil, List.mem_singleton] at same
    simp [holdsType_openComplexType, named, same] at apart
  newEnumerations := growth.newEnumerations
  distinctEnumerations := growth.distinctEnumerations
  plain other among := by
    rcases List.mem_append.mp among with later | same
    · exact growth.plain other later
    · rw [List.mem_singleton.mp same]
      exact plain
  settled other among := by
    rcases List.mem_append.mp among with later | same
    · exact growth.settled other later
    · rw [List.mem_singleton.mp same]
      exact settled

/-- Adding a property to a type that was there before does not touch the new types. -/
theorem extended (growth : Growth scope before after components enumerations) {key : String}
    (held : before.holdsType key = true) (property : DataProperty) :
    Growth scope (before.extendComplexType key property) (after.extendComplexType key property)
      components enumerations where
  complexTypes := by
    have apart : ∀ component ∈ components, ((scope.complexType component).key == key) = false := by
      intro component among
      apply Bool.eq_false_iff.mpr
      intro same
      have fresh := growth.newTypes component among
      rw [← scope.key_complexType, eq_of_beq same, held] at fresh
      cases fresh
    simp only [Draft.extendComplexType, growth.complexTypes, List.map_append, List.map_map]
    congr 1
    apply List.map_congr_left
    intro component among
    simp only [Function.comp, apart component among, Bool.false_eq_true, ↓reduceIte]
  enumTypes := growth.enumTypes
  entityTypes := growth.entityTypes
  resources := growth.resources
  foreignKeys := growth.foreignKeys
  surrogates := growth.surrogates
  newTypes component among := by
    rw [holdsType_extendComplexType]
    exact growth.newTypes component among
  distinctTypes := growth.distinctTypes
  newEnumerations := growth.newEnumerations
  distinctEnumerations := growth.distinctEnumerations
  plain := growth.plain
  settled component among member inside :=
    (growth.settled component among member inside).extended key property

end Growth

/-- A draft grows by new types from a list of sources, and by enumerations that given members or
the members of the new types list. -/
def GrowsFrom (scope : Scope) (before after : Draft) (sources : List Component)
    (members : List Member) : Prop :=
  ∃ components enumerations, Growth scope before after components enumerations ∧
    (∀ component ∈ components, component ∈ sources) ∧
    ∀ enumeration ∈ enumerations, ∃ member ∈ members ++ components.flatMap (·.members),
      member.listed? = some enumeration

namespace GrowsFrom

variable {scope : Scope} {before between after : Draft} {sources others : List Component}
  {members rest : List Member}

theorem refl (scope : Scope) (draft : Draft) (sources : List Component) (members : List Member) :
    GrowsFrom scope draft draft sources members :=
  ⟨[], [], .refl scope draft, by simp, by simp⟩

theorem mono (grows : GrowsFrom scope before after sources members)
    (wider : ∀ component ∈ sources, component ∈ others) (more : ∀ member ∈ members, member ∈ rest) :
    GrowsFrom scope before after others rest := by
  obtain ⟨components, enumerations, growth, from_, listed⟩ := grows
  refine ⟨components, enumerations, growth, fun component among =>
    wider component (from_ component among), fun enumeration among => ?_⟩
  obtain ⟨member, inside, lists⟩ := listed enumeration among
  refine ⟨member, ?_, lists⟩
  rcases List.mem_append.mp inside with given | new
  · exact List.mem_append_left _ (more member given)
  · exact List.mem_append_right _ new

theorem trans (first : GrowsFrom scope before between sources members)
    (second : GrowsFrom scope between after others rest) :
    GrowsFrom scope before after (sources ++ others) (members ++ rest) := by
  obtain ⟨components, enumerations, growth, from_, listed⟩ := first
  obtain ⟨later, further, growth', from', listed'⟩ := second
  refine ⟨later ++ components, enumerations ++ further, growth.trans growth', ?_, ?_⟩
  · intro component among
    rcases List.mem_append.mp among with late | early
    · exact List.mem_append_right _ (from' component late)
    · exact List.mem_append_left _ (from_ component early)
  · intro enumeration among
    simp only [List.flatMap_append, List.mem_append] at listed listed' ⊢
    rcases List.mem_append.mp among with early | late
    · obtain ⟨member, inside, lists⟩ := listed enumeration early
      exact ⟨member, inside.imp .inl .inr, lists⟩
    · obtain ⟨member, inside, lists⟩ := listed' enumeration late
      exact ⟨member, inside.imp .inr .inl, lists⟩

theorem extended (grows : GrowsFrom scope before after sources members) {key : String}
    (held : before.holdsType key = true) (property : DataProperty) :
    GrowsFrom scope (before.extendComplexType key property)
      (after.extendComplexType key property) sources members := by
  obtain ⟨components, enumerations, growth, from_, listed⟩ := grows
  exact ⟨components, enumerations, growth.extended held property, from_, listed⟩

theorem holdsType_of_before (grows : GrowsFrom scope before after sources members) {key : String}
    (held : before.holdsType key = true) : after.holdsType key = true := by
  obtain ⟨_, _, growth, _, _⟩ := grows
  exact growth.holdsType_of_before held

theorem settledIn (grows : GrowsFrom scope before after sources members) {member : Member}
    (settled : member.SettledIn before) : member.SettledIn after := by
  obtain ⟨_, _, growth, _, _⟩ := grows
  exact growth.settledIn settled

end GrowsFrom

end EntityAtlas

import EntityAtlas.DataMember

/-!
# Embedded types

An embedded type is published once, by whichever member embeds it first. It stands in the draft
before its members are looked at, so a type that embeds itself refers to itself, and the types it
embeds come to stand in front of it. A member is an association, an embedded member or a scalar,
and for each of the three an equation says what publishing it does (`publishPart_of_association`,
`publishPart_of_embedded`, `publishPart_of_scalar`).
-/

set_option autoImplicit false

namespace EntityAtlas

mutual

/-- Publishes an embedded type, unless the draft has its key, and gives the key. -/
def publishComponent (scope : Scope) : Component → Drafting String
  | ⟨type, members⟩ => do
    if !(← get).holdsType type.key then
      modify (·.openComplexType (.emptyComplex type))
      publishParts scope type members
    return type.key

/-- Adds the members of an embedded type to it, in order. -/
def publishParts (scope : Scope) (owner : TypeExpr) : List Member → Drafting Unit
  | [] => pure ()
  | member :: rest => do
    let property ← publishPart scope owner member
    modify (·.extendComplexType owner.key property)
    publishParts scope owner rest

/-- The data property of one member of an embedded type. -/
def publishPart (scope : Scope) (owner : TypeExpr) : Member → Drafting DataProperty
  | member@{ isAssociation := true, .. } =>
    throw (.embeddedAssociation owner.key member.name)
  | member@{ isAssociation := false, isEmbedded := true, component := some component, .. } => do
    let complexTypeName ← publishComponent scope component
    return scope.embeddedProperty owner member complexTypeName
  | member => draftScalar scope owner member member.nullable

end

/-! ## The three kinds of members -/

/-- An association has no place in an embedded type. -/
theorem publishPart_of_association (scope : Scope) (owner : TypeExpr) {member : Member}
    (association : member.isAssociation = true) :
    publishPart scope owner member = throw (.embeddedAssociation owner.key member.name) := by
  obtain ⟨⟩ := member
  cases association
  rfl

/-- A member that embeds a type publishes that type and refers to it. -/
theorem publishPart_of_embedded (scope : Scope) (owner : TypeExpr) {member : Member}
    {component : Component} (plain : member.isAssociation = false)
    (embeds : member.embedded? = some component) :
    publishPart scope owner member = (do
      let complexTypeName ← publishComponent scope component
      return scope.embeddedProperty owner member complexTypeName) := by
  obtain ⟨⟩ := member
  cases plain
  simp only [Member.embedded?, Option.ite_none_right_eq_some] at embeds
  obtain ⟨rfl, rfl⟩ := embeds
  rfl

/-- Any other member is a scalar. -/
theorem publishPart_of_scalar (scope : Scope) (owner : TypeExpr) {member : Member}
    (plain : member.isAssociation = false) (scalar : member.embedded? = none) :
    publishPart scope owner member = draftScalar scope owner member member.nullable := by
  obtain ⟨name, type, nullable, columns, length, isAssociation, isCollection, isEmbedded,
    component⟩ := member
  cases plain
  cases isEmbedded with
  | false => rfl
  | true =>
    cases component with
    | none => rfl
    | some _ => simp [Member.embedded?] at scalar

end EntityAtlas

import EntityAtlas.Proofs.NestedTypes
import EntityAtlas.Proofs.Relabelling

/-!
# Runs under other names

One run mirrors another if it goes through the same states with some change, and is refused where
the other is (`Mirrors`). Steps in a row mirror steps in a row. Where overrides differ in a
relabelling only (`Overrides.Relabels`), each step of building under the one mirrors the step under
the other, from the carrier of a foreign key up to the build.
-/

set_option autoImplicit false

namespace EntityAtlas

/-! ## Mirroring -/

section Mirroring

variable {ε σ α β γ δ : Type} {onState : σ → σ}

/-- A step mirrors another: from a changed state it comes to the changed value and the changed
state, and it is refused where the other is. -/
structure Mirrors (onState : σ → σ) (onValue : α → β) (step : EStateM ε σ α)
    (other : EStateM ε σ β) : Prop where
  run (state : σ) : other (onState state) =
    match step state with
    | .ok value after => .ok (onValue value) (onState after)
    | .error error after => .error error (onState after)

namespace Mirrors

theorem pure {onValue : α → β} {value : α} :
    Mirrors onState onValue (Pure.pure value : EStateM ε σ α) (Pure.pure (onValue value)) :=
  ⟨fun _ => rfl⟩

theorem throw {onValue : α → β} {error : ε} :
    Mirrors onState onValue (MonadExcept.throw error : EStateM ε σ α) (MonadExcept.throw error) :=
  ⟨fun _ => rfl⟩

theorem get :
    Mirrors onState onState (MonadState.get : EStateM ε σ σ) MonadState.get :=
  ⟨fun _ => rfl⟩

theorem changes {change changed : σ → σ}
    (commutes : ∀ state, changed (onState state) = onState (change state)) :
    Mirrors onState id (modify change : EStateM ε σ PUnit) (modify changed) :=
  ⟨fun state => congrArg (EStateM.Result.ok PUnit.unit) (commutes state)⟩

/-- Steps in a row mirror steps in a row. -/
theorem bind {onValue : α → β} {onResult : γ → δ} {step : EStateM ε σ α} {other : EStateM ε σ β}
    {next : α → EStateM ε σ γ} {others : β → EStateM ε σ δ}
    (first : Mirrors onState onValue step other)
    (further : ∀ value, Mirrors onState onResult (next value) (others (onValue value))) :
    Mirrors onState onResult (step >>= next) (other >>= others) := by
  constructor
  intro state
  simp only [Bind.bind, EStateM.bind, first.run state]
  cases step state with
  | ok value after => exact (further value).run after
  | error error after => rfl

end Mirrors

end Mirroring

/-! ## Overrides that differ in names for clients -/

/-- Two overrides differ in a relabelling: one of them gives members the names that the relabelling
tells, and otherwise both say the same of each member. -/
structure Overrides.Relabels (overrides other : Overrides) (relabelling : Relabelling) : Prop where
  clientName (owner : TypeExpr) (name : Option String) :
    (other.ofMember owner name).clientName? =
      relabelling.clientName owner.key name (overrides.ofMember owner name).clientName?
  defaultValue (owner : TypeExpr) (name : Option String) :
    (other.ofMember owner name).defaultValue = (overrides.ofMember owner name).defaultValue
  ignored (owner : TypeExpr) (name : Option String) :
    (other.ofMember owner name).ignored = (overrides.ofMember owner name).ignored

/-- A scope with other overrides. -/
def Scope.under (scope : Scope) (overrides : Overrides) : Scope := { scope with overrides }

/-- A carrier with its data property under its new name. -/
def Relabelling.carrier (relabelling : Relabelling) (owner : String) : KeyCarrier → KeyCarrier
  | .surrogate made property => .surrogate made (relabelling.property owner property)
  | carrier => carrier

theorem Relabelling.names_carrier (relabelling : Relabelling) (owner : String)
    (carrier : KeyCarrier) : (relabelling.carrier owner carrier).names = carrier.names := by
  cases carrier <;> rfl

section Relabelled

variable {scope : Scope} {other : Overrides} {relabelling : Relabelling}
  (relabels : scope.overrides.Relabels other relabelling)
include relabels

theorem ignored_under (owner : TypeExpr) (name : Option String) :
    ((scope.under other).overrides.ofMember owner name).ignored =
      (scope.overrides.ofMember owner name).ignored := relabels.ignored owner name

theorem scalar_under (owner : TypeExpr) (name : Option String) (typeName : String)
    (isNullable : Datum) (length : Option Int) :
    DataProperty.scalar (some ((scope.under other).overrides.ofMember owner name)) name typeName
        isNullable length =
      relabelling.property owner.key
        (.scalar (some (scope.overrides.ofMember owner name)) name typeName isNullable length) := by
  simp only [DataProperty.scalar, Relabelling.property, Scope.under, Option.bind_some,
    Option.map_some, Option.getD_some, relabels.clientName, relabels.defaultValue]

theorem scalarProperty_under (owner : TypeExpr) (member : Member) (isNullable : Bool) :
    (scope.under other).scalarProperty owner member isNullable =
      relabelling.property owner.key (scope.scalarProperty owner member isNullable) :=
  scalar_under relabels ..

theorem embeddedProperty_under (owner : TypeExpr) (member : Member) (complexTypeName : String) :
    (scope.under other).embeddedProperty owner member complexTypeName =
      relabelling.property owner.key (scope.embeddedProperty owner member complexTypeName) := by
  simp only [Scope.embeddedProperty, DataProperty.embedded, Relabelling.property, Scope.under,
    Option.bind_some, relabels.clientName]

theorem navigation_under (entity : Entity) (association : Member) (related : TypeExpr)
    (columns : List String) :
    (scope.under other).navigation entity association related columns =
      relabelling.navigation entity.key (scope.navigation entity association related columns) := by
  simp only [Scope.navigation, Relabelling.navigation, Scope.under, relabels.clientName]
  rfl

theorem surrogateCarrier_under (entity : Entity) (association : Member) (related : TypeExpr)
    (column : String) (properties : List DataProperty) :
    (scope.under other).surrogateCarrier entity association related column
        (properties.map (relabelling.property entity.key)) =
      (scope.surrogateCarrier entity association related column properties).map
        (relabelling.carrier entity.key) := by
  have sameCatalogue : (scope.under other).catalogue = scope.catalogue := rfl
  have sameMapping : ∀ property : DataProperty,
      (relabelling.property entity.key property).isUnmapped = property.isUnmapped := fun _ => rfl
  simp only [Scope.surrogateCarrier, relabelling.findProperty?_map, Option.any_map, sameCatalogue,
    sameMapping, scalar_under relabels]
  split
  · rfl
  · cases (scope.catalogue.find? related.key).bind (·.identifier) <;> rfl

theorem keyCarrier_under (entity : Entity) (association : Member) (related : TypeExpr)
    (columns : List String) (properties : List DataProperty) :
    (scope.under other).keyCarrier entity association related columns
        (properties.map (relabelling.property entity.key)) =
      (scope.keyCarrier entity association related columns properties).map
        (relabelling.carrier entity.key) := by
  have sameMembers : (scope.under other).mappedKeyNames = scope.mappedKeyNames := rfl
  simp only [Scope.keyCarrier, sameMembers]
  cases scope.mappedKeyNames entity association related columns with
  | error error => rfl
  | ok names =>
      cases names with
      | some names => rfl
      | none =>
          simp only [bind, Except.bind]
          split
          next column =>
            split
            next => exact surrogateCarrier_under relabels ..
            next => rfl
          next => rfl

end Relabelled

/-! ## Steps on a worksheet -/

section Sheets

variable {relabelling : Relabelling} {owner : String} {α β : Type} {onValue : α → β}

theorem Mirrors.onDraft {step : Drafting α} {other : Drafting β}
    (mirrors : Mirrors relabelling.draft onValue step other) :
    Mirrors (relabelling.sheet owner) onValue (onDraft step) (EntityAtlas.onDraft other) := by
  constructor
  intro sheet
  simp only [EntityAtlas.onDraft, Relabelling.sheet, mirrors.run sheet.draft]
  cases step sheet.draft <;> rfl

theorem Mirrors.decided {decision : Except BuildError α} {other : Except BuildError β}
    (same : other = decision.map onValue) :
    Mirrors (relabelling.sheet owner) onValue (decided decision) (EntityAtlas.decided other) := by
  subst same
  cases decision with
  | error error => exact .throw
  | ok value => exact .pure

/-- The same decision is taken whatever members are called. -/
theorem Mirrors.decided_self {decision : Except BuildError α} :
    Mirrors (relabelling.sheet owner) id (EntityAtlas.decided decision)
      (EntityAtlas.decided decision) :=
  .decided (by cases decision <;> rfl)

end Sheets

section Steps

variable {scope : Scope} {other : Overrides} {relabelling : Relabelling}

theorem recordForeignKey_mirrors (relationship : String) (columns : List String) :
    Mirrors relabelling.draft id (Draft.recordForeignKey relationship columns)
      (Draft.recordForeignKey relationship columns) := by
  constructor
  intro draft
  have sameKeys : (relabelling.draft draft).foreignKeys = draft.foreignKeys := rfl
  simp only [Draft.recordForeignKey_apply, sameKeys]
  split <;> rfl

theorem openEntityType_mirrors (type : StructuralType) :
    Mirrors relabelling.draft id (Draft.openEntityType type)
      (Draft.openEntityType (relabelling.type type)) := by
  constructor
  intro draft
  simp only [Draft.openEntityType_apply, relabelling.holdsType_draft, relabelling.key_type]
  split
  · rfl
  · simp [Relabelling.draft]

theorem nameResource_mirrors (resource key : String) :
    Mirrors relabelling.draft id (Draft.nameResource resource key)
      (Draft.nameResource resource key) := by
  constructor
  intro draft
  have sameResources : (relabelling.draft draft).resources = draft.resources := rfl
  simp only [Draft.nameResource_apply, sameResources]
  cases draft.resources.lookup resource <;> rfl

variable (relabels : scope.overrides.Relabels other relabelling)
include relabels

theorem draftScalar_mirrors (owner : TypeExpr) (member : Member) (isNullable : Bool) :
    Mirrors relabelling.draft (relabelling.property owner.key)
      (draftScalar scope owner member isNullable)
      (draftScalar (scope.under other) owner member isNullable) := by
  refine .bind (.changes fun draft => relabelling.listEnumerationOf_draft draft member) fun _ => ?_
  rw [scalarProperty_under relabels]
  exact .pure

/-! ## Embedded types -/

theorem publishPart_mirrors (owner : TypeExpr) {member : Member}
    (inner : ∀ component, member.embedded? = some component →
      Mirrors relabelling.draft id (publishComponent scope component)
        (publishComponent (scope.under other) component)) :
    Mirrors relabelling.draft (relabelling.property owner.key) (publishPart scope owner member)
      (publishPart (scope.under other) owner member) := by
  cases kind : member.isAssociation with
  | true =>
      rw [publishPart_of_association _ _ kind, publishPart_of_association _ _ kind]
      exact .throw
  | false =>
      cases embeds : member.embedded? with
      | none =>
          rw [publishPart_of_scalar _ _ kind embeds, publishPart_of_scalar _ _ kind embeds]
          exact draftScalar_mirrors relabels ..
      | some component =>
          rw [publishPart_of_embedded _ _ kind embeds, publishPart_of_embedded _ _ kind embeds]
          refine .bind (inner component embeds) fun key => ?_
          rw [embeddedProperty_under relabels]
          exact .pure

omit relabels in
theorem publishParts_mirrors (owner : TypeExpr) {members : List Member}
    (parts : ∀ member ∈ members, Mirrors relabelling.draft (relabelling.property owner.key)
      (publishPart scope owner member) (publishPart (scope.under other) owner member)) :
    Mirrors relabelling.draft id (publishParts scope owner members)
      (publishParts (scope.under other) owner members) := by
  induction members with
  | nil => exact .pure
  | cons member rest ih =>
      rw [List.forall_mem_cons] at parts
      refine .bind parts.1 fun property => ?_
      exact .bind (.changes fun draft =>
        relabelling.extendComplexType_draft draft owner.key property) fun _ => ih parts.2

theorem publishComponent_mirrors (component : Component) :
    Mirrors relabelling.draft id (publishComponent scope component)
      (publishComponent (scope.under other) component) := by
  induction component using Component.induction with
  | step component ih =>
      obtain ⟨type, members⟩ := component
      have parts := publishParts_mirrors type fun member among =>
        publishPart_mirrors relabels type (ih member among)
      simp only [publishComponent]
      refine .bind .get fun draft => ?_
      rw [relabelling.holdsType_draft]
      split
      · refine .bind (.changes fun draft => relabelling.openComplexType_draft draft type)
          fun _ => ?_
        exact .bind parts fun _ => .pure
      · exact .pure

/-! ## Members of an entity -/

theorem draftMember_mirrors (entity : Entity) (member : Member) :
    Mirrors relabelling.draft (relabelling.property entity.key) (draftMember scope entity member)
      (draftMember (scope.under other) entity member) := by
  unfold draftMember
  cases member.embedded? with
  | none =>
      exact .bind (draftScalar_mirrors relabels entity.type member member.nullable) fun _ => .pure
  | some component =>
      refine .bind (publishComponent_mirrors relabels component) fun key => ?_
      rw [embeddedProperty_under relabels]
      exact .pure

theorem draftMembers_mirrors (entity : Entity) (inherited : List (Option String))
    (members : List Member) :
    Mirrors relabelling.draft (List.map (relabelling.property entity.key))
      (draftMembers scope entity inherited members)
      (draftMembers (scope.under other) entity inherited members) := by
  induction members with
  | nil => exact .pure
  | cons member rest ih =>
      simp only [draftMembers, ignored_under relabels]
      split
      · exact ih
      · exact .bind (draftMember_mirrors relabels entity member) fun _ => .bind ih fun _ => .pure

theorem draftKey_mirrors (entity : Entity) (part : Member) (isNullable : Bool) :
    Mirrors relabelling.draft (relabelling.property entity.key)
      (draftKey scope entity part isNullable)
      (draftKey (scope.under other) entity part isNullable) :=
  .bind (draftScalar_mirrors relabels entity.type part isNullable) fun _ => .pure

omit relabels in
/-- The last steps of describing an association to one entity. -/
theorem recordThenMark_mirrors (owner relationship : String) (columns : List String)
    (partOfKey : Bool) (names : List (Option String)) (given : NavigationProperty) :
    Mirrors (relabelling.sheet owner) (relabelling.navigation owner)
      (do
        onDraft (Draft.recordForeignKey relationship columns)
        if partOfKey then
          modify (·.markKey names)
        return given : Describing NavigationProperty)
      (do
        onDraft (Draft.recordForeignKey relationship columns)
        if partOfKey then
          modify (·.markKey names)
        return relabelling.navigation owner given) := by
  refine .bind (.onDraft (recordForeignKey_mirrors relationship columns)) fun _ => ?_
  cases partOfKey with
  | false => exact .pure
  | true =>
      exact .bind (.changes fun sheet => relabelling.markKey_sheet owner sheet names) fun _ => .pure

theorem describeReference_mirrors (entity : Entity) (association : Member) (partOfKey : Bool)
    (related : TypeExpr) (columns : List String) :
    Mirrors (relabelling.sheet entity.key) (relabelling.navigation entity.key)
      (describeReference scope entity association partOfKey related columns)
      (describeReference (scope.under other) entity association partOfKey related columns) := by
  have named : ∀ names : List (Option String),
      (relabelling.navigation entity.key
          (scope.navigation entity association related columns)).withKeyNames
            association.keyOnDeclarer names =
        relabelling.navigation entity.key
          ((scope.navigation entity association related columns).withKeyNames
            association.keyOnDeclarer names) := by
    intro names
    cases association.keyOnDeclarer <;> rfl
  unfold describeReference
  refine .bind .get fun sheet => ?_
  refine .bind (.decided (keyCarrier_under relabels ..)) fun carrier => ?_
  rw [navigation_under relabels, relabelling.names_carrier, named]
  cases carrier with
  | nothing =>
      exact .bind (.onDraft (recordForeignKey_mirrors _ columns)) fun _ => .throw
  | members names => exact recordThenMark_mirrors ..
  | surrogate made property =>
      refine .bind (.changes fun sheet => ?_) fun _ => recordThenMark_mirrors ..
      exact relabelling.addSurrogate_sheet entity.key sheet entity made property

theorem describeAssociation_mirrors (entity : Entity) (association : Member) (partOfKey : Bool) :
    Mirrors (relabelling.sheet entity.key) (relabelling.navigation entity.key)
      (describeAssociation scope entity association partOfKey)
      (describeAssociation (scope.under other) entity association partOfKey) := by
  have sameNames : (scope.under other).collectionKeyNames = scope.collectionKeyNames := rfl
  simp only [describeAssociation, sameNames]
  refine .bind .decided_self fun related => .bind .decided_self fun columns => ?_
  simp only [id]
  split
  · refine .bind .decided_self fun names => ?_
    rw [navigation_under relabels]
    exact .pure
  · exact describeReference_mirrors relabels entity association partOfKey related columns

theorem describeKeyParts_mirrors (entity : Entity) (inherited : List (Option String))
    (position : Nat) (parts : List Member) :
    Mirrors (relabelling.sheet entity.key) (List.map (relabelling.navigation entity.key))
      (describeKeyParts scope entity inherited position parts)
      (describeKeyParts (scope.under other) entity inherited position parts) := by
  induction parts generalizing position with
  | nil => exact .pure
  | cons part rest ih =>
      simp only [describeKeyParts]
      split
      · exact ih position
      · split
        · exact .bind (describeAssociation_mirrors relabels entity part true) fun _ =>
            .bind (ih position) fun _ => .pure
        · refine .bind (.onDraft (draftKey_mirrors relabels entity part part.nullable))
            fun property => ?_
          exact .bind (.changes fun sheet =>
            relabelling.insertProperty_sheet entity.key sheet position property)
              fun _ => ih (position + 1)

theorem describeIdentifier_mirrors (entity : Entity) (inherited : List (Option String)) :
    Mirrors (relabelling.sheet entity.key) (List.map (relabelling.navigation entity.key))
      (describeIdentifier scope entity inherited)
      (describeIdentifier (scope.under other) entity inherited) := by
  unfold describeIdentifier
  split
  · exact .pure
  · exact describeKeyParts_mirrors relabels entity inherited 0 _
  · split
    · refine .bind (.onDraft (draftKey_mirrors relabels entity _ false)) fun property => ?_
      exact .bind (.changes fun sheet =>
        relabelling.insertProperty_sheet entity.key sheet 0 property) fun _ => .pure
    · exact .pure

theorem describeAssociations_mirrors (entity : Entity) (inherited : List (Option String))
    (members : List Member) :
    Mirrors (relabelling.sheet entity.key) (List.map (relabelling.navigation entity.key))
      (describeAssociations scope entity inherited members)
      (describeAssociations (scope.under other) entity inherited members) := by
  induction members with
  | nil => exact .pure
  | cons member rest ih =>
      simp only [describeAssociations, ignored_under relabels]
      split
      · exact ih
      · split
        · exact .bind (.onDraft (.changes fun draft => rfl)) fun _ => ih
        · split
          · exact ih
          · exact .bind (describeAssociation_mirrors relabels entity member false) fun _ =>
              .bind ih fun _ => .pure

/-! ## Entities -/

theorem describeMembers_mirrors {entity : Entity}
    (customs : customProperties (scope.under other) entity =
      (customProperties scope entity).map (relabelling.property entity.key)) :
    Mirrors (relabelling.sheet entity.key) (List.map (relabelling.navigation entity.key))
      (describeMembers scope entity) (describeMembers (scope.under other) entity) := by
  have sameNames : (scope.under other).inheritedNames entity = scope.inheritedNames entity := rfl
  simp only [describeMembers, sameNames, customs]
  refine .bind (.onDraft (draftMembers_mirrors relabels ..)) fun properties => ?_
  refine .bind (.changes fun sheet => rfl) fun _ => ?_
  refine .bind (describeIdentifier_mirrors relabels ..) fun keyNavigations => ?_
  refine .bind (.changes fun sheet => ?_) fun _ => ?_
  · simp only [Relabelling.sheet, List.map_append]
  · refine .bind (describeAssociations_mirrors relabels ..) fun navigations => ?_
    rw [← List.map_append]
    exact .pure

theorem describeEntity_mirrors {entity : Entity}
    (customs : customProperties (scope.under other) entity =
      (customProperties scope entity).map (relabelling.property entity.key)) :
    Mirrors relabelling.draft
      (Prod.map (List.map (relabelling.property entity.key))
        (List.map (relabelling.navigation entity.key)))
      (describeEntity scope entity) (describeEntity (scope.under other) entity) := by
  constructor
  intro draft
  have described := (describeMembers_mirrors relabels customs).run { draft }
  simp only [Relabelling.sheet, List.map_nil] at described
  simp only [describeEntity, described]
  cases describeMembers scope entity { draft } <;> rfl

theorem publishEntity_mirrors {entity : Entity} (resource : Option String)
    (customs : customProperties (scope.under other) entity =
      (customProperties scope entity).map (relabelling.property entity.key)) :
    Mirrors relabelling.draft id (publishEntity scope resource entity)
      (publishEntity (scope.under other) resource entity) := by
  have described : Mirrors relabelling.draft id
      (describeEntity scope entity >>= fun described =>
        modify (·.closeEntityType entity.key described.1 described.2) : Drafting Unit)
      (describeEntity (scope.under other) entity >>= fun described =>
        modify (·.closeEntityType entity.key described.1 described.2)) :=
    .bind (describeEntity_mirrors relabels customs) fun described =>
      .changes fun draft =>
        relabelling.closeEntityType_draft draft entity.key described.1 described.2
  refine .bind (openEntityType_mirrors (scope.entityType entity resource)) fun _ => ?_
  cases resource with
  | none =>
      have refused : Mirrors relabelling.draft id (throw .wordlessName : Drafting Unit)
        (throw .wordlessName) := .throw
      exact .bind refused fun _ => described
  | some resource => exact .bind (nameResource_mirrors resource entity.key) fun _ => described

theorem publishEntities_mirrors (resourceName : TypeExpr → Option String)
    {entities : List Entity}
    (customs : ∀ entity ∈ entities, customProperties (scope.under other) entity =
      (customProperties scope entity).map (relabelling.property entity.key)) :
    Mirrors relabelling.draft id (publishEntities scope resourceName entities)
      (publishEntities (scope.under other) resourceName entities) := by
  induction entities with
  | nil => exact .pure
  | cons entity rest ih =>
      rw [List.forall_mem_cons] at customs
      exact .bind (publishEntity_mirrors relabels _ customs.1) fun _ => ih customs.2

end Steps

/-- **Builds under other names.** Where overrides differ in a relabelling only, which custom members
follow, the builds do: they give the same edition up to the relabelling, or the same refusal. -/
theorem build_relabelled {catalogue : Catalogue} {options : BuildOptions} {other : Overrides}
    {relabelling : Relabelling} (relabels : options.overrides.Relabels other relabelling)
    (resources : ∀ type,
      (other.ofType type).resourceName = (options.overrides.ofType type).resourceName)
    (customs : ∀ entity ∈ options.participants catalogue,
      customProperties ((options.scope catalogue).under other) entity =
        (customProperties (options.scope catalogue) entity).map
          (relabelling.property entity.key)) :
    build catalogue { options with overrides := other } =
      (build catalogue options).map relabelling.edition := by
  have sameNames : BuildOptions.resourceName { options with overrides := other } =
      options.resourceName := by
    funext type
    simp only [BuildOptions.resourceName, resources]
  have sameParticipants : BuildOptions.participants { options with overrides := other } catalogue =
      options.participants catalogue := rfl
  have sameScope : BuildOptions.scope { options with overrides := other } catalogue =
      (options.scope catalogue).under other := rfl
  have mirrored := (publishEntities_mirrors relabels options.resourceName customs).run {}
  have empty : relabelling.draft {} = {} := rfl
  rw [empty] at mirrored
  simp only [build, sameNames, sameParticipants, sameScope, mirrored]
  cases publishEntities (options.scope catalogue) options.resourceName
      (options.participants catalogue) {} with
  | error error draft => rfl
  | ok value draft =>
      simp only [Except.map, relabelling.document_draft]
      rfl

end EntityAtlas

import EntityAtlas.Build
import EntityAtlas.Proofs.Hierarchy
import EntityAtlas.Proofs.MappedColumns
import EntityAtlas.Proofs.NestedTypes

/-!
# Builds over changed column names

What becomes of a build when the column names of its catalogue are changed. Hierarchies, names and
embedded types do not read column names at all. Foreign keys do, but only after the quotes are
off, so a faithful change leaves the whole build alone (`build_mapColumns`).
-/

set_option autoImplicit false

namespace EntityAtlas

open ColumnName (unquote)

/-! ## Catalogues -/

/-- A catalogue with every column name changed. -/
def Catalogue.mapColumns (change : String → String) (catalogue : Catalogue) : Catalogue :=
  { entities := catalogue.entities.map (Entity.mapColumns change) }

namespace Catalogue

variable (change : String → String) (catalogue : Catalogue)

@[simp]
theorem find?_mapColumns (key : String) :
    (catalogue.mapColumns change).find? key =
      (catalogue.find? key).map (Entity.mapColumns change) := by
  simp [find?, mapColumns, ← List.map_reverse, List.find?_map, Function.comp_def]

theorem next?_mapColumns (admits : String → Bool) (seen : List String) (entity : Entity) :
    (catalogue.mapColumns change).next? admits seen (entity.mapColumns change) =
      (catalogue.next? admits seen entity).map (Entity.mapColumns change) := by
  have parents : (catalogue.mapColumns change).parent? (entity.mapColumns change) =
      (catalogue.parent? entity).map (Entity.mapColumns change) := by
    rw [parent?, parent?, Option.map_bind]
    exact Option.bind_congr fun base _ => find?_mapColumns change catalogue base.key
  rw [next?, parents, Option.filter_map]
  rfl

theorem lineageFrom_mapColumns (admits : String → Bool) (seen : List String) (entity : Entity) :
    (catalogue.mapColumns change).lineageFrom admits seen (entity.mapColumns change) =
      (catalogue.lineageFrom admits seen entity).map (Entity.mapColumns change) := by
  induction seen, entity using catalogue.walk_induction admits with
  | step seen entity ih =>
      rw [lineageFrom_eq, lineageFrom_eq, next?_mapColumns]
      cases next : catalogue.next? admits seen entity with
      | none => rfl
      | some parent =>
          simp only [Option.map_some, Entity.key_mapColumns, ih parent next, List.map_cons]

theorem superclassKeysFrom_mapColumns (seen : List String) (entity : Entity) :
    (catalogue.mapColumns change).superclassKeysFrom seen (entity.mapColumns change) =
      catalogue.superclassKeysFrom seen entity := by
  have sameBase : (entity.mapColumns change).superclass = entity.superclass := rfl
  induction seen, entity using superclassKeysFrom.induct catalogue with
  | case1 seen entity based => simp only [superclassKeysFrom_eq, sameBase, based]
  | case2 seen entity base based met =>
      simp only [superclassKeysFrom_eq, sameBase, based, met, ↓reduceIte]
  | case3 seen entity base based fresh ih =>
      simp only [superclassKeysFrom_eq _ _ (entity.mapColumns change),
        superclassKeysFrom_eq _ _ entity, sameBase, based, fresh, find?_mapColumns]
      cases found : catalogue.find? base.key with
      | none => rfl
      | some parent => simp only [Option.map_some, ih parent found rfl]

@[simp]
theorem superclassKeys_mapColumns (key : String) :
    (catalogue.mapColumns change).superclassKeys key = catalogue.superclassKeys key := by
  simp only [superclassKeys, find?_mapColumns]
  cases catalogue.find? key with
  | none => rfl
  | some entity => exact superclassKeysFrom_mapColumns ..

end Catalogue

/-! ## Scopes -/

/-- A scope with every column name of its catalogue changed. -/
def Scope.mapColumns (change : String → String) (scope : Scope) : Scope :=
  { scope with catalogue := scope.catalogue.mapColumns change }

namespace Scope

variable (change : String → String) (scope : Scope) (entity : Entity)

@[simp]
theorem overrides_mapColumns : (scope.mapColumns change).overrides = scope.overrides := rfl

@[simp]
theorem found_mapColumns (key : String) :
    (scope.mapColumns change).catalogue.find? key =
      (scope.catalogue.find? key).map (Entity.mapColumns change) :=
  Catalogue.find?_mapColumns ..

@[simp]
theorem includes_mapColumns : (scope.mapColumns change).includes = scope.includes := by
  funext key
  simp [includes, mapColumns]

theorem ancestors_mapColumns (participating : Bool) :
    (scope.mapColumns change).ancestors participating (entity.mapColumns change) =
      (scope.ancestors participating entity).map (Entity.mapColumns change) := by
  rw [ancestors, includes_mapColumns]
  exact Catalogue.lineageFrom_mapColumns ..

@[simp]
theorem inheritedNames_mapColumns :
    (scope.mapColumns change).inheritedNames (entity.mapColumns change) =
      scope.inheritedNames entity := by
  simp [inheritedNames, ancestors_mapColumns, List.flatMap_map]

theorem declarer_mapColumns (name : Option String) :
    (scope.mapColumns change).declarer (entity.mapColumns change) name =
      (scope.declarer entity name).mapColumns change := by
  simp only [declarer, ancestors_mapColumns, List.takeWhile_map, Function.comp_def,
    Entity.declares_mapColumns, List.getLast?_map]
  cases ((scope.ancestors false entity).takeWhile (·.declares name)).getLast? <;> rfl

@[simp]
theorem associationTypeName_mapColumns (related : TypeExpr) (name : Option String) :
    (scope.mapColumns change).associationTypeName related name =
      scope.associationTypeName related name := by
  rw [associationTypeName, associationTypeName, found_mapColumns]
  cases scope.catalogue.find? related.key with
  | none => rfl
  | some related =>
      simp only [Option.map_some, Entity.declares_mapColumns, declarer_mapColumns]
      rfl

theorem navigation_mapColumns (association : Member) (related : TypeExpr)
    (columns : List String) :
    (scope.mapColumns change).navigation (entity.mapColumns change)
        (association.mapColumns change) related columns =
      scope.navigation entity association related columns := by
  simp only [navigation, Member.name_mapColumns, Member.isCollection_mapColumns,
    Member.orphanDelete_mapColumns, associationTypeName_mapColumns]
  rfl

theorem entityType_mapColumns (resource : Option String) :
    (scope.mapColumns change).entityType (entity.mapColumns change) resource =
      scope.entityType entity resource := by
  simp only [entityType, includes_mapColumns]
  rfl

theorem surrogateCarrier_mapColumns (association : Member) (related : TypeExpr) (column : String)
    (properties : List DataProperty) :
    (scope.mapColumns change).surrogateCarrier (entity.mapColumns change)
        (association.mapColumns change) related column properties =
      scope.surrogateCarrier entity association related column properties := by
  have identifier : ((scope.mapColumns change).catalogue.find? related.key).bind (·.identifier) =
      ((scope.catalogue.find? related.key).bind (·.identifier)).map (Member.mapColumns change) := by
    simp [Option.map_bind, Option.bind_map, Function.comp_def, Entity.mapColumns]
  simp only [surrogateCarrier, identifier, Member.name_mapColumns, Member.nullable_mapColumns]
  split
  · rfl
  · cases (scope.catalogue.find? related.key).bind (·.identifier) with
    | none => rfl
    | some identifier =>
        simp only [Option.map_some, Member.type_mapColumns, Member.name_mapColumns,
          Member.length_mapColumns]
        rfl

end Scope

/-! ## Foreign keys -/

section Faithful

variable {change : String → String} (faithful : ∀ name, unquote (change name) = unquote name)
  (scope : Scope) (entity : Entity)
include faithful

theorem collectionKeyNames_mapColumns (association : Member) (related : TypeExpr)
    (columns : List String) :
    (scope.mapColumns change).collectionKeyNames (association.mapColumns change) related columns =
      scope.collectionKeyNames association related columns := by
  simp only [Scope.collectionKeyNames, Member.manyToMany_mapColumns,
    Scope.found_mapColumns]
  cases scope.catalogue.find? related.key with
  | none => rfl
  | some element => simp only [Option.map_some, namesOver_mapColumns faithful]

theorem mappedKeyNames_mapColumns (association : Member) (related : TypeExpr)
    (columns : List String) :
    (scope.mapColumns change).mappedKeyNames (entity.mapColumns change)
        (association.mapColumns change) related columns =
      scope.mappedKeyNames entity association related columns := by
  simp only [Scope.mappedKeyNames, Member.keyOnDeclarer_mapColumns, Scope.found_mapColumns,
    namesOver_mapColumns faithful]
  cases association.keyOnDeclarer <;> cases scope.catalogue.find? related.key <;>
    simp only [Option.map_some, Option.map_none, namesOver_mapColumns faithful]

theorem keyCarrier_mapColumns (association : Member) (related : TypeExpr)
    (columns : List String) (properties : List DataProperty) :
    (scope.mapColumns change).keyCarrier (entity.mapColumns change)
        (association.mapColumns change) related columns properties =
      scope.keyCarrier entity association related columns properties := by
  simp only [Scope.keyCarrier, mappedKeyNames_mapColumns faithful,
    Member.keyOnDeclarer_mapColumns, Scope.surrogateCarrier_mapColumns]

end Faithful

/-! ## Data properties -/

section Steps

variable (change : String → String) (scope : Scope)

@[simp]
theorem Scope.scalarProperty_mapColumns (owner : TypeExpr) (member : Member) (isNullable : Bool) :
    (scope.mapColumns change).scalarProperty owner (member.mapColumns change) isNullable =
      scope.scalarProperty owner member isNullable := by
  simp [Scope.scalarProperty]

@[simp]
theorem Scope.embeddedProperty_mapColumns (owner : TypeExpr) (member : Member)
    (complexTypeName : String) :
    (scope.mapColumns change).embeddedProperty owner (member.mapColumns change) complexTypeName =
      scope.embeddedProperty owner member complexTypeName := by
  simp [Scope.embeddedProperty]

@[simp]
theorem draftScalar_mapColumns (owner : TypeExpr) (member : Member) (isNullable : Bool) :
    draftScalar (scope.mapColumns change) owner (member.mapColumns change) isNullable =
      draftScalar scope owner member isNullable := by
  simp [draftScalar, Draft.listEnumerationOf]

theorem publishPart_mapColumns (owner : TypeExpr) {member : Member}
    (inner : ∀ component, member.embedded? = some component →
      publishComponent (scope.mapColumns change) (component.mapColumns change) =
        publishComponent scope component) :
    publishPart (scope.mapColumns change) owner (member.mapColumns change) =
      publishPart scope owner member := by
  have sameKind := member.isAssociation_mapColumns change
  have sameType := member.embedded?_mapColumns change
  cases kind : member.isAssociation with
  | true =>
      rw [publishPart_of_association _ _ kind, publishPart_of_association _ _ (sameKind.trans kind),
        Member.name_mapColumns]
  | false =>
      cases embeds : member.embedded? with
      | none =>
          rw [publishPart_of_scalar _ _ kind embeds,
            publishPart_of_scalar _ _ (sameKind.trans kind) (by simp [embeds]),
            Member.nullable_mapColumns, draftScalar_mapColumns]
      | some component =>
          rw [publishPart_of_embedded _ _ kind embeds,
            publishPart_of_embedded _ _ (sameKind.trans kind) (by simp [embeds]; rfl)]
          simp only [inner component embeds, Scope.embeddedProperty_mapColumns]

theorem publishParts_mapColumns (owner : TypeExpr) {members : List Member}
    (parts : ∀ member ∈ members,
      publishPart (scope.mapColumns change) owner (member.mapColumns change) =
        publishPart scope owner member) :
    publishParts (scope.mapColumns change) owner (members.map (Member.mapColumns change)) =
      publishParts scope owner members := by
  induction members with
  | nil => rfl
  | cons member rest ih =>
      rw [List.forall_mem_cons] at parts
      simp only [List.map_cons, publishParts, parts.1, ih parts.2]

@[simp]
theorem publishComponent_mapColumns (component : Component) :
    publishComponent (scope.mapColumns change) (component.mapColumns change) =
      publishComponent scope component := by
  induction component using Component.induction with
  | step component ih =>
      obtain ⟨type, members⟩ := component
      have parts := publishParts_mapColumns change scope type fun member among =>
        publishPart_mapColumns change scope type (ih member among)
      simp only [Component.mapColumns, mapColumnsAmong_eq_map, publishComponent, parts]

theorem draftMember_mapColumns (entity : Entity) (member : Member) :
    draftMember (scope.mapColumns change) (entity.mapColumns change) (member.mapColumns change) =
      draftMember scope entity member := by
  simp only [draftMember, Member.embedded?_mapColumns]
  cases member.embedded? with
  | none =>
      simp only [Option.map_none, Member.name_mapColumns, Member.nullable_mapColumns,
        draftScalar_mapColumns]
      rfl
  | some component =>
      simp only [Option.map_some, publishComponent_mapColumns, Scope.embeddedProperty_mapColumns]
      rfl

theorem draftMembers_mapColumns (entity : Entity) (inherited : List (Option String))
    (members : List Member) :
    draftMembers (scope.mapColumns change) (entity.mapColumns change) inherited
        (members.map (Member.mapColumns change)) =
      draftMembers scope entity inherited members := by
  induction members with
  | nil => rfl
  | cons member rest ih =>
      simp only [List.map_cons, draftMembers, ih, Member.name_mapColumns,
        Member.isAssociation_mapColumns, draftMember_mapColumns]
      rfl

theorem draftKey_mapColumns (entity : Entity) (part : Member) (isNullable : Bool) :
    draftKey (scope.mapColumns change) (entity.mapColumns change) (part.mapColumns change)
        isNullable =
      draftKey scope entity part isNullable := by
  simp only [draftKey, draftScalar_mapColumns]
  rfl

theorem customProperties_mapColumns (entity : Entity) :
    customProperties (scope.mapColumns change) (entity.mapColumns change) =
      customProperties scope entity := by
  simp only [customProperties, Entity.memberNames_mapColumns, Entity.identifierNames_mapColumns]
  rfl

end Steps

/-! ## Members of an entity -/

section Faithful

variable {change : String → String} (faithful : ∀ name, unquote (change name) = unquote name)
  (scope : Scope) (entity : Entity)
include faithful

theorem describeAssociation_mapColumns (association : Member) (partOfKey : Bool) :
    describeAssociation (scope.mapColumns change) (entity.mapColumns change)
        (association.mapColumns change) partOfKey =
      describeAssociation scope entity association partOfKey := by
  simp only [describeAssociation, describeReference, Entity.relatedType_mapColumns,
    foreignKeyColumns_mapColumns faithful, Member.isCollection_mapColumns,
    collectionKeyNames_mapColumns faithful, keyCarrier_mapColumns faithful,
    Scope.navigation_mapColumns, Member.name_mapColumns, Member.keyOnDeclarer_mapColumns]
  rfl

theorem describeKeyParts_mapColumns (inherited : List (Option String)) (position : Nat)
    (parts : List Member) :
    describeKeyParts (scope.mapColumns change) (entity.mapColumns change) inherited position
        (parts.map (Member.mapColumns change)) =
      describeKeyParts scope entity inherited position parts := by
  induction parts generalizing position with
  | nil => rfl
  | cons part rest ih =>
      simp only [List.map_cons, describeKeyParts, ih, Member.name_mapColumns,
        Member.isAssociation_mapColumns, Member.nullable_mapColumns, draftKey_mapColumns,
        describeAssociation_mapColumns faithful]

theorem describeIdentifier_mapColumns (inherited : List (Option String)) :
    describeIdentifier (scope.mapColumns change) (entity.mapColumns change) inherited =
      describeIdentifier scope entity inherited := by
  have identifier : (entity.mapColumns change).identifier =
      entity.identifier.map (Member.mapColumns change) := rfl
  simp only [describeIdentifier, identifier, Entity.keyParts?_mapColumns]
  cases entity.identifier with
  | none => rfl
  | some identifier =>
      cases entity.keyParts? with
      | none => simp only [Option.map_some, Option.map_none, Member.name_mapColumns,
          draftKey_mapColumns]
      | some parts => exact describeKeyParts_mapColumns faithful ..

theorem describeAssociations_mapColumns (inherited : List (Option String))
    (members : List Member) :
    describeAssociations (scope.mapColumns change) (entity.mapColumns change) inherited
        (members.map (Member.mapColumns change)) =
      describeAssociations scope entity inherited members := by
  induction members with
  | nil => rfl
  | cons member rest ih =>
      simp only [List.map_cons, describeAssociations, ih, Member.name_mapColumns,
        Member.isAssociation_mapColumns, describeAssociation_mapColumns faithful]
      rfl

theorem describeMembers_mapColumns :
    describeMembers (scope.mapColumns change) (entity.mapColumns change) =
      describeMembers scope entity := by
  have members : (entity.mapColumns change).members =
      entity.members.map (Member.mapColumns change) := rfl
  simp only [describeMembers, members, Scope.inheritedNames_mapColumns,
    draftMembers_mapColumns, describeIdentifier_mapColumns faithful, customProperties_mapColumns,
    describeAssociations_mapColumns faithful]

theorem publishEntity_mapColumns (resource : Option String) :
    publishEntity (scope.mapColumns change) resource (entity.mapColumns change) =
      publishEntity scope resource entity := by
  have described : describeEntity (scope.mapColumns change) (entity.mapColumns change) =
      describeEntity scope entity := by
    funext draft
    rw [describeEntity, describeEntity, describeMembers_mapColumns faithful]
  simp only [publishEntity, Scope.entityType_mapColumns, described]
  rfl

theorem publishEntities_mapColumns (resourceName : TypeExpr → Option String)
    (entities : List Entity) :
    publishEntities (scope.mapColumns change) resourceName
        (entities.map (Entity.mapColumns change)) =
      publishEntities scope resourceName entities := by
  induction entities with
  | nil => rfl
  | cons entity rest ih =>
      simp only [List.map_cons, publishEntities, ih, publishEntity_mapColumns faithful]
      rfl

/-- **Faithful changes.** A build does not see a faithful change of column names: it gives the
same edition or the same refusal. -/
theorem build_mapColumns (catalogue : Catalogue) (options : BuildOptions) :
    build (catalogue.mapColumns change) options = build catalogue options := by
  have participants : options.participants (catalogue.mapColumns change) =
      (options.participants catalogue).map (Entity.mapColumns change) := by
    cases accepts : options.accepts with
    | none => simp only [BuildOptions.participants, accepts, Catalogue.mapColumns]
    | some accept =>
        simp only [BuildOptions.participants, accepts, Catalogue.mapColumns, List.filter_map]
        rfl
  have scopes : options.scope (catalogue.mapColumns change) =
      (options.scope catalogue).mapColumns change := by
    simp [BuildOptions.scope, participants, Scope.mapColumns]
  simp only [build, scopes, participants, publishEntities_mapColumns faithful]

end Faithful

end EntityAtlas

import EntityAtlas.Proofs.OneToMany
import EntityAtlas.Proofs.PropertyOrigins

/-!
# What an association leaves behind

Describing an association may add three things to the worksheet of its entity: a surrogate, the data
property that stands for it, and an entry in the index of foreign keys. The first two come together,
and before the third, so they stay behind when the association turns out to be recorded already.
Everything else on the worksheet stays as it was, whether the association is described or refused
(`describeAssociation_extends`); only a part of the key that is described makes data properties part
of the key. A refusal that does not come from recording leaves no trace at all.
-/

set_option autoImplicit false

namespace EntityAtlas

open ColumnName (pascal)

/-! ## Additions -/

/-- A data property afterwards: what it was, or the same made part of the key where keys are
marked. -/
def DataProperty.KeptUpToKey (marks : Bool) (before after : DataProperty) : Prop :=
  after = before ∨ marks = true ∧ after = { before with isPartOfKey := true }

/-- What an association may add to the worksheet of its entity: a surrogate with the data property
that stands for it, and an entry in the index of foreign keys. -/
structure Addition where
  surrogate : Option (Surrogate × DataProperty) := none
  entry : Option (String × String) := none

/-- A worksheet afterwards holds what it held before together with an addition that an association
of an entity makes. Where keys are marked, data properties may have become part of the key. -/
structure Worksheet.ExtendsBy (entity : Entity) (association : Member) (marks : Bool)
    (before : Worksheet) (addition : Addition) (after : Worksheet) : Prop where
  properties : List.Forall₂ (DataProperty.KeptUpToKey marks)
    (before.properties ++ (addition.surrogate.map Prod.snd).toList) after.properties
  /-- The surrogate and its data property are named after the single column of the association. -/
  named : ∀ made property, addition.surrogate = some (made, property) →
    ∃ column, entity.foreignKeyColumns association = .ok [column] ∧ made.name = pascal column ∧
      property.nameOnServer = some (pascal column) ∧ property.isUnmapped = true
  /-- Without a surrogate the table of surrogates stays as it is. -/
  without : addition.surrogate = none → after.draft.surrogates = before.draft.surrogates
  place : ∀ made property, addition.surrogate = some (made, property) →
    after.draft.surrogates.lookup entity.key =
      some ((before.draft.surrogates.lookup entity.key).getD [] ++ [made])
  otherPlaces : ∀ key ≠ entity.key,
    after.draft.surrogates.lookup key = before.draft.surrogates.lookup key
  foreignKeys : after.draft.foreignKeys = before.draft.foreignKeys ++ addition.entry.toList
  /-- The entry bears the name of the association, under which nothing was recorded before. -/
  recorded : ∀ entry, addition.entry = some entry →
    entry.1 = relationshipName entity.type association.name ∧
      before.draft.foreignKeys.lookup entry.1 = none ∧
      ∃ columns, entity.foreignKeyColumns association = .ok columns ∧
        entry.2 = ",".intercalate columns
  complexTypes : after.draft.complexTypes = before.draft.complexTypes
  entityTypes : after.draft.entityTypes = before.draft.entityTypes
  resources : after.draft.resources = before.draft.resources
  enumTypes : after.draft.enumTypes = before.draft.enumTypes

/-- Whether an association was refused when its columns were to be recorded, after everything about
it had been settled. -/
def BuildError.isOfRecording : BuildError → Bool
  | .duplicateForeignKey .. => true
  | .unresolvedForeignKey .. => true
  | _ => false

/-! ## Marks -/

namespace DataProperty.KeptUpToKey

theorem refl (marks : Bool) (property : DataProperty) : property.KeptUpToKey marks property :=
  .inl rfl

theorem trans {marks : Bool} {first second third : DataProperty}
    (earlier : first.KeptUpToKey marks second) (later : second.KeptUpToKey marks third) :
    first.KeptUpToKey marks third := by
  rcases later with rfl | ⟨allowed, rfl⟩
  · exact earlier
  · rcases earlier with rfl | ⟨-, rfl⟩
    · exact .inr ⟨allowed, rfl⟩
    · exact .inr ⟨allowed, rfl⟩

end DataProperty.KeptUpToKey

theorem keptUpToKey_self (marks : Bool) (properties : List DataProperty) :
    List.Forall₂ (DataProperty.KeptUpToKey marks) properties properties :=
  List.forall₂_same.mpr fun property _ => .refl marks property

theorem markKey_keptUpToKey (names : List (Option String)) (properties : List DataProperty) :
    List.Forall₂ (DataProperty.KeptUpToKey true) properties
      (names.foldl (fun properties name => withKeyPart name properties) properties) :=
  (foldl_markedBy (List.Subset.refl names) properties).imp fun _ _ marked =>
    marked.imp_right fun ⟨_, same⟩ => ⟨rfl, same⟩

/-! ## Steps -/

/-- The surrogate that a carrier makes, with its data property. -/
def KeyCarrier.made? : KeyCarrier → Option (Surrogate × DataProperty)
  | .surrogate made property => some (made, property)
  | _ => none

/-- The worksheet with the surrogate that a carrier makes. -/
def Worksheet.carrying (sheet : Worksheet) (entity : Entity) : KeyCarrier → Worksheet
  | .surrogate made property => sheet.addSurrogate entity made property
  | _ => sheet

/-- The worksheet with an entry in the index of foreign keys. -/
def Worksheet.recording (sheet : Worksheet) (entry : String × String) : Worksheet :=
  { sheet with
    draft := { sheet.draft with foreignKeys := sheet.draft.foreignKeys ++ [entry] } }

namespace Worksheet.ExtendsBy

variable {entity : Entity} {association : Member} {marks : Bool} {before between : Worksheet}
  {surrogate : Option (Surrogate × DataProperty)}

/-- Nothing is added. -/
theorem nothing (entity : Entity) (association : Member) (marks : Bool) (sheet : Worksheet) :
    sheet.ExtendsBy entity association marks {} sheet where
  properties := by
    simpa using keptUpToKey_self marks sheet.properties
  named _ _ none := by cases none
  without _ := rfl
  place _ _ none := by cases none
  otherPlaces _ _ := rfl
  foreignKeys := by simp
  recorded _ none := by cases none
  complexTypes := rfl
  entityTypes := rfl
  resources := rfl
  enumTypes := rfl

/-- Where nothing may be marked, less is allowed. -/
theorem unmarked {addition : Addition} {after : Worksheet}
    (extended : before.ExtendsBy entity association false addition after) (marks : Bool) :
    before.ExtendsBy entity association marks addition after where
  properties := extended.properties.imp fun property later kept => by
    rcases kept with same | ⟨allowed, -⟩
    · exact .inl same
    · cases allowed
  named := extended.named
  without := extended.without
  place := extended.place
  otherPlaces := extended.otherPlaces
  foreignKeys := extended.foreignKeys
  recorded := extended.recorded
  complexTypes := extended.complexTypes
  entityTypes := extended.entityTypes
  resources := extended.resources
  enumTypes := extended.enumTypes

/-- A carrier adds the surrogate that it makes. -/
theorem carrying {scope : Scope} {related : TypeExpr} {columns : List String}
    {carrier : KeyCarrier} (read : entity.foreignKeyColumns association = .ok columns)
    (settled : scope.keyCarrier entity association related columns before.properties =
      .ok carrier) :
    before.ExtendsBy entity association false { surrogate := carrier.made? }
      (before.carrying entity carrier) := by
  cases carrier with
  | members names => exact nothing entity association false before
  | nothing => exact nothing entity association false before
  | surrogate made property =>
      obtain ⟨column, rfl, named, shows, unmapped⟩ : ∃ column, columns = [column] ∧
          made.name = pascal column ∧ property.Shows made ∧ property.isUnmapped = true := by
        rcases keyCarrier_ok settled with ⟨_, -, same⟩ |
          ⟨-, ⟨column, single, -, carried⟩ | ⟨_, -, -, same⟩ | same⟩
        · cases same
        · rcases surrogateCarrier_makes carried with ⟨same, -⟩ |
            ⟨_, _, same, -, named, -, -, shows, unmapped⟩
          · cases same
          · cases same
            exact ⟨column, single, named, shows, unmapped⟩
        · cases same
        · cases same
      constructor
      case properties => exact keptUpToKey_self false _
      case named =>
        rintro _ _ ⟨⟩
        exact ⟨column, read, named, named ▸ shows.named, unmapped⟩
      case without => exact fun none => by cases none
      case place =>
        rintro _ _ ⟨⟩
        exact Draft.lookup_surrogates_addSurrogate before.draft entity.type made
      case otherPlaces =>
        intro key other
        exact Keyed.lookup_update_of_ne other [] _ before.draft.surrogates
      case foreignKeys => exact (List.append_nil _).symm
      case recorded => exact fun _ none => by cases none
      all_goals rfl

/-- An association that has not been recorded is recorded under its name. -/
theorem recording {columns : List String}
    (extended : before.ExtendsBy entity association false { surrogate } between)
    (read : entity.foreignKeyColumns association = .ok columns)
    (fresh : between.draft.foreignKeys.lookup (relationshipName entity.type association.name) =
      none) :
    before.ExtendsBy entity association false
      { surrogate
        entry := some (relationshipName entity.type association.name, ",".intercalate columns) }
      (between.recording
        (relationshipName entity.type association.name, ",".intercalate columns)) where
  properties := extended.properties
  named := extended.named
  without := extended.without
  place := extended.place
  otherPlaces := extended.otherPlaces
  foreignKeys := by
    have same := extended.foreignKeys
    rw [Option.toList_none, List.append_nil] at same
    exact congrArg (· ++ [_]) same
  recorded := by
    have same := extended.foreignKeys
    rw [Option.toList_none, List.append_nil] at same
    rintro _ ⟨⟩
    exact ⟨rfl, same ▸ fresh, columns, read, rfl⟩
  complexTypes := extended.complexTypes
  entityTypes := extended.entityTypes
  resources := extended.resources
  enumTypes := extended.enumTypes

/-- Marking data properties as part of the key changes nothing else. -/
theorem marking {addition : Addition}
    (extended : before.ExtendsBy entity association false addition between)
    (names : List (Option String)) :
    before.ExtendsBy entity association true addition (between.markKey names) :=
  { extended.unmarked true with
    properties := forall₂_trans .trans (extended.unmarked true).properties
      (markKey_keptUpToKey names between.properties) }

end Worksheet.ExtendsBy

/-! ## Associations -/

/-- What describing an association of an entity may have done to a worksheet. One that is described
extends it, and so does one that is refused, without marks. Only a refusal as the association is
recorded leaves anything behind. -/
def Worksheet.Spares (before : Worksheet) (entity : Entity) (association : Member)
    (partOfKey : Bool) : EStateM.Result BuildError Worksheet NavigationProperty → Prop
  | .ok _ after => ∃ addition, before.ExtendsBy entity association partOfKey addition after
  | .error error after =>
    (∃ addition, before.ExtendsBy entity association false addition after) ∧
      (error.isOfRecording = false → after = before)

/-- The worksheet that a run leaves, whether it succeeds or not. -/
def sheetAfter {α : Type} : EStateM.Result BuildError Worksheet α → Worksheet
  | .ok _ sheet => sheet
  | .error _ sheet => sheet

section Associations

variable {scope : Scope} {entity : Entity} {association : Member} {partOfKey : Bool}

theorem sheet_get (sheet : Worksheet) : (get : Describing Worksheet) sheet = .ok sheet sheet := rfl

theorem sheet_modify (change : Worksheet → Worksheet) (sheet : Worksheet) :
    (modify change : Describing Unit) sheet = .ok () (change sheet) := rfl

/-- An association is recorded, unless it has been before. -/
theorem recordForeignKey_sheet (relationship : String) (columns : List String)
    (sheet : Worksheet) :
    onDraft (Draft.recordForeignKey relationship columns) sheet =
      if (sheet.draft.foreignKeys.lookup relationship).isSome then
        .error (.duplicateForeignKey relationship (columns.map some)) sheet
      else .ok () (sheet.recording (relationship, ",".intercalate columns)) := by
  rw [onDraft, Draft.recordForeignKey_apply]
  cases (sheet.draft.foreignKeys.lookup relationship).isSome <;> rfl

theorem foreignKeys_addSurrogate (sheet : Worksheet) (entity : Entity) (made : Surrogate)
    (property : DataProperty) :
    (sheet.addSurrogate entity made property).draft.foreignKeys = sheet.draft.foreignKeys := rfl

/-- Describing an association to one entity settles its carrier, adds the surrogate, records the
columns, and then refuses what has no carrier and marks what is part of the key. -/
theorem describeReference_apply (related : TypeExpr) (columns : List String) (sheet : Worksheet) :
    describeReference scope entity association partOfKey related columns sheet =
      match scope.keyCarrier entity association related columns sheet.properties with
      | .error error => .error error sheet
      | .ok carrier =>
        let relationship := relationshipName entity.type association.name
        let carried := sheet.carrying entity carrier
        if (sheet.draft.foreignKeys.lookup relationship).isSome then
          .error (.duplicateForeignKey relationship (columns.map some)) carried
        else
          let recorded := carried.recording (relationship, ",".intercalate columns)
          match carrier with
          | .nothing =>
            .error (.unresolvedForeignKey entity.type association.name columns) recorded
          | _ =>
            .ok ((scope.navigation entity association related columns).withKeyNames
              association.keyOnDeclarer carrier.names)
              (if partOfKey then recorded.markKey carrier.names else recorded) := by
  cases settled : scope.keyCarrier entity association related columns sheet.properties with
  | error error =>
      simp only [describeReference, bind, EStateM.bind, sheet_get, settled, decided_error]
  | ok carrier =>
      cases recorded : (sheet.draft.foreignKeys.lookup
          (relationshipName entity.type association.name)).isSome <;>
        cases carrier <;>
          simp only [describeReference, bind, EStateM.bind, sheet_get, sheet_modify, settled,
            decided_ok, recordForeignKey_sheet, foreignKeys_addSurrogate, recorded, ↓reduceIte,
            Bool.false_eq_true, Worksheet.carrying] <;>
          cases partOfKey <;> rfl

/-- A refusal before anything is done leaves the worksheet alone. -/
theorem spares_error (error : BuildError) (sheet : Worksheet) :
    sheet.Spares entity association partOfKey (.error error sheet) :=
  ⟨⟨{}, .nothing entity association false sheet⟩, fun _ => rfl⟩

theorem describeReference_spares {related : TypeExpr} {columns : List String}
    (read : entity.foreignKeyColumns association = .ok columns) (sheet : Worksheet) :
    sheet.Spares entity association partOfKey
      (describeReference scope entity association partOfKey related columns sheet) := by
  rw [describeReference_apply]
  cases settled : scope.keyCarrier entity association related columns sheet.properties with
  | error error => exact spares_error error sheet
  | ok carrier =>
      have carried : sheet.ExtendsBy entity association false { surrogate := carrier.made? }
          (sheet.carrying entity carrier) := .carrying read settled
      simp only
      split
      next => exact ⟨⟨_, carried⟩, fun other => by cases other⟩
      next fresh =>
        have unrecorded : (sheet.carrying entity carrier).draft.foreignKeys.lookup
            (relationshipName entity.type association.name) = none := by
          have same := carried.foreignKeys
          rw [Option.toList_none, List.append_nil] at same
          rw [same]
          exact Option.not_isSome_iff_eq_none.mp fresh
        have recorded := carried.recording read unrecorded
        cases carrier with
        | nothing => exact ⟨⟨_, recorded⟩, fun other => by cases other⟩
        | members names =>
            cases partOfKey with
            | false => exact ⟨_, recorded⟩
            | true => exact ⟨_, recorded.marking _⟩
        | surrogate made property =>
            cases partOfKey with
            | false => exact ⟨_, recorded⟩
            | true => exact ⟨_, recorded.marking _⟩

/-- **What an association leaves behind.** On every worksheet describing an association adds at most
a surrogate of its entity together with the data property that stands for it, and an entry under its
own name in the index of foreign keys, whether it is described or refused. Nothing else changes,
except that a part of the key may make data properties part of the key. A collection changes nothing
at all, and nor does a refusal that comes before recording. -/
theorem describeAssociation_extends (scope : Scope) (entity : Entity) (association : Member)
    (partOfKey : Bool) (before : Worksheet) :
    before.Spares entity association partOfKey
        (describeAssociation scope entity association partOfKey before) ∧
      (association.isCollection = true →
        sheetAfter (describeAssociation scope entity association partOfKey before) = before) := by
  unfold describeAssociation
  cases leads : entity.relatedType association with
  | error error => exact ⟨spares_error error before, fun _ => rfl⟩
  | ok related =>
      cases read : entity.foreignKeyColumns association with
      | error error => exact ⟨spares_error error before, fun _ => rfl⟩
      | ok columns =>
          simp only [bind, EStateM.bind, decided_ok]
          cases collection : association.isCollection with
          | false => exact ⟨describeReference_spares read before, fun other => by cases other⟩
          | true =>
              cases found : scope.collectionKeyNames association related columns with
              | error error => exact ⟨spares_error error before, fun _ => rfl⟩
              | ok names =>
                  exact ⟨⟨{}, .nothing entity association partOfKey before⟩, fun _ => rfl⟩

end Associations

/-! ## Orders with a customer -/

namespace Shop

/-- The customer of an order. -/
def orderCustomer : Member := toOne "Customer" "Customer" "customer_id"

/-- The orders of a customer. -/
def customerOrders : Member := toMany "Orders" "Order" "customer_id"

/-- A worksheet on which the customer of orders is recorded already. -/
def recordedSheet : Worksheet :=
  { draft := { foreignKeys := [(relationshipName order.type (some "Customer"), "customer_id")] } }

/-- Describing the customer of orders as a part of their key. -/
def describeOrderCustomer (sheet : Worksheet) :
    EStateM.Result BuildError Worksheet NavigationProperty :=
  describeAssociation (Sample.options.scope catalogue) order orderCustomer true sheet

/-- Describing the orders of customers. -/
def describeCustomerOrders (sheet : Worksheet) :
    EStateM.Result BuildError Worksheet NavigationProperty :=
  describeAssociation (Sample.options.scope catalogue) customer customerOrders false sheet

/-- The referrer of an order, whose type is not mapped. -/
def orderReferrer : Member := toOne "Referrer" "Person" "referrer_id"

/-- Describing the referrer of orders. -/
def describeOrderReferrer (sheet : Worksheet) :
    EStateM.Result BuildError Worksheet NavigationProperty :=
  describeAssociation (Sample.options.scope catalogue) order orderReferrer false sheet

end Shop

/-- The customer of orders leaves a surrogate behind, which becomes part of the key unless the
customer is recorded already. The orders of customers leave nothing behind, and nor does a referrer
whose type is not mapped. -/
theorem describeAssociation_extends_order :
    (({} : Worksheet).Spares Shop.order Shop.orderCustomer true
        (Shop.describeOrderCustomer {}) ∧
      (sheetAfter (Shop.describeOrderCustomer {})).properties.map
        (fun property => (property.nameOnServer, property.isPartOfKey)) =
          [(some "CustomerId", true)]) ∧
    (Shop.recordedSheet.Spares Shop.order Shop.orderCustomer true
        (Shop.describeOrderCustomer Shop.recordedSheet) ∧
      (sheetAfter (Shop.describeOrderCustomer Shop.recordedSheet)).properties.map
        (fun property => (property.nameOnServer, property.isPartOfKey)) =
          [(some "CustomerId", false)]) ∧
    (Shop.customerOrders.isCollection = true ∧
      sheetAfter (Shop.describeCustomerOrders Shop.recordedSheet) = Shop.recordedSheet) ∧
    ∃ error after, Shop.describeOrderReferrer Shop.recordedSheet = .error error after ∧
      error.isOfRecording = false ∧ after = Shop.recordedSheet := by
  have customer := describeAssociation_extends (Sample.options.scope Shop.catalogue) Shop.order
    Shop.orderCustomer true
  have orders := describeAssociation_extends (Sample.options.scope Shop.catalogue) Shop.customer
    Shop.customerOrders false Shop.recordedSheet
  have referrer : Shop.recordedSheet.Spares Shop.order Shop.orderReferrer false
      (Shop.describeOrderReferrer Shop.recordedSheet) :=
    (describeAssociation_extends _ Shop.order Shop.orderReferrer false Shop.recordedSheet).1
  have early : (match Shop.describeOrderReferrer Shop.recordedSheet with
      | .ok _ _ => true
      | .error error _ => error.isOfRecording) = false := by decide +kernel
  refine ⟨⟨(customer {}).1, by decide +kernel⟩,
    ⟨(customer Shop.recordedSheet).1, by decide +kernel⟩, ⟨rfl, orders.2 rfl⟩, ?_⟩
  cases run : Shop.describeOrderReferrer Shop.recordedSheet with
  | ok navigation after =>
      rw [run] at early
      cases early
  | error error after =>
      rw [run] at early referrer
      exact ⟨error, after, rfl, early, referrer.2 early⟩

end EntityAtlas

import EntityAtlas.Proofs.SurrogateMembers

/-!
# One-to-one relationships

The two ends of a one-to-one relationship name the members that carry its key, each on its own. The
end with the key looks among its own members and otherwise takes the name of the surrogate
(`names_onDeclarer`). The other end looks over there first, then among its own members, and only
then guesses the surrogate (`names_onOtherEnd`). So the two agree unless members of the end without
the key carry columns of the same names and those of the end with the key do not
(`build_oneToOne`).
-/

set_option autoImplicit false

namespace EntityAtlas

open ColumnName (pascal)

/-! ## The two ends -/

/-- Two associations to one entity are the ends of a relationship: the key lies with the bearer, in
the same columns that the association of the other entity refers to. -/
structure OneToOne (other : Entity) (inverse : Member) (bearer : Entity) (reference : Member) :
    Prop where
  inverseOne : inverse.isCollection = false
  referenceOne : reference.isCollection = false
  elsewhere : inverse.keyOnDeclarer = false
  here : reference.keyOnDeclarer = true
  forth : inverse.type.key = bearer.key
  back : reference.type.key = other.key
  columns : inverse.referencedColumns = reference.columns
  mapped : startsWithColumn reference.columns = true

/-- An association of an entity is published as a navigation property: one stands among the
associations where the other stands on the entity type. -/
def Scope.PublishesAs (scope : Scope) (document : Document) (entity : Entity)
    (association : Member) (navigation : NavigationProperty) : Prop :=
  ∃ type, document.type? entity.key = some type ∧
    (association, navigation) ∈
      (scope.keyLinks entity ++ scope.linkMembers entity).zip type.navigationProperties

/-- Both ends read the same columns. -/
theorem OneToOne.foreignKeyColumns_eq {other bearer : Entity} {inverse reference : Member}
    (ends : OneToOne other inverse bearer reference) :
    other.foreignKeyColumns inverse = bearer.foreignKeyColumns reference := by
  have ownInverse : inverse.ownColumns = reference.columns := by
    simp [Member.ownColumns, ends.elsewhere, ends.columns]
  have ownReference : reference.ownColumns = reference.columns := by
    simp [Member.ownColumns, ends.here, ends.referenceOne]
  rw [Entity.foreignKeyColumns, Entity.foreignKeyColumns,
    mappedColumns_of_startsWithColumn other (ownInverse ▸ ends.mapped),
    mappedColumns_of_startsWithColumn bearer (ownReference ▸ ends.mapped), ownInverse, ownReference]

/-! ## The names at each end -/

section Names

variable {scope : Scope} {entity : Entity} {association : Member} {columns : List String}
  {properties : List DataProperty} {resolution : Resolution}

/-- What an association to one entity comes to: a carrier over its columns, which it names. -/
theorem carrier_of_resolution (one : association.isCollection = false)
    (read : entity.foreignKeyColumns association = .ok columns)
    (comes : scope.resolution entity association properties = .ok resolution) :
    scope.keyCarrier entity association association.type columns properties =
        .ok resolution.carrier ∧
      resolution.navigation =
        (scope.navigation entity association association.type columns).withKeyNames
          association.keyOnDeclarer resolution.carrier.names := by
  obtain ⟨related, given, leads, mapped, ⟨collection, -⟩ | ⟨-, carrier, settled, rfl⟩⟩ :=
    resolution_ok comes
  · rw [one] at collection
    cases collection
  · rw [relatedType_of_one one] at leads
    rw [read] at mapped
    cases leads
    cases mapped
    exact ⟨settled, rfl⟩

theorem names_of_surrogateCarrier {column : String} {related : TypeExpr} {carrier : KeyCarrier}
    (settled : scope.surrogateCarrier entity association related column properties = .ok carrier) :
    carrier.names = [some (pascal column)] := by
  rcases surrogateCarrier_makes settled with ⟨rfl, -⟩ | ⟨made, _, rfl, -, named, -⟩
  · rfl
  · rw [← named]
    rfl

/-- **The end with the key.** It names its own members over the columns, or the surrogate of the one
column. -/
theorem names_onDeclarer (one : association.isCollection = false)
    (onDeclarer : association.keyOnDeclarer = true)
    (read : entity.foreignKeyColumns association = .ok columns)
    (comes : scope.resolution entity association properties = .ok resolution) :
    ∃ names, resolution.navigation.foreignKeyNames = some names ∧
      (entity.namesOver (columns.map some) true = .ok (some names) ∨
        entity.namesOver (columns.map some) true = .ok none ∧
          ∃ column, columns = [column] ∧ names = [some (pascal column)]) := by
  obtain ⟨settled, shown⟩ := carrier_of_resolution one read comes
  refine ⟨resolution.carrier.names, ?_, ?_⟩
  · rw [shown, onDeclarer]
    rfl
  rcases keyCarrier_ok settled with ⟨names, searched, carried⟩ |
    ⟨searched, ⟨column, rfl, -, settled⟩ | ⟨_, -, onOther, -⟩ | nothing⟩
  · rw [mappedKeyNames_of_keyOnDeclarer onDeclarer] at searched
    rw [carried]
    exact .inl searched
  · rw [mappedKeyNames_of_keyOnDeclarer onDeclarer] at searched
    exact .inr ⟨searched, column, rfl, names_of_surrogateCarrier settled⟩
  · rw [onDeclarer] at onOther
    cases onOther
  · exact (carrier_ne_nothing comes nothing).elim

/-- **The end without the key.** It names members of the related entity over the columns, or else
its own, or else the surrogate of the one column. -/
theorem names_onOtherEnd {bearer : Entity} (one : association.isCollection = false)
    (onOther : association.keyOnDeclarer = false)
    (leads : scope.catalogue.find? association.type.key = some bearer)
    (read : entity.foreignKeyColumns association = .ok columns)
    (comes : scope.resolution entity association properties = .ok resolution) :
    ∃ names, resolution.navigation.inverseForeignKeyNames = some names ∧
      (bearer.namesOver (columns.map some) true = .ok (some names) ∨
        bearer.namesOver (columns.map some) true = .ok none ∧
          (entity.namesOver (columns.map some) true = .ok (some names) ∨
            entity.namesOver (columns.map some) true = .ok none ∧
              ∃ column, columns = [column] ∧ names = [some (pascal column)])) := by
  obtain ⟨settled, shown⟩ := carrier_of_resolution one read comes
  refine ⟨resolution.carrier.names, ?_, ?_⟩
  · rw [shown, onOther]
    rfl
  rcases keyCarrier_ok settled with ⟨names, searched, carried⟩ |
    ⟨searched, ⟨_, -, onDeclarer, -⟩ | ⟨column, rfl, -, carried⟩ | nothing⟩
  · simp only [Scope.mappedKeyNames, onOther, leads, except_bind_ok_iff] at searched
    obtain ⟨found, there, searched⟩ := searched
    rw [carried]
    cases found with
    | some given => exact .inl (except_pure_ok_iff.mp searched ▸ there)
    | none => exact .inr ⟨there, .inl searched⟩
  · rw [onOther] at onDeclarer
    cases onDeclarer
  · simp only [Scope.mappedKeyNames, onOther, leads, except_bind_ok_iff] at searched
    obtain ⟨found, there, searched⟩ := searched
    cases found with
    | some given => cases searched
    | none => exact .inr ⟨there, .inr ⟨searched, column, rfl, by rw [carried]; rfl⟩⟩
  · exact (carrier_ne_nothing comes nothing).elim

end Names

/-! ## Builds -/

section Builds

variable {catalogue : Catalogue} {options : BuildOptions} {other bearer entity : Entity}
  {inverse reference association : Member} {toBearer toOther navigation : NavigationProperty}

/-- A navigation property of a profile is what its association comes to. -/
theorem exists_resolution_of_profile {scope : Scope} {profile : Profile}
    (profiled : scope.profile entity = .ok profile)
    (shown : (association, navigation) ∈
      (scope.keyLinks entity ++ scope.linkMembers entity).zip profile.navigations) :
    ∃ properties resolution,
      scope.resolution entity association properties = .ok resolution ∧
        resolution.navigation = navigation := by
  obtain ⟨-, paired⟩ := List.forall₂_iff_zip.mp (profile_resolves profiled).2
  rw [Profile.navigations, List.zip_map_right] at shown
  obtain ⟨⟨member, resolution⟩, inside, same⟩ := List.mem_map.mp shown
  obtain ⟨rfl, rfl⟩ := Prod.mk.inj same
  obtain ⟨properties, comes, -⟩ := paired inside
  exact ⟨properties, resolution, comes, rfl⟩

/-- A published navigation property is what its association comes to. -/
theorem exists_resolution {draft : Draft}
    (published : Published (options.scope catalogue) options.resourceName
      (options.participants catalogue) draft)
    (included : entity ∈ options.participants catalogue) {comparisonOptions : String}
    (shown : (options.scope catalogue).PublishesAs (draft.document comparisonOptions) entity
      association navigation) :
    ∃ properties resolution,
      (options.scope catalogue).resolution entity association properties = .ok resolution ∧
        resolution.navigation = navigation := by
  obtain ⟨type, found, among⟩ := shown
  rw [published.type?_of_mem included] at found
  obtain rfl := Option.some.inj found
  exact exists_resolution_of_profile (published.profiled entity included) among

/-- **Both ends of a relationship.** In a build that succeeds over distinct keys they name the same
members if the bearer carries the columns or the other entity does not. Otherwise there is one
column: the bearer names the surrogate for it and the other entity its own members over it. -/
theorem build_oneToOne {edition : Edition} (distinct : catalogue.Distinct)
    (built : build catalogue options = .ok edition)
    (otherIncluded : other ∈ options.participants catalogue)
    (bearerIncluded : bearer ∈ options.participants catalogue)
    (ends : OneToOne other inverse bearer reference)
    (inverseShown : (options.scope catalogue).PublishesAs edition.document other inverse toBearer)
    (referenceShown :
      (options.scope catalogue).PublishesAs edition.document bearer reference toOther) :
    ∃ columns, bearer.foreignKeyColumns reference = .ok columns ∧
      ((bearer.carries columns = true ∨ other.carries columns = false) →
        ∃ names, toBearer.inverseForeignKeyNames = some names ∧
          toOther.foreignKeyNames = some names) ∧
      (bearer.carries columns = false → other.carries columns = true →
        ∃ column names, columns = [column] ∧
          toOther.foreignKeyNames = some [some (pascal column)] ∧
          other.namesOver [some column] true = .ok (some names) ∧
          toBearer.inverseForeignKeyNames = some names) := by
  obtain ⟨draft, published, document, -⟩ := build_published built
  rw [document] at inverseShown referenceShown
  obtain ⟨_, _, inverseComes, rfl⟩ := exists_resolution published otherIncluded inverseShown
  obtain ⟨_, _, referenceComes, rfl⟩ := exists_resolution published bearerIncluded referenceShown
  have leads : catalogue.find? inverse.type.key = some bearer := by
    rw [ends.forth]
    exact distinct.find?_self (participants_subset options catalogue bearerIncluded)
  obtain ⟨_, columns, -, read, -⟩ := resolution_ok referenceComes
  obtain ⟨names, shown, atBearer⟩ :=
    names_onDeclarer ends.referenceOne ends.here read referenceComes
  obtain ⟨given, shownInverse, atOther⟩ := names_onOtherEnd ends.inverseOne ends.elsewhere leads
    (ends.foreignKeyColumns_eq.trans read) inverseComes
  refine ⟨columns, read, ?_⟩
  rw [shown, shownInverse]
  rcases atBearer with found | ⟨missing, column, rfl, rfl⟩
  · -- The bearer carries the columns, and both ends have found its members.
    have carried := carries_of_namesOver found
    refine ⟨fun _ => ⟨names, ?_, rfl⟩, fun uncarried => ?_⟩
    · rw [found] at atOther
      rcases atOther with same | ⟨missing, -⟩
      · cases same
        rfl
      · cases missing
    · rw [carried] at uncarried
      cases uncarried
  · -- The bearer names the surrogate.
    have uncarried := not_carries_of_namesOver missing
    rw [missing] at atOther
    rcases atOther with found | ⟨-, found | ⟨nowhere, _, same, rfl⟩⟩
    · cases found
    · have carried := carries_of_namesOver found
      refine ⟨fun agree => ?_, fun _ _ => ⟨column, given, rfl, rfl, found, rfl⟩⟩
      rw [uncarried, carried] at agree
      simp at agree
    · obtain ⟨rfl, -⟩ := List.cons.inj same
      refine ⟨fun _ => ⟨_, rfl, rfl⟩, fun _ carried => ?_⟩
      rw [not_carries_of_namesOver nowhere] at carried
      cases carried

end Builds

/-! ## Employees and badges -/

namespace Shop

/-- The badge of an employee. The badge has the column that refers to the employee. -/
def employeeBadge : Member :=
  { name := some "Badge"
    type := type "Badge"
    isAssociation := true
    keyOnDeclarer := false
    referencedColumns := [some "EmployeeId"] }

/-- Employees with the identifier over a column. -/
def employee (keyColumn : String) : Entity := entity "Employee" keyColumn [employeeBadge]

/-- The employee of a badge. -/
def badgeEmployee : Member := toOne "Employee" "Employee" "EmployeeId"

def badge : Entity := entity "Badge" "Id" [badgeEmployee]

/-- Employees and badges. -/
def staff (keyColumn : String) : Catalogue := { entities := [employee keyColumn, badge] }

theorem distinct_staff (keyColumn : String) : (staff keyColumn).Distinct := by
  show [type "Employee" |>.key, type "Badge" |>.key].Nodup
  decide

theorem ends_staff (keyColumn : String) :
    OneToOne (employee keyColumn) employeeBadge badge badgeEmployee := by
  constructor <;> rfl

end Shop

/-- The names that the navigation properties of a type give on one end. -/
def Edition.keyNames (edition : Edition) (key : String)
    (names : NavigationProperty → Option (List (Option String))) :
    List (Option (List (Option String))) :=
  ((edition.document.type? key).map fun type => type.navigationProperties.map names).getD []

/-- The only association of an entity is published as the only navigation property of its type. -/
theorem publishesAs_of_keyNames {scope : Scope} {edition : Edition} {entity : Entity}
    {association : Member} {names : NavigationProperty → Option (List (Option String))}
    {given : Option (List (Option String))} (members : entity.members = [association])
    (single : entity.keyParts? = none) (links : scope.publishesLink entity association = true)
    (shown : edition.keyNames entity.key names = [given]) :
    ∃ navigation, scope.PublishesAs edition.document entity association navigation ∧
      names navigation = given := by
  rw [Edition.keyNames] at shown
  cases found : edition.document.type? entity.key with
  | none => simp [found] at shown
  | some type =>
      rw [found, Option.map_some, Option.getD_some] at shown
      obtain ⟨navigation, only, same⟩ := List.map_eq_singleton_iff.mp shown
      refine ⟨navigation, ⟨type, found, ?_⟩, same⟩
      rw [only]
      simp [Scope.keyLinks, Scope.linkMembers, members, single, links]

/-- What employees and badges say of the key between them. -/
theorem exists_edition_staff (keyColumn : String) (names others : List (Option String))
    (links : (Sample.options.scope (Shop.staff keyColumn)).publishesLink
      (Shop.employee keyColumn) Shop.employeeBadge = true ∧
      (Sample.options.scope (Shop.staff keyColumn)).publishesLink Shop.badge
        Shop.badgeEmployee = true)
    (shown : (build (Shop.staff keyColumn) Sample.options).toOption.map (fun edition =>
      decide (edition.keyNames (Shop.employee keyColumn).key (·.inverseForeignKeyNames) =
        [some names]) &&
      decide (edition.keyNames Shop.badge.key (·.foreignKeyNames) = [some others])) = some true) :
    ∃ edition, build (Shop.staff keyColumn) Sample.options = .ok edition ∧
      ∃ toBadge toEmployee,
        (Sample.options.scope (Shop.staff keyColumn)).PublishesAs edition.document
          (Shop.employee keyColumn) Shop.employeeBadge toBadge ∧
        (Sample.options.scope (Shop.staff keyColumn)).PublishesAs edition.document Shop.badge
          Shop.badgeEmployee toEmployee ∧
        toBadge.inverseForeignKeyNames = some names ∧
        toEmployee.foreignKeyNames = some others := by
  obtain ⟨edition, built, shown⟩ := exists_edition_of_view _ shown
  obtain ⟨ofEmployee, ofBadge⟩ := Bool.and_eq_true_iff.mp shown
  obtain ⟨toBadge, inverseShown, named⟩ :=
    publishesAs_of_keyNames rfl rfl links.1 (of_decide_eq_true ofEmployee)
  obtain ⟨toEmployee, referenceShown, otherNamed⟩ :=
    publishesAs_of_keyNames rfl rfl links.2 (of_decide_eq_true ofBadge)
  exact ⟨edition, built, toBadge, toEmployee, inverseShown, referenceShown, named, otherNamed⟩

/-- With employees over a column of another name both ends name the surrogate of badges. -/
theorem build_oneToOne_badge : ∃ edition toBadge toEmployee,
    build (Shop.staff "Id") Sample.options = .ok edition ∧
    (Sample.options.scope (Shop.staff "Id")).PublishesAs edition.document (Shop.employee "Id")
      Shop.employeeBadge toBadge ∧
    (Sample.options.scope (Shop.staff "Id")).PublishesAs edition.document Shop.badge
      Shop.badgeEmployee toEmployee ∧
    ∃ names, toBadge.inverseForeignKeyNames = some names ∧
      toEmployee.foreignKeyNames = some names := by
  obtain ⟨edition, built, toBadge, toEmployee, inverseShown, referenceShown, -⟩ :=
    exists_edition_staff "Id" [some "EmployeeId"] [some "EmployeeId"] (by decide +kernel)
      (by decide +kernel)
  obtain ⟨columns, read, agree, -⟩ := build_oneToOne (Shop.distinct_staff "Id") built
    List.mem_cons_self (by simp [BuildOptions.participants, Sample.options, Shop.staff])
    (Shop.ends_staff "Id") inverseShown referenceShown
  have uncarried : ((Shop.badge.foreignKeyColumns Shop.badgeEmployee).toOption.map
      (Shop.employee "Id").carries) = some false := by decide +kernel
  rw [read] at uncarried
  exact ⟨edition, toBadge, toEmployee, built, inverseShown, referenceShown,
    agree (.inr (Option.some.inj uncarried))⟩

/-- With employees over a column of the same name the ends name different members. -/
theorem oneToOne_ends_differ : (Shop.staff "EmployeeId").Distinct ∧
    OneToOne (Shop.employee "EmployeeId") Shop.employeeBadge Shop.badge Shop.badgeEmployee ∧
    ∃ edition, build (Shop.staff "EmployeeId") Sample.options = .ok edition ∧
      ∃ toBadge toEmployee,
        (Sample.options.scope (Shop.staff "EmployeeId")).PublishesAs edition.document
          (Shop.employee "EmployeeId") Shop.employeeBadge toBadge ∧
        (Sample.options.scope (Shop.staff "EmployeeId")).PublishesAs edition.document Shop.badge
          Shop.badgeEmployee toEmployee ∧
        toBadge.inverseForeignKeyNames = some [some "Id"] ∧
        toEmployee.foreignKeyNames = some [some "EmployeeId"] :=
  ⟨Shop.distinct_staff "EmployeeId", Shop.ends_staff "EmployeeId",
    exists_edition_staff "EmployeeId" [some "Id"] [some "EmployeeId"] (by decide +kernel)
      (by decide +kernel)⟩

end EntityAtlas

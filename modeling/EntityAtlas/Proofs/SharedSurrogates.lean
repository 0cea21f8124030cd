import EntityAtlas.Proofs.OneToOne
import EntityAtlas.Proofs.PascalCase
import EntityAtlas.Proofs.SurrogateNames

/-!
# Shared surrogates

Two associations of one entity share a surrogate if no member carries their columns and these have
one name in Pascal case. Unless a member has the name of a surrogate, they share none otherwise
(`describeEntity_sharesSurrogate`). Columns of one word each are then the same, so both associations
mean the same value. But columns that differ in what separates their words share a surrogate, too
(`surrogate_shared_orderOver`).
-/

set_option autoImplicit false

namespace EntityAtlas

open ColumnName (IsPlainWord pascal sameColumns sameColumns_of_pascal_eq)

/-! ## Sharing -/

/-- A navigation property rests on a data property without a mapping: this is among the foreign keys
that it names. -/
structure NavigationProperty.RestsOn (navigation : NavigationProperty) (property : DataProperty) :
    Prop where
  unmapped : property.isUnmapped = true
  names : ∃ names, navigation.foreignKeyNames = some names ∧ property.nameOnServer ∈ names

/-- Of the navigation properties of an entity one is that of an association: it stands where this
stands among the associations. -/
def Scope.DescribesAs (scope : Scope) (entity : Entity) (navigations : List NavigationProperty)
    (association : Member) (navigation : NavigationProperty) : Prop :=
  (association, navigation) ∈
    (scope.keyLinks entity ++ scope.linkMembers entity).zip navigations

/-- Two navigation properties of an entity share one of its data properties without a mapping. -/
def SharesUnmapped (properties : List DataProperty) (first second : NavigationProperty) : Prop :=
  ∃ property ∈ properties, first.RestsOn property ∧ second.RestsOn property

/-- Two lists are of a single column each, which no member carries, and these have one name in
Pascal case. -/
structure Entity.AsksAlike (entity : Entity) (columns others : List String) : Prop where
  uncarried : entity.carries columns = false
  othersUncarried : entity.carries others = false
  alike : ∃ column other, columns = [column] ∧ others = [other] ∧ pascal column = pascal other

/-- What names the key of an association over some columns: the members that carry them, or the
surrogate of the one column that none carries. -/
inductive Entity.NamesKey (entity : Entity) : List String → List (Option String) → Prop where
  | members {columns : List String} {names : List (Option String)}
      (carried : entity.carries columns = true) (plain : names ⊆ entity.plainNames) :
      NamesKey entity columns names
  | surrogate {column : String} (uncarried : entity.carries [column] = false) :
      NamesKey entity [column] [some (pascal column)]

/-- A member that is no association, or a part of the key, has the name of a surrogate. -/
def Scope.ClashesWithMember (scope : Scope) (entity : Entity) : Prop :=
  ∃ surrogate ∈ scope.surrogateNames entity, some surrogate ∈ entity.plainNames

/-- A name without a mapping that two navigation properties give is shared by them. -/
theorem sharesUnmapped_of_names {properties : List DataProperty}
    {first second : NavigationProperty} {name : Option String} {names others : List (Option String)}
    (there : name ∈ unmappedNames properties) (named : first.foreignKeyNames = some names)
    (inside : name ∈ names) (otherNamed : second.foreignKeyNames = some others)
    (otherInside : name ∈ others) : SharesUnmapped properties first second := by
  rw [unmappedNames_eq] at there
  obtain ⟨property, listed, rfl⟩ := List.mem_map.mp there
  obtain ⟨among, unmapped⟩ := List.mem_filter.mp listed
  exact ⟨property, among, ⟨unmapped, names, named, inside⟩,
    ⟨unmapped, others, otherNamed, otherInside⟩⟩

section Sharing

variable {scope : Scope} {entity : Entity} {profile : Profile}

/-- Only a surrogate stands for a data property without a mapping. -/
theorem mem_surrogateNames_of_unmapped (profiled : scope.profile entity = .ok profile)
    (unconfigured : (scope.overrides.ofType entity.type).members = []) {property : DataProperty}
    (among : property ∈ profile.properties) (unmapped : property.isUnmapped = true) :
    ∃ surrogate ∈ scope.surrogateNames entity, property.nameOnServer = some surrogate := by
  refine ((unmappedNames_of_profile profiled unconfigured).1 property.nameOnServer).mp ?_
  rw [unmappedNames_eq]
  exact List.mem_map_of_mem (List.mem_filter.mpr ⟨among, unmapped⟩)

/-- Every surrogate that an association asks for is there. -/
theorem mem_unmappedNames_of_asked (profiled : scope.profile entity = .ok profile)
    (unconfigured : (scope.overrides.ofType entity.type).members = []) {association : Member}
    {name : String} (among : association ∈ scope.keyLinks entity ++ scope.linkMembers entity)
    (asked : entity.surrogateName? association = some name) :
    some name ∈ unmappedNames profile.properties :=
  ((unmappedNames_of_profile profiled unconfigured).1 (some name)).mpr
    ⟨name, List.mem_filterMap.mpr ⟨association, among, asked⟩, rfl⟩

/-- An association to one entity that has the key itself names the members that carry its columns,
or the surrogate of its one column where none does. -/
theorem names_of_shown (profiled : scope.profile entity = .ok profile) {association : Member}
    {navigation : NavigationProperty} (one : association.isCollection = false)
    (here : association.keyOnDeclarer = true)
    (shown : scope.DescribesAs entity profile.navigations association navigation) :
    ∃ columns names, entity.foreignKeyColumns association = .ok columns ∧
      navigation.foreignKeyNames = some names ∧ entity.NamesKey columns names := by
  obtain ⟨properties, resolution, comes, rfl⟩ := exists_resolution_of_profile profiled shown
  obtain ⟨_, columns, -, read, -⟩ := resolution_ok comes
  obtain ⟨names, named, searched | ⟨searched, column, rfl, rfl⟩⟩ :=
    names_onDeclarer one here read comes
  · exact ⟨columns, names, read, named,
      .members (carries_of_namesOver searched) (Entity.namesOver_subset searched)⟩
  · exact ⟨[column], _, read, named, .surrogate (not_carries_of_namesOver searched)⟩

/-- Where the name of a surrogate is given for both of two lists of columns, these ask alike, or a
member has the name. -/
theorem asksAlike_of_common {columns others : List String} {names otherNames : List (Option String)}
    (origin : entity.NamesKey columns names) (otherOrigin : entity.NamesKey others otherNames)
    {surrogate : String} (asked : surrogate ∈ scope.surrogateNames entity)
    (inside : some surrogate ∈ names) (otherInside : some surrogate ∈ otherNames) :
    entity.AsksAlike columns others ∨ scope.ClashesWithMember entity := by
  cases origin with
  | members _ plain => exact .inr ⟨surrogate, asked, plain inside⟩
  | @surrogate column uncarried =>
      cases otherOrigin with
      | members _ plain => exact .inr ⟨surrogate, asked, plain otherInside⟩
      | @surrogate other othersUncarried =>
          rw [List.mem_singleton] at inside otherInside
          exact .inl ⟨uncarried, othersUncarried, column, other, rfl, rfl,
            Option.some.inj (inside.symm.trans otherInside)⟩

/-- Lists of columns that ask alike are given one name. -/
theorem names_of_asksAlike {columns others : List String} {names otherNames : List (Option String)}
    (origin : entity.NamesKey columns names) (otherOrigin : entity.NamesKey others otherNames)
    (asks : entity.AsksAlike columns others) :
    ∃ column, columns = [column] ∧ names = [some (pascal column)] ∧
      otherNames = [some (pascal column)] := by
  obtain ⟨uncarried, othersUncarried, column, other, rfl, rfl, alike⟩ := asks
  cases origin with
  | members carried => simp [uncarried] at carried
  | surrogate =>
      cases otherOrigin with
      | members carried => simp [othersUncarried] at carried
      | surrogate => exact ⟨column, rfl, rfl, by rw [alike]⟩

/-- **Shared surrogates.** Take an entity without configured members that is described, and two of
its associations to one entity that have the key themselves. They share a data property without a
mapping if their columns ask for surrogates alike. If they share one, then they do so, or a member
has the name of a surrogate. Columns of one word each are then the same. -/
theorem describeEntity_sharesSurrogate {before after : Draft} {properties : List DataProperty}
    {navigations : List NavigationProperty}
    (described : describeEntity scope entity before = .ok (properties, navigations) after)
    (unconfigured : (scope.overrides.ofType entity.type).members = [])
    {first second : Member} {toFirst toSecond : NavigationProperty}
    (firstShown : scope.DescribesAs entity navigations first toFirst)
    (secondShown : scope.DescribesAs entity navigations second toSecond)
    (firstOne : first.isCollection = false) (secondOne : second.isCollection = false)
    (firstHere : first.keyOnDeclarer = true) (secondHere : second.keyOnDeclarer = true) :
    ∃ columns others, entity.foreignKeyColumns first = .ok columns ∧
      entity.foreignKeyColumns second = .ok others ∧
      (entity.AsksAlike columns others → SharesUnmapped properties toFirst toSecond) ∧
      (SharesUnmapped properties toFirst toSecond →
        entity.AsksAlike columns others ∨ scope.ClashesWithMember entity) ∧
      ((∀ column ∈ columns ++ others, IsPlainWord column) →
        SharesUnmapped properties toFirst toSecond →
          sameColumns columns others = true ∨ scope.ClashesWithMember entity) := by
  obtain ⟨_, _, profile, -, profiled, -, rfl, rfl, -⟩ := describeEntity_ok_iff.mp described
  obtain ⟨columns, names, read, named, origin⟩ :=
    names_of_shown profiled firstOne firstHere firstShown
  obtain ⟨others, otherNames, otherRead, otherNamed, otherOrigin⟩ :=
    names_of_shown profiled secondOne secondHere secondShown
  have asks : SharesUnmapped profile.properties toFirst toSecond →
      entity.AsksAlike columns others ∨ scope.ClashesWithMember entity := by
    rintro ⟨property, among, ⟨unmapped, _, same, inside⟩, ⟨-, _, otherSame, otherInside⟩⟩
    obtain rfl := Option.some.inj (named.symm.trans same)
    obtain rfl := Option.some.inj (otherNamed.symm.trans otherSame)
    obtain ⟨surrogate, asked, shows⟩ :=
      mem_surrogateNames_of_unmapped profiled unconfigured among unmapped
    exact asksAlike_of_common origin otherOrigin asked (shows ▸ inside) (shows ▸ otherInside)
  refine ⟨columns, others, read, otherRead, fun alike => ?_, asks, fun plain shared => ?_⟩
  · have uncarried := alike.uncarried
    obtain ⟨column, rfl, rfl, rfl⟩ := names_of_asksAlike origin otherOrigin alike
    have there := mem_unmappedNames_of_asked profiled unconfigured (List.of_mem_zip firstShown).1
      (surrogateName?_of_single firstOne firstHere read uncarried)
    exact sharesUnmapped_of_names there named List.mem_cons_self otherNamed List.mem_cons_self
  · refine (asks shared).imp_left ?_
    rintro ⟨-, -, column, other, rfl, rfl, alike⟩
    exact sameColumns_of_pascal_eq (plain column (by simp)) (plain other (by simp)) alike

end Sharing

/-! ## Orders with two associations to customers -/

namespace Shop

/-- Orders with two associations to customers, over a column each. -/
def orderOver (customerColumn payerColumn : String) : Entity :=
  entity "Order" "Id"
    [toOne "Customer" "Customer" customerColumn, toOne "Payer" "Customer" payerColumn]

/-- The scope of such orders and their customers. -/
def paymentScope (customerColumn payerColumn : String) : Scope :=
  Sample.options.scope { entities := [customer, orderOver customerColumn payerColumn] }

/-- Such orders show both associations. -/
theorem describesAs_orderOver {customerColumn payerColumn : String}
    {toCustomer toPayer : NavigationProperty} :
    (paymentScope customerColumn payerColumn).DescribesAs (orderOver customerColumn payerColumn)
        [toCustomer, toPayer] (toOne "Customer" "Customer" customerColumn) toCustomer ∧
      (paymentScope customerColumn payerColumn).DescribesAs (orderOver customerColumn payerColumn)
        [toCustomer, toPayer] (toOne "Payer" "Customer" payerColumn) toPayer := by
  have alone : (paymentScope customerColumn payerColumn).inheritedNames
      (orderOver customerColumn payerColumn) = [] := by
    rw [Scope.inheritedNames, Scope.ancestors, Catalogue.lineage, Catalogue.lineageFrom]
    rfl
  have links : (paymentScope customerColumn payerColumn).keyLinks
        (orderOver customerColumn payerColumn) ++
      (paymentScope customerColumn payerColumn).linkMembers
        (orderOver customerColumn payerColumn) =
      [toOne "Customer" "Customer" customerColumn, toOne "Payer" "Customer" payerColumn] := by
    have published : ∀ member ∈ (orderOver customerColumn payerColumn).members,
        (paymentScope customerColumn payerColumn).publishesLink
          (orderOver customerColumn payerColumn) member = true := by
      intro member among
      rw [Scope.publishesLink, alone]
      rcases List.mem_pair.mp among with rfl | rfl <;> rfl
    rw [Scope.linkMembers, List.filter_eq_self.mpr published]
    rfl
  simp [Scope.DescribesAs, links]

/-- What describing such orders shows of both associations. -/
theorem exists_described_orderOver (customerColumn payerColumn : String)
    (unmapped names others : List (Option String))
    (viewed : ((paymentScope customerColumn payerColumn).described?
        (orderOver customerColumn payerColumn)).map (fun described =>
          (unmappedNames described.1, described.2.map (·.foreignKeyNames))) =
      some (unmapped, [some names, some others])) :
    ∃ properties toCustomer toPayer after,
      describeEntity (paymentScope customerColumn payerColumn)
        (orderOver customerColumn payerColumn) {} = .ok (properties, [toCustomer, toPayer]) after ∧
      unmappedNames properties = unmapped ∧ toCustomer.foreignKeyNames = some names ∧
      toPayer.foreignKeyNames = some others := by
  obtain ⟨properties, navigations, after, described, seen⟩ := exists_described_of_view _ viewed
  obtain ⟨rfl, shown⟩ := Prod.mk.inj seen
  obtain ⟨toCustomer, rest, rfl, named, shown⟩ := List.map_eq_cons_iff.mp shown
  obtain ⟨toPayer, rfl, otherNamed⟩ := List.map_eq_singleton_iff.mp shown
  exact ⟨properties, toCustomer, toPayer, after, described, rfl, named, otherNamed⟩

end Shop

/-- Customer and payer over one column in two letter cases share a surrogate. -/
theorem describeEntity_sharesSurrogate_orderOver : ∃ properties toCustomer toPayer after,
    describeEntity (Shop.paymentScope "CustomerId" "customerId")
        (Shop.orderOver "CustomerId" "customerId") {} =
      .ok (properties, [toCustomer, toPayer]) after ∧
    (Shop.orderOver "CustomerId" "customerId").AsksAlike ["CustomerId"] ["customerId"] ∧
    (∀ column ∈ ["CustomerId", "customerId"], IsPlainWord column) ∧
    ¬ (Shop.paymentScope "CustomerId" "customerId").ClashesWithMember
      (Shop.orderOver "CustomerId" "customerId") ∧
    SharesUnmapped properties toCustomer toPayer ∧
    sameColumns ["CustomerId"] ["customerId"] = true := by
  obtain ⟨properties, toCustomer, toPayer, after, described, -⟩ :=
    Shop.exists_described_orderOver "CustomerId" "customerId" [some "CustomerId"]
      [some "CustomerId"] [some "CustomerId"] (by decide +kernel)
  obtain ⟨customerShown, payerShown⟩ := Shop.describesAs_orderOver
  obtain ⟨columns, others, read, otherRead, shares, -, same⟩ :=
    describeEntity_sharesSurrogate described rfl customerShown payerShown rfl rfl rfl rfl
  have customerRead : (Shop.orderOver "CustomerId" "customerId").foreignKeyColumns
      (Shop.toOne "Customer" "Customer" "CustomerId") = .ok ["CustomerId"] :=
    ok_of_toOption (by decide +kernel)
  have payerRead : (Shop.orderOver "CustomerId" "customerId").foreignKeyColumns
      (Shop.toOne "Payer" "Customer" "customerId") = .ok ["customerId"] :=
    ok_of_toOption (by decide +kernel)
  obtain rfl := Except.ok.inj (customerRead.symm.trans read)
  obtain rfl := Except.ok.inj (payerRead.symm.trans otherRead)
  have alike : (Shop.orderOver "CustomerId" "customerId").AsksAlike ["CustomerId"]
      ["customerId"] :=
    ⟨by decide +kernel, by decide +kernel, _, _, rfl, rfl, by decide +kernel⟩
  have plain : ∀ column ∈ ["CustomerId", "customerId"], IsPlainWord column := by
    intro column among
    rcases List.mem_pair.mp among with rfl | rfl <;> decide +kernel
  have apart : ¬ (Shop.paymentScope "CustomerId" "customerId").ClashesWithMember
      (Shop.orderOver "CustomerId" "customerId") := by
    unfold Scope.ClashesWithMember
    decide +kernel
  exact ⟨properties, toCustomer, toPayer, after, described, alike, plain, apart, shares alike,
    (same plain (shares alike)).resolve_right apart⟩

/-- Customer and payer over columns that differ in what separates their words share a surrogate. -/
theorem surrogate_shared_orderOver : ∃ properties toCustomer toPayer after,
    ((Shop.paymentScope "customer_id" "CustomerId").overrides.ofType
      (Shop.orderOver "customer_id" "CustomerId").type).members = [] ∧
    describeEntity (Shop.paymentScope "customer_id" "CustomerId")
        (Shop.orderOver "customer_id" "CustomerId") {} =
      .ok (properties, [toCustomer, toPayer]) after ∧
    (Shop.paymentScope "customer_id" "CustomerId").DescribesAs
        (Shop.orderOver "customer_id" "CustomerId") [toCustomer, toPayer]
        (Shop.toOne "Customer" "Customer" "customer_id") toCustomer ∧
    (Shop.paymentScope "customer_id" "CustomerId").DescribesAs
        (Shop.orderOver "customer_id" "CustomerId") [toCustomer, toPayer]
        (Shop.toOne "Payer" "Customer" "CustomerId") toPayer ∧
    SharesUnmapped properties toCustomer toPayer ∧
    (Shop.orderOver "customer_id" "CustomerId").foreignKeyColumns
      (Shop.toOne "Customer" "Customer" "customer_id") = .ok ["customer_id"] ∧
    (Shop.orderOver "customer_id" "CustomerId").foreignKeyColumns
      (Shop.toOne "Payer" "Customer" "CustomerId") = .ok ["CustomerId"] ∧
    sameColumns ["customer_id"] ["CustomerId"] = false := by
  obtain ⟨properties, toCustomer, toPayer, after, described, unmapped, named, otherNamed⟩ :=
    Shop.exists_described_orderOver "customer_id" "CustomerId" [some "CustomerId"]
      [some "CustomerId"] [some "CustomerId"] (by decide +kernel)
  obtain ⟨customerShown, payerShown⟩ := Shop.describesAs_orderOver
  have shared : SharesUnmapped properties toCustomer toPayer :=
    sharesUnmapped_of_names (unmapped ▸ List.mem_cons_self) named List.mem_cons_self otherNamed
      List.mem_cons_self
  exact ⟨properties, toCustomer, toPayer, after, rfl, described, customerShown, payerShown, shared,
    ok_of_toOption (by decide +kernel), ok_of_toOption (by decide +kernel), by decide +kernel⟩

end EntityAtlas

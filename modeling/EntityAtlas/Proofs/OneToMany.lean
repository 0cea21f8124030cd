import EntityAtlas.Proofs.AssociationNames
import EntityAtlas.Proofs.OneToOne

/-!
# One-to-many relationships

The two ends of a one-to-many relationship are resolved from different entities. The association of
the child has the columns of the key, and the collection of the parent refers to them, perhaps in
other quotes. Both ends read the same columns (`OneToMany.foreignKeyColumns_eq`). The name that they
share is made of the two types and these columns, as long as no superclass of the one side declares
a member with the name of the association on the other (`associationTypeName_of_undeclared`): only
then could another type stand for the related one. Members of the child over the columns are named
by both ends (`build_oneToMany`).
-/

set_option autoImplicit false

namespace EntityAtlas

open ColumnName (associationName associationName_comm unquote)

/-! ## The two ends -/

/-- A collection and an association to one entity are the ends of a relationship: the key lies with
the child, in the columns to which the collection of the parent refers. -/
structure OneToMany (parent : Entity) (collection : Member) (child : Entity)
    (reference : Member) : Prop where
  many : collection.isCollection = true
  one : reference.isCollection = false
  here : reference.keyOnDeclarer = true
  forth : collection.relatedType? = some child.type
  back : reference.type = parent.type
  columns : collection.referencedColumns.map (Option.map unquote) =
    reference.columns.map (Option.map unquote)
  mapped : startsWithColumn reference.columns = true

/-- Both ends read the same columns. -/
theorem OneToMany.foreignKeyColumns_eq {parent child : Entity} {collection reference : Member}
    (ends : OneToMany parent collection child reference) :
    parent.foreignKeyColumns collection = child.foreignKeyColumns reference := by
  have ownCollection : collection.ownColumns = collection.referencedColumns := by
    simp [Member.ownColumns, ends.many]
  have ownReference : reference.ownColumns = reference.columns := by
    simp [Member.ownColumns, ends.one, ends.here]
  have starts : startsWithColumn collection.referencedColumns = true := by
    rw [← startsWithColumn_map unquote, ends.columns, startsWithColumn_map]
    exact ends.mapped
  rw [Entity.foreignKeyColumns_eq, Entity.foreignKeyColumns_eq,
    mappedColumns_of_startsWithColumn parent (ownCollection ▸ starts),
    mappedColumns_of_startsWithColumn child (ownReference ▸ ends.mapped), ownCollection,
    ownReference, ends.columns]

/-! ## The type that stands for the related one -/

section Types

variable {scope : Scope} {entity : Entity} {name : Option String}

/-- An entity is its own declarer of a member that none of its superclasses declares. -/
theorem declarer_of_undeclared
    (undeclared : ∀ ancestor ∈ scope.ancestors false entity, ancestor.declares name = false) :
    scope.declarer entity name = entity := by
  have nobody : (scope.ancestors false entity).takeWhile (·.declares name) = [] := by
    cases above : scope.ancestors false entity with
    | nil => rfl
    | cons ancestor rest =>
        have silent := undeclared ancestor (above ▸ List.mem_cons_self)
        rw [List.takeWhile_cons_of_neg (by simp [silent])]
  rw [Scope.declarer, nobody]
  rfl

/-- A related type goes by its own name if none of its superclasses declares the member. -/
theorem associationTypeName_of_undeclared
    (found : scope.catalogue.find? entity.type.key = some entity)
    (undeclared : ∀ ancestor ∈ scope.ancestors false entity, ancestor.declares name = false) :
    scope.associationTypeName entity.type name = entity.type.name := by
  simp only [Scope.associationTypeName, found, declarer_of_undeclared undeclared, ite_self]

end Types

/-! ## What a resolution says -/

section Resolutions

variable {scope : Scope} {entity : Entity} {association : Member} {columns : List String}
  {related : TypeExpr} {properties : List DataProperty} {resolution : Resolution}

/-- Every association bears the name of its two types and its columns. -/
theorem associationName_of_resolution (leads : entity.relatedType association = .ok related)
    (read : entity.foreignKeyColumns association = .ok columns)
    (comes : scope.resolution entity association properties = .ok resolution) :
    resolution.navigation.associationName =
      some (associationName entity.type.name (scope.associationTypeName related association.name)
        columns) := by
  obtain ⟨_, _, given, mapped, ⟨-, names, -, rfl⟩ | ⟨-, carrier, -, rfl⟩⟩ := resolution_ok comes
  · rw [leads] at given
    rw [read] at mapped
    cases given
    cases mapped
    rfl
  · rw [leads] at given
    rw [read] at mapped
    cases given
    cases mapped
    cases onDeclarer : association.keyOnDeclarer <;>
      simp [NavigationProperty.withKeyNames, Scope.navigation]

/-- A collection names what its elements carry, unless it leads to collections itself. -/
theorem names_of_collection {element : Entity} {names : List (Option String)}
    (many : association.isCollection = true) (direct : association.manyToMany = false)
    (leads : entity.relatedType association = .ok related)
    (found : scope.catalogue.find? related.key = some element)
    (read : entity.foreignKeyColumns association = .ok columns)
    (searched : element.namesOver (columns.map some) true = .ok (some names))
    (comes : scope.resolution entity association properties = .ok resolution) :
    resolution.navigation.inverseForeignKeyNames = some names := by
  obtain ⟨_, _, given, mapped, ⟨-, answer, carried, rfl⟩ | ⟨one, -⟩⟩ := resolution_ok comes
  · rw [leads] at given
    rw [read] at mapped
    cases given
    cases mapped
    have answered : scope.collectionKeyNames association related columns = .ok (some names) := by
      simp only [Scope.collectionKeyNames, direct, found, searched, Bool.false_eq_true, ↓reduceIte]
    rw [answered] at carried
    exact (Except.ok.inj carried).symm
  · rw [many] at one
    cases one

end Resolutions

/-! ## Builds -/

section Builds

variable {catalogue : Catalogue} {options : BuildOptions} {parent child : Entity}
  {collection reference : Member} {toParent toChildren : NavigationProperty}

/-- **Both ends of a relationship.** In a build that succeeds over distinct keys both ends bear the
name made of the two types and the columns of the key, if no superclass of the parent declares a
member named like the reference and none of the child one named like the collection. And if members
of the child carry the columns, then both ends name these, unless the collection leads to
collections. -/
theorem build_oneToMany {edition : Edition} (distinct : catalogue.Distinct)
    (built : build catalogue options = .ok edition)
    (parentIncluded : parent ∈ options.participants catalogue)
    (childIncluded : child ∈ options.participants catalogue)
    (ends : OneToMany parent collection child reference)
    (referenceOnce : ∀ ancestor ∈ (options.scope catalogue).ancestors false parent,
      ancestor.declares reference.name = false)
    (collectionOnce : ∀ ancestor ∈ (options.scope catalogue).ancestors false child,
      ancestor.declares collection.name = false)
    (collectionShown :
      (options.scope catalogue).PublishesAs edition.document parent collection toChildren)
    (referenceShown :
      (options.scope catalogue).PublishesAs edition.document child reference toParent) :
    ∃ columns, child.foreignKeyColumns reference = .ok columns ∧
      toParent.associationName =
        some (associationName child.type.name parent.type.name columns) ∧
      toChildren.associationName = toParent.associationName ∧
      (collection.manyToMany = false → child.carries columns = true →
        ∃ names, toChildren.inverseForeignKeyNames = some names ∧
          toParent.foreignKeyNames = some names) := by
  obtain ⟨draft, published, document, -⟩ := build_published built
  rw [document] at collectionShown referenceShown
  obtain ⟨_, _, collectionComes, rfl⟩ :=
    exists_resolution published parentIncluded collectionShown
  obtain ⟨_, _, referenceComes, rfl⟩ := exists_resolution published childIncluded referenceShown
  have foundParent : catalogue.find? parent.type.key = some parent :=
    distinct.find?_self (participants_subset options catalogue parentIncluded)
  have foundChild : catalogue.find? child.type.key = some child :=
    distinct.find?_self (participants_subset options catalogue childIncluded)
  have leadsBack : child.relatedType reference = .ok parent.type := by
    rw [relatedType_of_one ends.one, ends.back]
  have leadsForth : parent.relatedType collection = .ok child.type := by
    rw [Entity.relatedType, ends.forth]
  obtain ⟨_, columns, -, read, -⟩ := resolution_ok referenceComes
  have readToo : parent.foreignKeyColumns collection = .ok columns :=
    ends.foreignKeyColumns_eq.trans read
  have named := associationName_of_resolution leadsBack read referenceComes
  have namedToo := associationName_of_resolution leadsForth readToo collectionComes
  rw [associationTypeName_of_undeclared foundParent referenceOnce] at named
  rw [associationTypeName_of_undeclared foundChild collectionOnce, associationName_comm] at namedToo
  refine ⟨columns, read, named, namedToo.trans named.symm, fun direct carried => ?_⟩
  obtain ⟨names, shown, atChild⟩ := names_onDeclarer ends.one ends.here read referenceComes
  rcases atChild with searched | ⟨missing, -⟩
  · exact ⟨names, names_of_collection ends.many direct leadsForth foundChild readToo searched
      collectionComes, shown⟩
  · rw [not_carries_of_namesOver missing] at carried
    cases carried

/-- Every association that an entity publishes stands as a navigation property on its type. -/
theorem exists_publishesAs {edition : Edition} {entity : Entity} {association : Member}
    (built : build catalogue options = .ok edition)
    (included : entity ∈ options.participants catalogue)
    (among : association ∈ (options.scope catalogue).keyLinks entity ++
      (options.scope catalogue).linkMembers entity) :
    ∃ navigation,
      (options.scope catalogue).PublishesAs edition.document entity association navigation := by
  obtain ⟨draft, published, document, -⟩ := build_published built
  have paired := (profile_resolves (published.profiled entity included)).2.length_eq
  have navigations : ((options.scope catalogue).keyLinks entity ++
      (options.scope catalogue).linkMembers entity).length ≤
        (((options.scope catalogue).profileOf entity).resolutions.map (·.navigation)).length := by
    rw [List.length_map]
    exact Nat.le_of_eq paired
  rw [← List.map_fst_zip navigations] at among
  obtain ⟨⟨_, navigation⟩, inside, rfl⟩ := List.mem_map.mp among
  exact ⟨navigation, _, document ▸ published.type?_of_mem included options.comparisonOptions,
    inside⟩

end Builds

/-! ## A tree of categories -/

namespace Shop

/-- A collection whose elements refer back over a column. -/
def toMany (name target column : String) : Member :=
  { name := some name
    type := { name := "list", arguments := [type target] }
    referencedColumns := [some column]
    isAssociation := true
    isCollection := true }

/-- The category above a category. -/
def categoryParent : Member := toOne "Parent" "Category" "ParentId"

/-- The categories below a category. -/
def categoryChildren : Member := toMany "Children" "Category" "[ParentId]"

/-- Categories, which share their table with other types. -/
def category : Entity :=
  { entity "Category" "Id" [number "ParentId" "ParentId", categoryParent, categoryChildren] with
    discriminator := .text "C" }

def categories : Catalogue := { entities := [category] }

theorem distinct_categories : categories.Distinct := by
  show [category.key].Nodup
  decide

theorem ends_categories : OneToMany category categoryChildren category categoryParent where
  many := rfl
  one := rfl
  here := rfl
  forth := rfl
  back := rfl
  columns := by decide +kernel
  mapped := rfl

end Shop

/-- The category above and the categories below are two ends of one relationship. -/
theorem build_oneToMany_categories : ∃ edition toParent toChildren,
    build Shop.categories Sample.options = .ok edition ∧
    (Sample.options.scope Shop.categories).PublishesAs edition.document Shop.category
      Shop.categoryChildren toChildren ∧
    (Sample.options.scope Shop.categories).PublishesAs edition.document Shop.category
      Shop.categoryParent toParent ∧
    toParent.associationName = some (associationName "Category" "Category" ["ParentId"]) ∧
    toChildren.associationName = toParent.associationName ∧
    ∃ names, toChildren.inverseForeignKeyNames = some names ∧
      toParent.foreignKeyNames = some names := by
  obtain ⟨edition, built, -⟩ := exists_edition_of_view (fun _ => ())
    (by decide +kernel : (build Shop.categories Sample.options).toOption.map _ = some ())
  have included : Shop.category ∈ Sample.options.participants Shop.categories := by
    simp [BuildOptions.participants, Sample.options, Shop.categories]
  have links : (Sample.options.scope Shop.categories).publishesLink Shop.category
        Shop.categoryChildren = true ∧
      (Sample.options.scope Shop.categories).publishesLink Shop.category
        Shop.categoryParent = true := by
    decide +kernel
  obtain ⟨toChildren, collectionShown⟩ := exists_publishesAs built included
    (List.mem_append_right _ (List.mem_filter.mpr ⟨by simp [Shop.category, Shop.entity], links.1⟩))
  obtain ⟨toParent, referenceShown⟩ := exists_publishesAs built included
    (List.mem_append_right _ (List.mem_filter.mpr ⟨by simp [Shop.category, Shop.entity], links.2⟩))
  have alone : (Sample.options.scope Shop.categories).ancestors false Shop.category = [] := by
    rw [Scope.ancestors, Catalogue.lineage, Catalogue.lineageFrom_eq]
    rfl
  obtain ⟨columns, read, named, same, agree⟩ := build_oneToMany Shop.distinct_categories built
    included included Shop.ends_categories (by simp [alone]) (by simp [alone]) collectionShown
    referenceShown
  have expected : Shop.category.foreignKeyColumns Shop.categoryParent = .ok ["ParentId"] := by
    have unquoted : ColumnName.unquote "ParentId" = "ParentId" := by decide +kernel
    exact congrArg (fun name => Except.ok [name]) unquoted
  obtain rfl := Except.ok.inj (read.symm.trans expected)
  exact ⟨edition, toParent, toChildren, built, collectionShown, referenceShown, named, same,
    agree rfl (by decide +kernel)⟩

end EntityAtlas

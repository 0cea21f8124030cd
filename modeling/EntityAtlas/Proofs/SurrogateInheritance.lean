import EntityAtlas.Proofs.SurrogateMembers
import EntityAtlas.Proofs.Walks

/-!
# Inherited surrogates

After a build a subtype takes over the surrogates of its superclasses, so that its instances carry
their values. A type with a place for surrogates takes over all of them, from wherever superclasses
lead (`mem_names_inherited`); a type without a place takes over none. A subtype gets its place by
an association among its members that it leaves to an ancestor, or by a surrogate of its own. Parts
of the key do not give it one, so whether the surrogates of an ancestor are handed down depends on
where the associations stand (`build_handsDownSurrogates`).
-/

set_option autoImplicit false

namespace EntityAtlas

open Relation (TransGen)

/-! ## Names in the table -/

/-- The names of the surrogates of a type. -/
def SurrogateTable.names (table : SurrogateTable) (key : String) : List String :=
  (table.ofKey key).map (·.name)

theorem mem_names_withNewSurrogates {own others : List Surrogate} {name : String} :
    name ∈ (withNewSurrogates own others).map (·.name) ↔
      name ∈ own.map (·.name) ∨ name ∈ others.map (·.name) := by
  unfold withNewSurrogates
  induction others generalizing own with
  | nil => simp
  | cons surrogate rest ih =>
      rw [List.foldl_cons, ih, List.map_cons, List.mem_cons]
      split
      next there =>
        obtain ⟨other, among, same⟩ := List.any_eq_true.mp there
        have held : surrogate.name ∈ own.map (·.name) :=
          eq_of_beq same ▸ List.mem_map_of_mem among
        constructor
        · exact Or.imp_right .inr
        · rintro (here | rfl | later)
          · exact .inl here
          · exact .inl held
          · exact .inr later
      next => simp [or_assoc]

/-- Taking over from types in turn adds the names of each. -/
theorem mem_names_foldl (table : SurrogateTable) {keys : List String} {own : List Surrogate}
    {name : String} :
    name ∈ (keys.foldl (fun own key => withNewSurrogates own (table.ofKey key)) own).map
        (·.name) ↔
      name ∈ own.map (·.name) ∨ ∃ key ∈ keys, name ∈ table.names key := by
  induction keys generalizing own with
  | nil => simp
  | cons key rest ih =>
      rw [List.foldl_cons, ih, mem_names_withNewSurrogates, or_assoc]
      simp [SurrogateTable.names]

section Tables

variable {catalogue : Catalogue} {table : SurrogateTable} {key base name : String}

/-- A type with a place takes over the names of all its superclasses. -/
theorem mem_names_inherited (placed : (table.lookup key).isSome = true) :
    name ∈ (SurrogateTable.inherited catalogue table).names key ↔
      ∃ holder ∈ key :: catalogue.superclassKeys key, name ∈ table.names holder := by
  obtain ⟨own, found⟩ := Option.isSome_iff_exists.mp placed
  rw [SurrogateTable.names, SurrogateTable.ofKey_inherited, found, Option.map_some,
    Option.getD_some, mem_names_foldl]
  simp [SurrogateTable.names, SurrogateTable.ofKey, found]

/-- A type without a place takes over nothing. -/
theorem names_inherited_of_unplaced (unplaced : table.lookup key = none) :
    (SurrogateTable.inherited catalogue table).names key = [] := by
  rw [SurrogateTable.names, SurrogateTable.ofKey_inherited, unplaced]
  rfl

/-- What a superclass has in the end comes from superclasses. -/
theorem exists_superclass_of_mem_inherited (climbs : TransGen catalogue.HasSuperclass key base)
    (among : name ∈ (SurrogateTable.inherited catalogue table).names base) :
    ∃ holder ∈ catalogue.superclassKeys key, name ∈ table.names holder := by
  cases found : table.lookup base with
  | none =>
      rw [names_inherited_of_unplaced found] at among
      cases among
  | some own =>
      obtain ⟨holder, above, holds⟩ := (mem_names_inherited (by rw [found]; rfl)).mp among
      refine ⟨holder, Catalogue.mem_superclassKeys_iff.mpr ?_, holds⟩
      rcases List.mem_cons.mp above with rfl | above
      · exact climbs
      · exact climbs.trans (Catalogue.mem_superclassKeys_iff.mp above)

/-- What a superclass has in the end, a type with a place has as well. -/
theorem names_inherited_subset (placed : (table.lookup key).isSome = true)
    (climbs : TransGen catalogue.HasSuperclass key base) :
    (SurrogateTable.inherited catalogue table).names base ⊆
      (SurrogateTable.inherited catalogue table).names key := by
  intro name among
  obtain ⟨holder, above, holds⟩ := exists_superclass_of_mem_inherited climbs among
  exact (mem_names_inherited placed).mpr ⟨holder, List.mem_cons_of_mem _ above, holds⟩

end Tables

/-! ## Ancestors -/

section Ancestors

variable {scope : Scope} {entity ancestor : Entity}

/-- An entity that repeats an association of an ancestor leaves it there. -/
theorem inheritsLink_of_repeated (above : ancestor ∈ scope.ancestors true entity)
    (repeated : ancestor.members ⊆ entity.members)
    (leads : ancestor.members.any (·.isAssociation) = true) :
    scope.inheritsLink entity entity.members = true := by
  obtain ⟨member, among, association⟩ := List.any_eq_true.mp leads
  have inherited : member.name ∈ scope.inheritedNames entity :=
    List.mem_flatMap.mpr ⟨ancestor, above, List.mem_append_left _ (List.mem_map_of_mem among)⟩
  refine List.any_eq_true.mpr ⟨member, repeated among, ?_⟩
  simp [association, inherited]

end Ancestors

/-- The names of the surrogates that a source keeps for a type after a build. -/
def Edition.surrogateNames (edition : Edition) (catalogue : Catalogue) (key : String) :
    List String :=
  (SurrogateTable.inherited catalogue edition.surrogates).names key

section Builds

variable {catalogue : Catalogue} {options : BuildOptions} {entity ancestor : Entity}

/-- **Surrogates handed down.** In a build that succeeds, a participant has the surrogates that an
ancestor has in the end exactly if these are none or the participant has a place for surrogates.
Where it repeats the members of the ancestor, one association among them is enough. -/
theorem build_handsDownSurrogates {edition : Edition}
    (built : build catalogue options = .ok edition)
    (included : entity ∈ options.participants catalogue)
    (found : catalogue.find? entity.key = some entity)
    (above : ancestor ∈ (options.scope catalogue).ancestors true entity) :
    (edition.surrogateNames catalogue ancestor.key ⊆ edition.surrogateNames catalogue entity.key ↔
      edition.surrogateNames catalogue ancestor.key = [] ∨
        (options.scope catalogue).keepsSurrogates entity = true) ∧
    (ancestor.members ⊆ entity.members → ancestor.members.any (·.isAssociation) = true →
      edition.surrogateNames catalogue ancestor.key ⊆
        edition.surrogateNames catalogue entity.key) := by
  obtain ⟨draft, published, -, surrogates⟩ := build_published built
  have place : edition.surrogates.lookup entity.key = _ :=
    surrogates ▸ published.lookup_surrogates included
  have handsDown : (options.scope catalogue).keepsSurrogates entity = true →
      edition.surrogateNames catalogue ancestor.key ⊆
        edition.surrogateNames catalogue entity.key := fun keeps =>
    names_inherited_subset (by rw [place, if_pos keeps]; rfl)
      (Catalogue.climbs_of_mem_lineage found above)
  refine ⟨⟨fun subset => ?_, ?_⟩, fun repeated leads => ?_⟩
  · by_cases keeps : (options.scope catalogue).keepsSurrogates entity = true
    · exact .inr keeps
    · have nothing : edition.surrogateNames catalogue entity.key = [] :=
        names_inherited_of_unplaced (by rw [place, if_neg keeps])
      exact .inl (List.subset_nil.mp (nothing ▸ subset))
  · rintro (nothing | keeps)
    · rw [nothing]
      exact List.nil_subset _
    · exact handsDown keeps
  · refine handsDown ?_
    rw [Scope.keepsSurrogates, inheritsLink_of_repeated above repeated leads, Bool.true_or]

end Builds

/-- Rush orders repeat the customer of orders and have the same surrogate. -/
theorem build_handsDownSurrogates_rushOrder : ∃ edition,
    build Shop.catalogue Sample.options = .ok edition ∧
    edition.surrogateNames Shop.catalogue Shop.order.key = ["CustomerId"] ∧
    edition.surrogateNames Shop.catalogue Shop.order.key ⊆
      edition.surrogateNames Shop.catalogue Shop.rushOrder.key := by
  obtain ⟨edition, built, named⟩ := exists_edition_of_view
    (fun edition => edition.surrogateNames Shop.catalogue Shop.order.key)
    (by decide +kernel :
      (build Shop.catalogue Sample.options).toOption.map _ = some ["CustomerId"])
  have found : Shop.catalogue.find? Shop.rushOrder.key = some Shop.rushOrder := by rfl
  have above : Shop.order ∈ (Sample.options.scope Shop.catalogue).ancestors true Shop.rushOrder :=
    mem_ancestors_of_parent? (by rfl) (by decide) (by decide)
  have included : Shop.rushOrder ∈ Sample.options.participants Shop.catalogue := by
    simp [BuildOptions.participants, Sample.options, Shop.catalogue]
  exact ⟨edition, built, named, (build_handsDownSurrogates built included found above).2
    (by simp [Shop.order, Shop.rushOrder, Shop.entity]) rfl⟩

namespace Shop

/-- The key of an order line: the order and a number in it. -/
def lineKey : Member :=
  { type := type "LineKey"
    nullable := false
    columns := [some "order_id", some "line_no"]
    isEmbedded := true
    component := some
      { type := type "LineKey"
        members :=
          [ { toOne "Order" "Order" "order_id" with nullable := false },
            { number "LineNo" "line_no" with nullable := false } ] } }

def line : Entity :=
  { type := type "Line"
    identifier := some lineKey
    keyColumns := [some "order_id", some "line_no"] }

/-- Order lines with a priority. -/
def rushLine : Entity :=
  { line with
    type := type "RushLine"
    members := [number "Priority" "Priority"]
    superclass := some line.type }

/-- Orders with their lines. -/
def lines : Catalogue := { entities := [customer, order, line, rushLine] }

end Shop

/-- Rush lines repeat the key of order lines, and have not got the surrogate of its order. -/
theorem not_handed_down_rushLine : ∃ edition, build Shop.lines Sample.options = .ok edition ∧
    Shop.line ∈ (Sample.options.scope Shop.lines).ancestors true Shop.rushLine ∧
    Shop.line.members ⊆ Shop.rushLine.members ∧
    Shop.line.identifier = Shop.rushLine.identifier ∧
    edition.surrogateNames Shop.lines Shop.line.key = ["OrderId"] ∧
    edition.surrogateNames Shop.lines Shop.rushLine.key = [] := by
  obtain ⟨edition, built, named⟩ := exists_edition_of_view
    (fun edition => (edition.surrogateNames Shop.lines Shop.line.key,
      edition.surrogateNames Shop.lines Shop.rushLine.key))
    (by decide +kernel :
      (build Shop.lines Sample.options).toOption.map _ = some (["OrderId"], []))
  obtain ⟨ofLine, ofRushLine⟩ := Prod.mk.inj named
  have above : Shop.line ∈ (Sample.options.scope Shop.lines).ancestors true Shop.rushLine :=
    mem_ancestors_of_parent? (by rfl) (by decide) (by decide)
  exact ⟨edition, built, above, List.nil_subset _, rfl, ofLine, ofRushLine⟩

end EntityAtlas

import EntityAtlas.Proofs.SurrogateInheritance

/-!
# Inherited surrogates as a union

What a type takes over from its superclasses is a union in which the first comes first: its own
surrogates, and then those of the superclasses, nearest first, of which only the first of each name
counts (`withNewSurrogates_eq`). Superclasses of superclasses are superclasses, in cycles too, so
taking over once more changes nothing (`inherited_inherited`). And a surrogate of a superclass has
the same value on an instance, whether this is read as one of the type or as one of the superclass,
if nothing nearer has its name (`inherited_isUnion`).
-/

set_option autoImplicit false

namespace EntityAtlas

open Relation (TransGen)

/-! ## Walks along superclasses -/

namespace Catalogue

variable {catalogue : Catalogue}

/-- A list of keys is the walk from a key along its superclasses: each key is the superclass of the
one before, none comes twice, and no superclass is missing. -/
structure IsSuperclassWalk (catalogue : Catalogue) (key : String) (keys : List String) : Prop where
  climbs : (key :: keys).IsChain catalogue.HasSuperclass
  distinct : keys.Nodup
  complete : ∀ base, base ∈ keys ↔ TransGen catalogue.HasSuperclass key base
  /-- All keys but the last are mapped. -/
  short : keys.length ≤ catalogue.entities.length + 1

theorem superclassKeysFrom_climbs {seen : List String} {entity : Entity}
    (found : catalogue.find? entity.key = some entity) :
    (entity.key :: catalogue.superclassKeysFrom seen entity).IsChain catalogue.HasSuperclass := by
  induction seen, entity using superclassKeysFrom.induct catalogue with
  | case1 seen entity based =>
      rw [superclassKeysFrom_eq, based]
      exact .singleton _
  | case2 seen entity base based met =>
      rw [superclassKeysFrom_eq, based]
      simp only [met, ↓reduceIte]
      exact .singleton _
  | case3 seen entity base based fresh ih =>
      rw [superclassKeysFrom_eq, based]
      simp only [fresh, Bool.false_eq_true, ↓reduceIte]
      refine List.isChain_cons_cons.mpr ⟨⟨entity, found, by rw [based]; rfl⟩, ?_⟩
      cases leads : catalogue.find? base.key with
      | none => exact .singleton _
      | some parent =>
          have same := key_of_find? leads
          exact same ▸ ih parent leads (same.symm ▸ leads)

theorem superclassKeysFrom_distinct (seen : List String) (entity : Entity) :
    (catalogue.superclassKeysFrom seen entity).Nodup ∧
      ∀ key ∈ catalogue.superclassKeysFrom seen entity, key ∉ seen := by
  induction seen, entity using superclassKeysFrom.induct catalogue with
  | case1 seen entity based => simp [superclassKeysFrom_eq, based]
  | case2 seen entity base based met =>
      rw [superclassKeysFrom_eq, based]
      simp only [met, ↓reduceIte]
      exact ⟨.nil, by simp⟩
  | case3 seen entity base based fresh ih =>
      have here : base.key ∉ seen := fun among => fresh (List.contains_iff_mem.mpr among)
      rw [superclassKeysFrom_eq, based]
      simp only [fresh, Bool.false_eq_true, ↓reduceIte]
      cases leads : catalogue.find? base.key with
      | none => simpa using here
      | some parent =>
          obtain ⟨distinct, apart⟩ := ih parent leads
          refine ⟨List.nodup_cons.mpr ⟨fun again => apart _ again List.mem_cons_self, distinct⟩, ?_⟩
          exact List.forall_mem_cons.mpr
            ⟨here, fun key later among => apart key later (List.mem_cons_of_mem _ among)⟩

theorem length_superclassKeysFrom_le (seen : List String) (entity : Entity) :
    (catalogue.superclassKeysFrom seen entity).length ≤ (catalogue.unseen seen).length + 1 := by
  induction seen, entity using superclassKeysFrom.induct catalogue with
  | case1 seen entity based => simp [superclassKeysFrom_eq, based]
  | case2 seen entity base based met =>
      rw [superclassKeysFrom_eq, based]
      simp only [met, ↓reduceIte, List.length_nil, Nat.zero_le]
  | case3 seen entity base based fresh ih =>
      rw [superclassKeysFrom_eq, based]
      simp only [fresh, Bool.false_eq_true, ↓reduceIte, List.length_cons]
      cases leads : catalogue.find? base.key with
      | none => simp
      | some parent =>
          have fewer := length_unseen_lt leads fresh
          have rest := ih parent leads
          simp only
          omega

theorem superclassKeys_isWalk (catalogue : Catalogue) (key : String) :
    catalogue.IsSuperclassWalk key (catalogue.superclassKeys key) := by
  have complete : ∀ base, base ∈ catalogue.superclassKeys key ↔
      TransGen catalogue.HasSuperclass key base := fun base => mem_superclassKeys_iff
  unfold superclassKeys at complete ⊢
  cases found : catalogue.find? key with
  | none =>
      rw [found] at complete
      exact ⟨.singleton key, .nil, complete, Nat.zero_le _⟩
  | some entity =>
      rw [found] at complete
      have same := key_of_find? found
      refine ⟨same ▸ superclassKeysFrom_climbs (same.symm ▸ found),
        (superclassKeysFrom_distinct [] entity).1, complete, ?_⟩
      simpa [unseen] using length_superclassKeysFrom_le [] entity

end Catalogue

/-! ## Unions -/

section Unions

variable {own others : List Surrogate} {name : String}

/-- Surrogates without those whose name another has before. -/
def firstNamed (surrogates : List Surrogate) : List Surrogate :=
  surrogates.eraseDupsBy (·.name == ·.name)

theorem any_named_iff : own.any (·.name == name) = true ↔ name ∈ own.map (·.name) := by
  simp only [List.any_eq_true, beq_iff_eq, List.mem_map]

/-- Taking over adds what is new by name, each name once. -/
theorem withNewSurrogates_eq (own others : List Surrogate) :
    withNewSurrogates own others =
      own ++ firstNamed (others.filter (·.name ∉ own.map (·.name))) := by
  unfold withNewSurrogates firstNamed
  induction others generalizing own with
  | nil => simp
  | cons surrogate rest ih =>
      rw [List.foldl_cons, ih]
      by_cases there : surrogate.name ∈ own.map (·.name)
      · rw [if_pos (any_named_iff.mpr there), List.filter_cons_of_neg (by simpa using there)]
      · rw [if_neg (mt any_named_iff.mp there), List.filter_cons_of_pos (by simpa using there),
          List.eraseDupsBy_cons, List.filter_filter, List.append_assoc, List.singleton_append]
        congr 3
        refine List.filter_congr fun other _ => ?_
        simp only [List.map_append, List.map_singleton, List.mem_append, List.mem_singleton]
        grind

theorem nodup_withNewSurrogates (distinct : (own.map (·.name)).Nodup) (others : List Surrogate) :
    ((withNewSurrogates own others).map (·.name)).Nodup := by
  unfold withNewSurrogates
  induction others generalizing own with
  | nil => exact distinct
  | cons surrogate rest ih =>
      rw [List.foldl_cons]
      split
      next => exact ih distinct
      next fresh =>
        rw [any_named_iff] at fresh
        refine ih ?_
        rw [List.map_append, List.map_singleton]
        exact List.nodup_append.mpr ⟨distinct, List.nodup_singleton _,
          fun _ among _ last same => fresh (List.mem_singleton.mp last ▸ same ▸ among)⟩

/-- Of surrogates with one name the first counts. -/
theorem find?_withNewSurrogates (own others : List Surrogate) (name : String) :
    (withNewSurrogates own others).find? (·.name == name) =
      (own ++ others).find? (·.name == name) := by
  unfold withNewSurrogates
  induction others generalizing own with
  | nil => simp
  | cons surrogate rest ih =>
      rw [List.foldl_cons, ih]
      split
      next met =>
        rw [List.find?_append, List.find?_append, List.find?_cons]
        split
        next named =>
          -- The name is found among the own ones, so what comes later is not looked at.
          have found : (own.find? (·.name == name)).isSome = true :=
            List.find?_isSome.mpr (List.any_eq_true.mp (eq_of_beq named ▸ met))
          obtain ⟨first, here⟩ := Option.isSome_iff_exists.mp found
          rw [here, Option.some_or, Option.some_or]
        next => rfl
      next => rw [List.append_assoc, List.singleton_append]

theorem mem_of_mem_withNewSurrogates {surrogate : Surrogate}
    (among : surrogate ∈ withNewSurrogates own others) : surrogate ∈ own ∨ surrogate ∈ others := by
  unfold withNewSurrogates at among
  induction others generalizing own with
  | nil => exact .inl among
  | cons other rest ih =>
      rw [List.foldl_cons] at among
      rcases ih among with before | later
      · split at before
        next => exact .inl before
        next => grind
      · exact .inr (List.mem_cons_of_mem _ later)

theorem firstNamed_eq (surrogates : List Surrogate) :
    firstNamed surrogates = withNewSurrogates [] surrogates := by
  rw [withNewSurrogates_eq, List.map_nil, List.nil_append, List.filter_eq_self.mpr]
  simp

/-- Taking over what is there by name changes nothing. -/
theorem withNewSurrogates_of_subset (there : ∀ other ∈ others, other.name ∈ own.map (·.name)) :
    withNewSurrogates own others = own := by
  have nothing : others.filter (·.name ∉ own.map (·.name)) = [] :=
    List.filter_eq_nil_iff.mpr fun other among => by simpa using there other among
  rw [withNewSurrogates_eq, nothing]
  exact List.append_nil own

end Unions

namespace SurrogateTable

/-- What a type takes over: of the surrogates of its superclasses, nearest first, the first of each
name that the type has none of. -/
def handedDown (table : SurrogateTable) (catalogue : Catalogue) (key : String) : List Surrogate :=
  firstNamed (((catalogue.superclassKeys key).flatMap table.ofKey).filter
    (·.name ∉ table.names key))

/-- The first surrogate of a type with a name. -/
def surrogate? (table : SurrogateTable) (key name : String) : Option Surrogate :=
  (table.ofKey key).find? (·.name == name)

section Tables

variable {catalogue : Catalogue} {table : SurrogateTable} {key base name : String}

theorem mem_of_surrogate? {surrogate : Surrogate}
    (found : table.surrogate? key name = some surrogate) :
    surrogate ∈ table.ofKey key ∧ surrogate.name = name :=
  ⟨List.mem_of_find?_eq_some found, by simpa using List.find?_some found⟩

theorem foldl_withNewSurrogates (table : SurrogateTable) (keys : List String)
    (own : List Surrogate) :
    keys.foldl (fun own superclass => withNewSurrogates own (table.ofKey superclass)) own =
      withNewSurrogates own (keys.flatMap table.ofKey) := by
  unfold withNewSurrogates
  rw [List.foldl_flatMap]

/-- What holds of all entries of a table holds of the surrogates of a type. -/
theorem ofKey_of_forall {motive : List Surrogate → Prop} (nothing : motive [])
    (each : ∀ entry ∈ table, motive entry.2) (key : String) : motive (table.ofKey key) := by
  rw [ofKey]
  cases found : table.lookup key with
  | none => exact nothing
  | some own => exact each _ (Keyed.mem_of_lookup found)

theorem keys_inherited (catalogue : Catalogue) (table : SurrogateTable) :
    (inherited catalogue table).map Prod.fst = table.map Prod.fst := by
  rw [inherited, List.map_map]
  rfl

/-- A type with a place takes over from its superclasses. -/
theorem ofKey_inherited_of_placed (placed : (table.lookup key).isSome = true) :
    (inherited catalogue table).ofKey key =
      withNewSurrogates (table.ofKey key) ((catalogue.superclassKeys key).flatMap table.ofKey) := by
  obtain ⟨own, found⟩ := Option.isSome_iff_exists.mp placed
  rw [ofKey_inherited, ofKey, found, Option.map_some, Option.getD_some, Option.getD_some,
    foldl_withNewSurrogates]

/-- A type that has surrogates has a place. -/
theorem placed_of_mem_names (held : name ∈ table.names key) :
    (table.lookup key).isSome = true := by
  cases found : table.lookup key with
  | some own => rfl
  | none =>
      rw [names, ofKey, found] at held
      cases held

/-- What a type has in the end under a name is what the first among it and its superclasses has. -/
theorem surrogate?_inherited (placed : (table.lookup key).isSome = true) :
    (inherited catalogue table).surrogate? key name =
      (key :: catalogue.superclassKeys key).findSome? (table.surrogate? · name) := by
  rw [surrogate?, ofKey_inherited_of_placed placed, find?_withNewSurrogates,
    ← List.flatMap_cons, List.find?_flatMap]
  rfl

/-- **Taking over once more changes nothing.** -/
theorem inherited_inherited (catalogue : Catalogue) (table : SurrogateTable) :
    inherited catalogue (inherited catalogue table) = inherited catalogue table := by
  rw [inherited]
  refine (List.map_congr_left fun entry among => ?_).trans (List.map_id _)
  obtain ⟨⟨key, own⟩, -, rfl⟩ := List.mem_map.mp among
  simp only [foldl_withNewSurrogates, id_eq, Prod.mk.injEq, true_and]
  refine withNewSurrogates_of_subset fun surrogate taken => ?_
  obtain ⟨base, above, held⟩ := List.mem_flatMap.mp taken
  obtain ⟨holder, further, there⟩ := exists_superclass_of_mem_inherited
    (Catalogue.mem_superclassKeys_iff.mp above) (List.mem_map_of_mem held)
  rw [← foldl_withNewSurrogates]
  exact (mem_names_foldl table).mpr (.inr ⟨holder, further, there⟩)

/-- What is taken over has new names, each once. -/
theorem names_handedDown (catalogue : Catalogue) (table : SurrogateTable) (key : String) :
    ((table.handedDown catalogue key).map (·.name)).Nodup ∧
      ∀ name ∈ (table.handedDown catalogue key).map (·.name), name ∉ table.names key := by
  rw [handedDown, firstNamed_eq]
  refine ⟨nodup_withNewSurrogates (by simp) _, fun name among => ?_⟩
  rcases mem_names_withNewSurrogates.mp among with nowhere | among
  · cases nowhere
  · obtain ⟨surrogate, inside, rfl⟩ := List.mem_map.mp among
    simpa using (List.mem_filter.mp inside).2

theorem nodup_names_inherited (distinct : (table.names key).Nodup) :
    ((inherited catalogue table).names key).Nodup := by
  cases found : table.lookup key with
  | none =>
      rw [names_inherited_of_unplaced found]
      exact .nil
  | some own =>
      rw [names, ofKey_inherited_of_placed (by rw [found]; rfl)]
      exact nodup_withNewSurrogates distinct _

end Tables

end SurrogateTable

/-! ## Values on instances -/

/-- The surrogate that a superclass has under a name is seen from a type: the type has a place, and
neither it nor a superclass that is nearer has the name. -/
structure SurrogateTable.Reaches (table : SurrogateTable) (catalogue : Catalogue)
    (key base name : String) : Prop where
  placed : (table.lookup key).isSome = true
  above : base ∈ catalogue.superclassKeys key
  held : name ∈ table.names base
  free : ∀ holder ∈ key :: (catalogue.superclassKeys key).takeWhile (· ≠ base),
    name ∉ table.names holder

/-- A search that finds nothing before an item finds what it finds there. -/
theorem findSome?_of_takeWhile {α β : Type} [DecidableEq α] {search : α → Option β}
    {items : List α} {item : α} {answer : β} (among : item ∈ items)
    (found : search item = some answer)
    (missing : ∀ other ∈ items.takeWhile (· ≠ item), search other = none) :
    items.findSome? search = some answer := by
  induction items with
  | nil => cases among
  | cons first rest ih =>
      by_cases here : first = item
      · rw [here, List.findSome?_cons_of_isSome (by rw [found]; rfl), found]
      · rw [List.takeWhile_cons_of_pos (by simpa using here)] at missing
        obtain ⟨nothing, later⟩ := List.forall_mem_cons.mp missing
        rw [List.findSome?_cons_of_isNone (by rw [nothing]; rfl)]
        exact ih ((List.mem_cons.mp among).resolve_left (Ne.symm here)) later

namespace SurrogateTable

section Values

variable {catalogue : Catalogue} {table : SurrogateTable} {key base name : String}
  {holder : Json}

/-- Where names are distinct, the value under a name is that of the surrogate with the name. -/
theorem lookup_namedValues? {surrogates : List Surrogate} {before after : List (String × Json)}
    (distinct : (surrogates.map (·.name)).Nodup)
    (given : namedValues? holder surrogates before = some after) :
    after.lookup name =
      match surrogates.find? (·.name == name) with
      | some surrogate => surrogate.valueOn? holder
      | none => before.lookup name := by
  induction surrogates generalizing before with
  | nil =>
      cases given
      rfl
  | cons surrogate rest ih =>
      obtain ⟨value, read, later⟩ := Option.bind_eq_some_iff.mp given
      obtain ⟨fresh, distinct⟩ := List.nodup_cons.mp distinct
      rw [ih distinct later, List.find?_cons]
      by_cases named : surrogate.name = name
      · have absent : rest.find? (·.name == name) = none :=
          List.find?_eq_none.mpr fun other among same =>
            fresh (List.mem_map.mpr ⟨other, among, (eq_of_beq same).trans named.symm⟩)
        rw [absent, beq_iff_eq.mpr named]
        simp only [read]
        exact named ▸ Keyed.lookup_update_self _ _ _ _
      · have other : (surrogate.name == name) = false := beq_false_of_ne named
        rw [other]
        simp only [Keyed.put, Keyed.lookup_update_of_ne (Ne.symm named)]

theorem lookup_valuesOn? (distinct : (table.names key).Nodup) {values : List (String × Json)}
    (given : table.valuesOn? key holder = some values) :
    values.lookup name = (table.surrogate? key name).bind (·.valueOn? holder) := by
  rw [lookup_namedValues? distinct given, surrogate?]
  cases (table.ofKey key).find? (·.name == name) <;> rfl

/-- Where every surrogate stands for an association with a name, all values can be read. -/
theorem isSome_namedValues? {surrogates : List Surrogate}
    (associated : ∀ surrogate ∈ surrogates, surrogate.association.isSome = true)
    (values : List (String × Json)) : (namedValues? holder surrogates values).isSome = true := by
  induction surrogates generalizing values with
  | nil => rfl
  | cons surrogate rest ih =>
      obtain ⟨here, later⟩ := List.forall_mem_cons.mp associated
      obtain ⟨association, leads⟩ := Option.isSome_iff_exists.mp here
      simp only [namedValues?, Surrogate.valueOn?, leads, Option.map_some, Option.bind_some]
      exact ih later _

/-- What can be seen from a type is what it has in the end. -/
theorem surrogate?_of_reaches (reaches : table.Reaches catalogue key base name) :
    (inherited catalogue table).surrogate? key name = table.surrogate? base name ∧
      (inherited catalogue table).surrogate? base name = table.surrogate? base name ∧
      (table.surrogate? base name).isSome = true := by
  have held : (table.surrogate? base name).isSome = true := by
    obtain ⟨surrogate, among, named⟩ := List.mem_map.mp reaches.held
    exact List.find?_isSome.mpr ⟨surrogate, among, beq_iff_eq.mpr named⟩
  obtain ⟨surrogate, found⟩ := Option.isSome_iff_exists.mp held
  have missing : ∀ nearer ∈ key :: (catalogue.superclassKeys key).takeWhile (· ≠ base),
      table.surrogate? nearer name = none := by
    intro nearer among
    refine List.find?_eq_none.mpr fun other inside named => reaches.free nearer among ?_
    exact eq_of_beq named ▸ List.mem_map_of_mem inside
  obtain ⟨own, nearer⟩ := List.forall_mem_cons.mp missing
  rw [surrogate?_inherited reaches.placed, surrogate?_inherited (placed_of_mem_names reaches.held),
    List.findSome?_cons_of_isNone (by rw [own]; rfl),
    List.findSome?_cons_of_isSome (by rw [found]; rfl), found]
  exact ⟨findSome?_of_takeWhile reaches.above found nearer, rfl, rfl⟩

theorem isSome_valuesOn?
    (associated : ∀ entry ∈ table, ∀ surrogate ∈ entry.2, surrogate.association.isSome = true)
    (catalogue : Catalogue) (key : String) (holder : Json) :
    ((inherited catalogue table).valuesOn? key holder).isSome = true := by
  have each : ∀ key, ∀ surrogate ∈ table.ofKey key, surrogate.association.isSome = true :=
    ofKey_of_forall (motive := fun own => ∀ surrogate ∈ own, surrogate.association.isSome = true)
      (by simp) associated
  refine isSome_namedValues? (fun surrogate among => ?_) []
  cases found : table.lookup key with
  | none =>
      rw [ofKey_inherited, found] at among
      cases among
  | some own =>
      rw [ofKey_inherited_of_placed (by rw [found]; rfl)] at among
      rcases mem_of_mem_withNewSurrogates among with here | above
      · exact each key surrogate here
      · obtain ⟨base, -, inside⟩ := List.mem_flatMap.mp above
        exact each base surrogate inside

/-- **Inherited surrogates.** Whatever superclasses lead to, the table in which types have taken
over the surrogates of their superclasses has the same keys. A type has its own surrogates and
behind them, nearest superclass first, the first of each name that it has none of. Taking over once
more changes nothing. Where the names of each type are distinct, a surrogate of a superclass that
can be seen from a type has one value on an instance, read as one of either. -/
theorem inherited_isUnion (catalogue : Catalogue) (table : SurrogateTable) :
    (inherited catalogue table).map Prod.fst = table.map Prod.fst ∧
    (∀ key, catalogue.IsSuperclassWalk key (catalogue.superclassKeys key)) ∧
    (∀ key, (table.lookup key).isSome = true →
      (inherited catalogue table).ofKey key = table.ofKey key ++ table.handedDown catalogue key ∧
      ((table.handedDown catalogue key).map (·.name)).Nodup ∧
      ∀ name ∈ (table.handedDown catalogue key).map (·.name), name ∉ table.names key) ∧
    inherited catalogue (inherited catalogue table) = inherited catalogue table ∧
    ((∀ entry ∈ table, (entry.2.map (·.name)).Nodup) →
      ∀ key base name, table.Reaches catalogue key base name → ∀ holder values others,
        (inherited catalogue table).valuesOn? key holder = some values →
        (inherited catalogue table).valuesOn? base holder = some others →
        ∃ surrogate ∈ table.ofKey base, surrogate.name = name ∧
          values.lookup name = surrogate.valueOn? holder ∧
          others.lookup name = surrogate.valueOn? holder) ∧
    ((∀ entry ∈ table, ∀ surrogate ∈ entry.2, surrogate.association.isSome = true) →
      ∀ key holder, ((inherited catalogue table).valuesOn? key holder).isSome = true) := by
  refine ⟨keys_inherited catalogue table, catalogue.superclassKeys_isWalk, fun key placed => ?_,
    inherited_inherited catalogue table, ?_,
    fun associated => isSome_valuesOn? associated catalogue⟩
  · refine ⟨?_, names_handedDown catalogue table key⟩
    rw [ofKey_inherited_of_placed placed, withNewSurrogates_eq]
    rfl
  · intro distinctEntries key base name reaches holder values others given givenBase
    have distinct : ∀ key, (table.names key).Nodup :=
      ofKey_of_forall (motive := fun own => (own.map Surrogate.name).Nodup) (by simp)
        distinctEntries
    obtain ⟨ofKey, ofBase, there⟩ := surrogate?_of_reaches reaches
    obtain ⟨surrogate, found⟩ := Option.isSome_iff_exists.mp there
    obtain ⟨inside, named⟩ := mem_of_surrogate? found
    refine ⟨surrogate, inside, named, ?_, ?_⟩
    · rw [lookup_valuesOn? (nodup_names_inherited (distinct key)) given, ofKey, found,
        Option.bind_some]
    · rw [lookup_valuesOn? (nodup_names_inherited (distinct base)) givenBase, ofBase, found,
        Option.bind_some]

end Values

end SurrogateTable

/-! ## Orders and rush orders in a circle -/

namespace Shop

/-- The surrogate for the key of a customer. -/
def customerKey (name association : String) : Surrogate :=
  { name
    association := some association
    relatedType := customer.type
    keyType := { name := "Int32", space := "System" }
    keyName := some "Id" }

/-- Orders that extend rush orders, and rush orders that extend orders. -/
def circle : Catalogue :=
  { entities :=
      [ { entity "Order" "Id" [] with superclass := some (type "RushOrder") },
        { entity "RushOrder" "Id" [] with superclass := some (type "Order") } ] }

/-- Rush orders have a payer, orders a payer and a customer. -/
def circleTable : SurrogateTable :=
  [ ((type "RushOrder").key, [customerKey "PayerId" "Payer"]),
    ((type "Order").key, [customerKey "PayerId" "BillTo", customerKey "CustomerId" "Customer"]) ]

/-- A rush order of a customer. -/
def rushOrderOfCustomer : Json :=
  .record [("Customer", .record [("Id", .integer 42)]), ("Payer", .record [("Id", .integer 7)])]

end Shop

/-- Rush orders take over the customer of orders, and read it as orders do. -/
theorem inherited_isUnion_rushOrder :
    Shop.circleTable.Reaches Shop.circle (Shop.type "RushOrder").key (Shop.type "Order").key
      "CustomerId" ∧
    (SurrogateTable.inherited Shop.circle Shop.circleTable).names (Shop.type "RushOrder").key =
      ["PayerId", "CustomerId"] ∧
    ∃ values others,
      (SurrogateTable.inherited Shop.circle Shop.circleTable).valuesOn? (Shop.type "RushOrder").key
        Shop.rushOrderOfCustomer = some values ∧
      (SurrogateTable.inherited Shop.circle Shop.circleTable).valuesOn? (Shop.type "Order").key
        Shop.rushOrderOfCustomer = some others ∧
      values.lookup "CustomerId" = others.lookup "CustomerId" := by
  have reaches : Shop.circleTable.Reaches Shop.circle (Shop.type "RushOrder").key
      (Shop.type "Order").key "CustomerId" :=
    ⟨by decide +kernel, by decide +kernel, by decide +kernel, by decide +kernel⟩
  obtain ⟨-, -, -, -, agree, read⟩ :=
    SurrogateTable.inherited_isUnion Shop.circle Shop.circleTable
  obtain ⟨values, given⟩ := Option.isSome_iff_exists.mp
    (read (by decide +kernel) (Shop.type "RushOrder").key Shop.rushOrderOfCustomer)
  obtain ⟨others, givenBase⟩ := Option.isSome_iff_exists.mp
    (read (by decide +kernel) (Shop.type "Order").key Shop.rushOrderOfCustomer)
  obtain ⟨_, -, -, seen, seenBase⟩ :=
    agree (by decide +kernel) _ _ _ reaches _ _ _ given givenBase
  exact ⟨reaches, by decide +kernel, values, others, given, givenBase, seen.trans seenBase.symm⟩

end EntityAtlas

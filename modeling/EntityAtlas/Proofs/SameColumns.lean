import EntityAtlas.Proofs.ColumnReadings
import EntityAtlas.Proofs.ForeignKeyNames
import EntityAtlas.Proofs.SurrogateMembers

/-!
# Searches for the same columns

Two lists name the same columns exactly if their names, without quotes and in lower case, are the
same in some order (`sameColumns_iff_perm`). This is an equality of columns
(`sameColumns_isEquality`), and a search compares columns in no other way. What one member or the
identifier answers for a list, it answers for every list of the same columns
(`namesOverExactly_congr`). Columns that are not carried together are looked up one by one, and the
names come in the order of the columns: for the same columns these are the same names in another
order (`namesOver_sameColumns`). An identifier over the columns answers only if it has a name or
parts. One that has neither is passed over, as associations are, and then the order of the columns
shows (`namesOver_ordered_parcel`).
-/

set_option autoImplicit false

namespace EntityAtlas

/-! ## The same columns -/

/-- Under an order that tells all items apart, lists are the same once sorted exactly if they are
the same up to order. -/
theorem ascending_eq_iff_perm {α : Type} {below : α → α → Bool}
    (total : ∀ left right, below left right || below right left)
    (trans : ∀ first second third, below first second → below second third → below first third)
    (antisymm : ∀ left right, below left right → below right left → left = right)
    {items others : List α} :
    ascending below items = ascending below others ↔ items.Perm others := by
  constructor
  · intro same
    exact (ascending_perm below items).symm.trans (same ▸ ascending_perm below others)
  · intro reordered
    have sorted : (ascending below items).Perm (ascending below others) :=
      ((ascending_perm below items).trans reordered).trans (ascending_perm below others).symm
    exact sorted.eq_of_pairwise (fun left right _ _ => antisymm left right)
      (ascending_pairwise total trans items) (ascending_pairwise total trans others)

namespace ColumnName

/-- Lists name the same columns exactly if their names read the same in some order. -/
theorem sameColumns_iff_perm {columns others : List String} :
    sameColumns columns others = true ↔ (columns.map folded).Perm (others.map folded) := by
  have sorted : foldedAscending columns = foldedAscending others ↔
      (columns.map folded).Perm (others.map folded) := by
    refine ascending_eq_iff_perm ?_ ?_ ?_
    · intro left right
      simpa using String.le_total left right
    · intro first second third before after
      exact decide_eq_true (String.le_trans (of_decide_eq_true before) (of_decide_eq_true after))
    · intro left right below above
      exact String.le_antisymm (of_decide_eq_true below) (of_decide_eq_true above)
  simp only [sameColumns, Bool.and_eq_true, beq_iff_eq, sorted]
  refine and_iff_right_of_imp fun reordered => ?_
  simpa using reordered.length_eq

theorem sameColumns_symm {columns others : List String}
    (same : sameColumns columns others = true) : sameColumns others columns = true :=
  sameColumns_iff_perm.mpr (sameColumns_iff_perm.mp same).symm

/-- Lists of the same columns are not told apart where columns are compared. -/
theorem sameColumns_congr {columns others : List String}
    (same : sameColumns columns others = true) (own : List String) :
    sameColumns own columns = sameColumns own others := by
  have reordered := sameColumns_iff_perm.mp same
  rw [Bool.eq_iff_iff, sameColumns_iff_perm, sameColumns_iff_perm]
  exact ⟨fun own => own.trans reordered, fun own => own.trans reordered.symm⟩

/-- Each column of one list is also in the other, perhaps in other quotes and letter case. -/
theorem exists_sameColumns_of_mem {columns others : List String} {column : String}
    (same : sameColumns columns others = true) (among : column ∈ columns) :
    ∃ other ∈ others, sameColumns [column] [other] = true := by
  have reading : folded column ∈ others.map folded :=
    (sameColumns_iff_perm.mp same).subset (List.mem_map_of_mem among)
  obtain ⟨other, inside, alike⟩ := List.mem_map.mp reading
  refine ⟨other, inside, sameColumns_iff_perm.mpr ?_⟩
  simp [alike]

/-- **Equality of columns.** Lists name the same columns exactly if their names, without quotes and
in lower case, are the same up to order, each equally often. So this is an equivalence, it does not
see the order within a list, and lists of the same columns may be put together. -/
theorem sameColumns_isEquality :
    (∀ columns others, sameColumns columns others = true ↔
      (columns.map folded).Perm (others.map folded)) ∧
    Equivalence (fun columns others => sameColumns columns others = true) ∧
    (∀ {columns reordered others otherwise : List String}, columns.Perm reordered →
      others.Perm otherwise → sameColumns columns others = sameColumns reordered otherwise) ∧
    ∀ {columns others more further : List String}, sameColumns columns others = true →
      sameColumns more further = true →
        sameColumns (columns ++ more) (others ++ further) = true := by
  refine ⟨fun columns others => sameColumns_iff_perm, ⟨?refl, ?symm, ?trans⟩, ?reordered, ?append⟩
  case refl => exact fun columns => sameColumns_iff_perm.mpr (List.Perm.refl _)
  case symm => exact sameColumns_symm
  case trans =>
    intro first second third earlier later
    exact sameColumns_iff_perm.mpr
      ((sameColumns_iff_perm.mp earlier).trans (sameColumns_iff_perm.mp later))
  case reordered =>
    intro columns reordered others otherwise reorders reordersOthers
    have readings := reorders.map folded
    have readingsOfOthers := reordersOthers.map folded
    rw [Bool.eq_iff_iff, sameColumns_iff_perm, sameColumns_iff_perm]
    exact ⟨fun same => (readings.symm.trans same).trans readingsOfOthers,
      fun same => (readings.trans same).trans readingsOfOthers.symm⟩
  case append =>
    intro columns others more further same alike
    rw [sameColumns_iff_perm, List.map_append, List.map_append]
    exact (sameColumns_iff_perm.mp same).append (sameColumns_iff_perm.mp alike)

/-- One column named twice on either side, put together with another column. -/
theorem sameColumns_isEquality_twice :
    sameColumns ["[Id]", "id"] ["ID", "Id"] = true ∧ sameColumns ["LineNo"] ["lineno"] = true ∧
    sameColumns ["[Id]", "id", "LineNo"] ["ID", "Id", "lineno"] = true := by
  have twice : sameColumns ["[Id]", "id"] ["ID", "Id"] = true := by decide +kernel
  have once : sameColumns ["LineNo"] ["lineno"] = true := by decide +kernel
  exact ⟨twice, once, sameColumns_isEquality.2.2.2 twice once⟩

end ColumnName

open ColumnName (sameColumns sameColumns_symm sameColumns_congr exists_sameColumns_of_mem
  sameColumns_iff_perm)

/-! ## Columns that are carried together -/

section Together

variable {columns others : List String} (same : sameColumns columns others = true)
include same

theorem sameColumns?_congr (own : List (Option String)) :
    sameColumns? own (columns.map some) = sameColumns? own (others.map some) := by
  have lengths : columns.length = others.length := by
    simpa using (sameColumns_iff_perm.mp same).length_eq
  simp only [sameColumns?, List.length_map, lengths, presentNames?_map_some]
  split
  next =>
    cases presentNames? own with
    | none => rfl
    | some texts => exact congrArg Except.ok (sameColumns_congr same texts)
  next => rfl

theorem memberOver?_congr (members : List Member) :
    memberOver? (columns.map some) members = memberOver? (others.map some) members := by
  induction members with
  | nil => rfl
  | cons member rest ih => rw [memberOver?, memberOver?, sameColumns?_congr same, ih]

theorem isKeyedBy_congr (entity : Entity) :
    entity.isKeyedBy (columns.map some) = entity.isKeyedBy (others.map some) := by
  rw [Entity.isKeyedBy, Entity.isKeyedBy, sameColumns?_congr same]

/-- **The same columns together.** They have one answer. -/
theorem namesOverExactly_congr (entity : Entity) :
    entity.namesOverExactly (columns.map some) = entity.namesOverExactly (others.map some) := by
  rw [Entity.namesOverExactly, Entity.namesOverExactly, memberOver?_congr same,
    isKeyedBy_congr same]

end Together

namespace Entity

/-- Columns are carried together: a single member that is no association lies over them, or the
identifier does and has a name or parts. -/
inductive CarriesTogether (entity : Entity) (columns : List String) : Prop where
  | member {member : Member} {own : List String} (searched : member ∈ entity.searched)
      (mapped : member.columns = own.map some) (filled : own ≠ [])
      (same : sameColumns own columns = true) : CarriesTogether entity columns
  | identifier {own : List String} (mapped : entity.keyColumns = own.map some) (filled : own ≠ [])
      (same : sameColumns own columns = true)
      (answers : entity.identifierName?.isSome = true ∨ entity.keyParts?.isSome = true) :
      CarriesTogether entity columns

end Entity

section Carried

variable {entity : Entity} {columns : List String}

/-- Where a member lies over the columns, a search through members finds one. -/
theorem memberOver?_ne_none {members : List Member} {member : Member} {own : List String}
    (among : member ∈ members) (mapped : member.columns = own.map some) (filled : own ≠ [])
    (same : sameColumns own columns = true) :
    memberOver? (columns.map some) members ≠ .ok none := by
  induction members with
  | nil => cases among
  | cons first rest ih =>
      rw [memberOver?]
      rcases List.mem_cons.mp among with rfl | later
      · have starts : startsWithColumn member.columns = true := by
          rw [mapped]
          cases own with
          | nil => exact (filled rfl).elim
          | cons column _ => rfl
        rw [if_pos starts, mapped, sameColumns?_map_some, same]
        exact fun nothing => by cases nothing
      · split
        next =>
          split
          next => exact fun nothing => by cases nothing
          next => exact ih later
          next => exact fun nothing => by cases nothing
        next => exact ih later

theorem isKeyedBy_of_sameColumns {own : List String} (mapped : entity.keyColumns = own.map some)
    (filled : own ≠ []) (identified : entity.identifier.isSome = true)
    (same : sameColumns own columns = true) :
    entity.isKeyedBy (columns.map some) = .ok true := by
  have given : entity.keyColumns.isEmpty = false := by
    rw [mapped]
    cases own with
    | nil => exact (filled rfl).elim
    | cons column _ => rfl
  rw [Entity.isKeyedBy, identified, given, mapped, sameColumns?_map_some, same]
  rfl

/-- Only an entity with an identifier has a name or parts of one. -/
theorem identifier_of_answers
    (answers : entity.identifierName?.isSome = true ∨ entity.keyParts?.isSome = true) :
    entity.identifier.isSome = true ∧ entity.answeringNames?.isSome = true := by
  cases identified : entity.identifier with
  | none => simp [Entity.identifierName?, Entity.keyParts?, identified] at answers
  | some identifier =>
      refine ⟨rfl, ?_⟩
      rw [Entity.answeringNames?]
      cases named : entity.identifierName? with
      | some name => rfl
      | none => simpa [named] using answers

/-- Columns that are carried together have an answer at once. -/
theorem namesOverExactly_ne_none (together : entity.CarriesTogether columns) :
    entity.namesOverExactly (columns.map some) ≠ .ok none := by
  intro nothing
  obtain ⟨member?, searched, nothing⟩ := except_bind_ok_iff.mp nothing
  cases member? with
  | some member => cases nothing
  | none =>
      obtain ⟨keyed, identified, nothing⟩ := except_bind_ok_iff.mp nothing
      cases together with
      | member among mapped filled same =>
          exact memberOver?_ne_none among mapped filled same searched
      | identifier mapped filled same answers =>
          obtain ⟨present, answered⟩ := identifier_of_answers answers
          rw [isKeyedBy_of_sameColumns mapped filled present same] at identified
          cases identified
          have unanswered : entity.answeringNames? = none := except_pure_ok_iff.mp nothing
          rw [unanswered] at answered
          cases answered

end Carried

/-! ## Columns one by one -/

section Each

variable {entity : Entity}

theorem nodup_withNewNames {names : List (Option String)} (distinct : names.Nodup)
    (others : List (Option String)) : (withNewNames names others).Nodup := by
  unfold withNewNames
  induction others generalizing names with
  | nil => exact distinct
  | cons name rest ih =>
      rw [List.foldl_cons]
      split
      next => exact ih distinct
      next fresh =>
        refine ih (List.nodup_append.mpr ⟨distinct, List.nodup_singleton _, ?_⟩)
        rintro _ there _ here rfl
        rw [List.mem_singleton.mp here] at there
        exact fresh (List.contains_iff_mem.mpr there)

/-- The names found column by column are distinct. -/
theorem nodup_namesOverEach {found columns names : List (Option String)} (distinct : found.Nodup)
    (each : entity.namesOverEach found columns = .ok names) : names.Nodup := by
  induction columns generalizing found with
  | nil =>
      cases each
      exact distinct
  | cons column rest ih =>
      obtain ⟨more, -, each⟩ := except_bind_ok_iff.mp each
      exact ih (nodup_withNewNames distinct _) each

/-- What is found for one list column by column is found for every list of the same columns. -/
theorem namesOverEach_subset_of_sameColumns {columns others : List String}
    {names more : List (Option String)} (same : sameColumns columns others = true)
    (each : entity.namesOverEach [] (columns.map some) = .ok names)
    (otherwise : entity.namesOverEach [] (others.map some) = .ok more) : names ⊆ more := by
  intro name among
  rw [Entity.mem_namesOverEach_iff each] at among
  rw [Entity.mem_namesOverEach_iff otherwise]
  refine among.imp_right ?_
  rintro ⟨_, inside, answer, found, answered⟩
  obtain ⟨column, listed, rfl⟩ := List.mem_map.mp inside
  obtain ⟨other, there, alike⟩ := exists_sameColumns_of_mem same listed
  refine ⟨some other, List.mem_map_of_mem there, answer, ?_, answered⟩
  rw [← found]
  exact (namesOverExactly_congr alike entity).symm

/-- **The same columns one by one.** They have the same names, perhaps in another order. -/
theorem namesOverEach_perm {columns others : List String} {names more : List (Option String)}
    (same : sameColumns columns others = true)
    (each : entity.namesOverEach [] (columns.map some) = .ok names)
    (otherwise : entity.namesOverEach [] (others.map some) = .ok more) : names.Perm more := by
  refine (List.perm_ext_iff_of_nodup (nodup_namesOverEach List.nodup_nil each)
    (nodup_namesOverEach List.nodup_nil otherwise)).mpr fun name =>
      ⟨fun among => ?_, fun among => ?_⟩
  · exact namesOverEach_subset_of_sameColumns same each otherwise among
  · exact namesOverEach_subset_of_sameColumns (sameColumns_symm same) otherwise each among

end Each

section Searches

variable {entity : Entity} {columns : List (Option String)}

/-- A search that finds nothing for the columns together goes on column by column, if it may and if
there are several. -/
theorem namesOver_of_none (nothing : entity.namesOverExactly columns = .ok none)
    (decompose : Bool) :
    entity.namesOver columns decompose =
      if decompose && columns.length > 1 then
        (entity.namesOverEach [] columns).map fun names =>
          if names.isEmpty then none else some names
      else .ok none := by
  rw [Entity.namesOver, nothing]
  cases entity.namesOverEach [] columns <;> rfl

theorem namesOver_of_some {names : List (Option String)}
    (found : entity.namesOverExactly columns = .ok (some names)) (decompose : Bool) :
    entity.namesOver columns decompose = .ok (some names) := by
  rw [Entity.namesOver, found]
  rfl

end Searches

/-- **Searches for the same columns.** On an entity without missing column names, lists of the same
columns have an answer both or neither, and it holds the same names. For columns that are carried
together it is one answer. -/
theorem namesOver_sameColumns {entity : Entity} (searchable : entity.IsSearchable)
    {columns others : List String} (same : sameColumns columns others = true) (decompose : Bool) :
    ∃ found otherwise : Option (List (Option String)),
      entity.namesOver (columns.map some) decompose = .ok found ∧
      entity.namesOver (others.map some) decompose = .ok otherwise ∧
      (found = none ↔ otherwise = none) ∧
      (∀ names more, found = some names → otherwise = some more → names.Perm more) ∧
      (entity.CarriesTogether columns → found = otherwise) := by
  obtain ⟨together, exact⟩ := namesOverExactly_ok searchable columns
  have exact' : entity.namesOverExactly (others.map some) = .ok together :=
    (namesOverExactly_congr same entity).symm.trans exact
  cases together with
  | some names =>
      refine ⟨some names, some names, namesOver_of_some exact decompose,
        namesOver_of_some exact' decompose, Iff.rfl, ?_, fun _ => rfl⟩
      rintro _ _ ⟨⟩ ⟨⟩
      exact List.Perm.refl names
  | none =>
      have apart : ¬entity.CarriesTogether columns := fun carried =>
        namesOverExactly_ne_none carried exact
      have lengths : (others.map some).length = (columns.map some).length := by
        simpa using (sameColumns_iff_perm.mp same).length_eq.symm
      rw [namesOver_of_none exact, namesOver_of_none exact', lengths]
      split
      next =>
        obtain ⟨names, each⟩ := namesOverEach_ok searchable columns []
        obtain ⟨more, each'⟩ := namesOverEach_ok searchable others []
        have reordered := namesOverEach_perm same each each'
        rw [each, each']
        refine ⟨_, _, rfl, rfl, ?_, ?_, fun carried => (apart carried).elim⟩
        · simp [reordered.isEmpty_eq]
        · intro given given' found found'
          simp only [ite_eq_iff, reduceCtorEq, and_false, false_or, Option.some.injEq]
            at found found'
          obtain ⟨-, rfl⟩ := found
          obtain ⟨-, rfl⟩ := found'
          exact reordered
      next => exact ⟨none, none, rfl, rfl, Iff.rfl, by simp, fun carried => (apart carried).elim⟩

/-! ## Parcels -/

namespace Shop

/-- The route of a parcel, an association over two columns. -/
def parcelRoute : Member :=
  { toOne "Route" "Route" "depot" with columns := ["depot", "number"].map some }

/-- Parcels have an identifier over two columns that has neither a name nor parts, and a route over
both. Each column also has a member of its own. -/
def parcel : Entity :=
  { type := type "Parcel"
    identifier := some
      { type := { name := "Int32", space := "System" }
        columns := [some "depot", some "number"] }
    keyColumns := [some "depot", some "number"]
    members := [number "Depot" "depot", number "Number" "number", parcelRoute] }

theorem isSearchable_parcel : parcel.IsSearchable := ⟨by decide, by decide⟩

/-- A member over both columns of parcels. -/
def label : Member :=
  { number "Label" "depot" with columns := ["depot", "number"].map some }

/-- Parcels with such a member. -/
def labelledParcel : Entity := { parcel with members := [label] }

theorem isSearchable_labelledParcel : labelledParcel.IsSearchable := ⟨by decide, by decide⟩

theorem carriesTogether_labelledParcel :
    labelledParcel.CarriesTogether ["depot", "number"] :=
  have mapped : label.columns = ["depot", "number"].map some := rfl
  .member List.mem_cons_self mapped (List.cons_ne_nil _ _) (by decide +kernel)

end Shop

/-- In other quotes, letter case and order the columns of parcels have the same names. Where a
member lies over both, they have one answer. -/
theorem namesOver_sameColumns_parcel :
    sameColumns ["depot", "number"] ["[NUMBER]", "Depot"] = true ∧
    (∃ names more : List (Option String),
      Shop.parcel.namesOver (["depot", "number"].map some) true = .ok (some names) ∧
      Shop.parcel.namesOver (["[NUMBER]", "Depot"].map some) true = .ok (some more) ∧
      names.Perm more) ∧
    Shop.labelledParcel.CarriesTogether ["depot", "number"] ∧
    ∃ found, Shop.labelledParcel.namesOver (["depot", "number"].map some) true = .ok found ∧
      Shop.labelledParcel.namesOver (["[NUMBER]", "Depot"].map some) true = .ok found := by
  have same : sameColumns ["depot", "number"] ["[NUMBER]", "Depot"] = true := by decide +kernel
  obtain ⟨found, otherwise, searched, searchedAgain, -, reordered, -⟩ :=
    namesOver_sameColumns Shop.isSearchable_parcel same true
  have answer : Shop.parcel.namesOver (["depot", "number"].map some) true =
      .ok (some [some "Depot", some "Number"]) := ok_of_toOption (by decide +kernel)
  have answerAgain : Shop.parcel.namesOver (["[NUMBER]", "Depot"].map some) true =
      .ok (some [some "Number", some "Depot"]) := ok_of_toOption (by decide +kernel)
  have alike := reordered _ _ (Except.ok.inj (searched.symm.trans answer))
    (Except.ok.inj (searchedAgain.symm.trans answerAgain))
  obtain ⟨label, labelAgain, found', foundAgain, -, -, one⟩ :=
    namesOver_sameColumns Shop.isSearchable_labelledParcel same true
  have together := Shop.carriesTogether_labelledParcel
  exact ⟨same, ⟨_, _, answer, answerAgain, alike⟩, together, label, found',
    one together ▸ foundAgain⟩

/-- The identifier of parcels and one of their members lie over exactly the given columns, and yet
the names come in the order in which the columns are given. -/
theorem namesOver_ordered_parcel : Shop.parcel.IsSearchable ∧
    sameColumns ["depot", "number"] ["number", "depot"] = true ∧
    Shop.parcel.isKeyedBy (["depot", "number"].map some) = .ok true ∧
    (∃ member ∈ Shop.parcel.members, member.columns = ["depot", "number"].map some) ∧
    Shop.parcel.namesOver (["depot", "number"].map some) true =
      .ok (some [some "Depot", some "Number"]) ∧
    Shop.parcel.namesOver (["number", "depot"].map some) true =
      .ok (some [some "Number", some "Depot"]) :=
  ⟨Shop.isSearchable_parcel, by decide +kernel, ok_of_toOption (by decide +kernel),
    ⟨Shop.parcelRoute, by simp [Shop.parcel], rfl⟩, ok_of_toOption (by decide +kernel),
    ok_of_toOption (by decide +kernel)⟩

end EntityAtlas

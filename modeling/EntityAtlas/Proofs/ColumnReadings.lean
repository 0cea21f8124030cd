import EntityAtlas.Proofs.Resolution

/-!
# Columns with names

A column name may be missing only where a formula may stand, as the first of the columns of a
member. Where no other is missing (`Entity.HasColumnNames`) every search for columns has an answer
(`namesOver_ok`), and every association has columns (`foreignKeyColumns_ok`). The searches are taken
in turn: one list against another, the members one after the other, the identifier, and then single
columns.
-/

set_option autoImplicit false

namespace EntityAtlas

namespace Entity

/-- The members of an entity and the parts of its composite identifier. -/
def declared (entity : Entity) : List Member := entity.members ++ entity.keyParts?.getD []

/-- No column name is missing, except perhaps the first of a member. -/
structure HasColumnNames (entity : Entity) : Prop where
  key : none ∉ entity.keyColumns
  columns : ∀ member ∈ entity.declared, none ∉ member.columns.tail
  referenced : ∀ member ∈ entity.declared, none ∉ member.referencedColumns.tail

/-- No column name that a search reads is missing: none of the key, and none of the members that are
looked at, except perhaps the first. -/
structure IsSearchable (entity : Entity) : Prop where
  key : none ∉ entity.keyColumns
  columns : ∀ member ∈ entity.searched, none ∉ member.columns.tail

theorem HasColumnNames.isSearchable {entity : Entity} (named : entity.HasColumnNames) :
    entity.IsSearchable where
  key := named.key
  columns member among := named.columns member (List.mem_filter.mp among).1

/-- Whether some members carry the given columns. -/
def carries (entity : Entity) (columns : List String) : Bool :=
  match entity.namesOver (columns.map some) true with
  | .ok (some _) => true
  | _ => false

end Entity

/-! ## Lists of names -/

/-- Names of which none is missing are texts. -/
theorem exists_texts {names : List (Option String)} (present : none ∉ names) :
    ∃ texts : List String, names = texts.map some := by
  induction names with
  | nil => exact ⟨[], rfl⟩
  | cons name rest ih =>
      obtain ⟨texts, rfl⟩ := ih fun among => present (List.mem_cons_of_mem _ among)
      cases name with
      | none => exact (present List.mem_cons_self).elim
      | some text => exact ⟨text :: texts, rfl⟩

/-- Columns that start with a column have names if those after the first have. -/
theorem exists_texts_of_startsWithColumn {columns : List (Option String)}
    (starts : startsWithColumn columns = true) (present : none ∉ columns.tail) :
    ∃ texts : List String, columns = texts.map some := by
  match columns, starts with
  | some text :: rest, _ =>
      obtain ⟨texts, same⟩ := exists_texts present
      exact ⟨text :: texts, congrArg (some text :: ·) same⟩

/-- Changing names leaves none missing that was there, and fills in none. -/
theorem presentNames?_map (change : String → String) (columns : List (Option String)) :
    presentNames? (columns.map (Option.map change)) =
      (presentNames? columns).map (List.map change) := by
  induction columns with
  | nil => rfl
  | cons column rest ih =>
      cases column with
      | none => rfl
      | some name =>
          rw [List.map_cons, Option.map_some, presentNames?, presentNames?, ih, Option.map_map,
            Option.map_map]
          rfl

theorem startsWithColumn_map (change : String → String) (columns : List (Option String)) :
    startsWithColumn (columns.map (Option.map change)) = startsWithColumn columns := by
  match columns with
  | [] => rfl
  | none :: _ => rfl
  | some _ :: _ => rfl

/-- The columns of an association are those that the mapping gives, without quotes. -/
theorem Entity.foreignKeyColumns_eq (entity : Entity) (association : Member) :
    entity.foreignKeyColumns association =
      match presentNames? ((entity.mappedColumns association).map
        (Option.map ColumnName.unquote)) with
      | some columns => .ok columns
      | none => .error .missingColumnName := by
  rw [Entity.foreignKeyColumns, presentNames?_map]
  cases presentNames? (entity.mappedColumns association) <;> rfl

/-- An association whose own columns start with a column is mapped to these. -/
theorem mappedColumns_of_startsWithColumn (entity : Entity) {association : Member}
    (starts : startsWithColumn association.ownColumns = true) :
    entity.mappedColumns association = association.ownColumns := by
  have filled : association.ownColumns.isEmpty = false := by
    cases given : association.ownColumns with
    | nil => simp [given, startsWithColumn] at starts
    | cons column rest => rfl
  simp [Entity.mappedColumns, filled, Member.withoutFormula, starts]

/-- With the name of the association in place of a formula there are columns, and all have names. -/
theorem withoutFormula_eq_map_some {association : Member} {name : String}
    (given : association.name = some name) (columns : List (Option String))
    (present : none ∉ columns.tail) :
    ∃ texts : List String, association.withoutFormula columns = texts.map some ∧ texts ≠ [] := by
  unfold Member.withoutFormula
  split
  next starts =>
    obtain ⟨texts, rfl⟩ := exists_texts_of_startsWithColumn starts present
    exact ⟨texts, rfl, by rintro rfl; cases starts⟩
  next => exact ⟨[name], by rw [given]; rfl, by simp⟩

/-- Lists of names are compared as columns. -/
theorem sameColumns?_map_some (left right : List String) :
    sameColumns? (left.map some) (right.map some) = .ok (ColumnName.sameColumns left right) := by
  simp only [sameColumns?, List.length_map, presentNames?_map_some]
  split
  next => rfl
  next differ => simp [ColumnName.sameColumns, differ]

/-! ## Searches -/

/-- A search through members has an answer. -/
theorem memberOver?_ok (columns : List String) {members : List Member}
    (present : ∀ member ∈ members, none ∉ member.columns.tail) :
    ∃ found, memberOver? (columns.map some) members = .ok found := by
  induction members with
  | nil => exact ⟨none, rfl⟩
  | cons member rest ih =>
      obtain ⟨found, later⟩ := ih fun other among => present other (List.mem_cons_of_mem _ among)
      rw [memberOver?]
      cases starts : startsWithColumn member.columns with
      | false => exact ⟨found, later⟩
      | true =>
          obtain ⟨texts, same⟩ :=
            exists_texts_of_startsWithColumn starts (present member List.mem_cons_self)
          rw [if_pos rfl, same, sameColumns?_map_some]
          cases ColumnName.sameColumns texts columns with
          | true => exact ⟨some member, rfl⟩
          | false => exact ⟨found, later⟩

section Searches

variable {entity : Entity} (searchable : entity.IsSearchable)
include searchable

theorem isKeyedBy_ok (columns : List String) :
    ∃ keyed, entity.isKeyedBy (columns.map some) = .ok keyed := by
  obtain ⟨texts, same⟩ := exists_texts searchable.key
  rw [Entity.isKeyedBy, same]
  split
  next => exact ⟨_, sameColumns?_map_some texts columns⟩
  next => exact ⟨false, rfl⟩

theorem namesOverExactly_ok (columns : List String) :
    ∃ found, entity.namesOverExactly (columns.map some) = .ok found := by
  obtain ⟨found, searched⟩ := memberOver?_ok columns searchable.columns
  obtain ⟨keyed, identified⟩ := isKeyedBy_ok searchable columns
  rw [Entity.namesOverExactly, searched, identified]
  cases found with
  | some member => exact ⟨_, rfl⟩
  | none => cases keyed <;> exact ⟨_, rfl⟩

theorem namesOverEach_ok (columns : List String) (found : List (Option String)) :
    ∃ names, entity.namesOverEach found (columns.map some) = .ok names := by
  induction columns generalizing found with
  | nil => exact ⟨found, rfl⟩
  | cons column rest ih =>
      obtain ⟨names, first⟩ := namesOverExactly_ok searchable [column]
      obtain ⟨all, later⟩ := ih (withNewNames found (names.getD []))
      refine ⟨all, ?_⟩
      rw [List.map_cons, Entity.namesOverEach]
      exact except_bind_ok_iff.mpr ⟨names, first, later⟩

/-- A search for columns has an answer. -/
theorem namesOver_of_searchable (columns : List String) (decompose : Bool) :
    ∃ found, entity.namesOver (columns.map some) decompose = .ok found := by
  obtain ⟨found, together⟩ := namesOverExactly_ok searchable columns
  obtain ⟨names, each⟩ := namesOverEach_ok searchable columns []
  rw [Entity.namesOver, together]
  cases found with
  | some names => exact ⟨_, rfl⟩
  | none =>
      simp only [bind, Except.bind, each]
      split <;> exact ⟨_, rfl⟩

end Searches

section Entities

variable {entity : Entity} (named : entity.HasColumnNames)
include named

theorem namesOver_ok (columns : List String) (decompose : Bool) :
    ∃ found, entity.namesOver (columns.map some) decompose = .ok found :=
  namesOver_of_searchable named.isSearchable columns decompose

/-- What a search answers tells whether the columns are carried. -/
theorem exists_namesOver (columns : List String) :
    ∃ found : Option (List (Option String)),
      entity.namesOver (columns.map some) true = .ok found ∧
        entity.carries columns = found.isSome := by
  obtain ⟨found, searched⟩ := namesOver_ok named columns true
  refine ⟨found, searched, ?_⟩
  rw [Entity.carries, searched]
  cases found <;> rfl

/-- An association with a name has columns. -/
theorem foreignKeyColumns_ok {association : Member} (among : association ∈ entity.declared)
    {name : String} (given : association.name = some name) :
    ∃ columns, entity.foreignKeyColumns association = .ok columns ∧ columns ≠ [] := by
  have own : none ∉ association.ownColumns.tail := by
    unfold Member.ownColumns
    split
    · exact named.referenced association among
    · exact named.columns association among
  have key : none ∉ entity.keyColumns.tail :=
    fun inside => named.key (List.mem_of_mem_tail inside)
  obtain ⟨texts, same, filled⟩ := withoutFormula_eq_map_some given
    (if association.ownColumns.isEmpty then entity.keyColumns else association.ownColumns)
    (by split <;> assumption)
  refine ⟨texts.map ColumnName.unquote, ?_, by simpa using filled⟩
  rw [Entity.foreignKeyColumns, Entity.mappedColumns, same, presentNames?_map_some]

end Entities

end EntityAtlas

import EntityAtlas.Proofs.ForeignKeyNames
import EntityAtlas.Proofs.SurrogateInheritance

/-!
# Associations among the answers of a search

A search for columns passes over associations as long as it looks at single members: among the
members and the parts of a composite identifier only those that are no associations are compared
(`name_ne_of_searched`). It does not look at the parts again when the identifier as a whole lies
over the columns and has no name of its own. Then it answers with all parts, associations included.
So a search answers with an association exactly where it takes the key apart in this way
(`namesOver_association_iff`).
-/

set_option autoImplicit false

namespace EntityAtlas

namespace Entity

/-- No single member lies over exactly the given columns, and the identifier, which has no name,
does. -/
structure AnswersWithParts (entity : Entity) (columns : List (Option String)) : Prop where
  unmapped : memberOver? columns entity.searched = .ok none
  keyed : entity.isKeyedBy columns = .ok true
  unnamed : entity.identifierName? = none

/-- A search for columns takes the key apart: for all columns together, or for one of several columns
that are not carried together. -/
def TakesKeyApart (entity : Entity) (columns : List (Option String)) (decompose : Bool) : Prop :=
  entity.AnswersWithParts columns ∨
    decompose = true ∧ 1 < columns.length ∧ entity.namesOverExactly columns = .ok none ∧
      ∃ column ∈ columns, entity.AnswersWithParts [column]

end Entity

section Names

variable {entity : Entity} {association member : Member}

/-- What an entity declares with its parts has distinct names if all its names are. -/
theorem nodup_names_declared (distinct : entity.declaredNames.Nodup) :
    (entity.declared.map (·.name)).Nodup := by
  refine List.Sublist.nodup ?_ distinct
  rw [Entity.declared, List.map_append]
  exact (List.Sublist.refl _).append (List.sublist_append_right _ _)

/-- A member that a search looks at has another name than every association. -/
theorem name_ne_of_searched (distinct : entity.declaredNames.Nodup)
    (among : association ∈ entity.declared) (leads : association.isAssociation = true)
    (searched : member ∈ entity.searched) : association.name ≠ member.name := by
  obtain ⟨declared, plain⟩ := List.mem_filter.mp searched
  intro same
  obtain rfl : association = member :=
    List.inj_on_of_nodup_map (nodup_names_declared distinct) among declared same
  simp [leads] at plain

/-- The name of the identifier is not that of a member or of a part. -/
theorem name_ne_of_identifierName {name : String} (distinct : entity.declaredNames.Nodup)
    (among : member ∈ entity.declared) (named : entity.identifierName? = some name) :
    member.name ≠ some name := by
  simp only [Entity.declaredNames, Entity.identifierNames, named, Option.map_some,
    Option.toList_some, List.nodup_append, List.mem_append] at distinct
  obtain ⟨-, ⟨-, -, ofParts⟩, ofMembers⟩ := distinct
  rcases List.mem_append.mp among with own | part
  · exact ofMembers _ (List.mem_map_of_mem own) _ (.inl List.mem_cons_self)
  · exact (ofParts _ List.mem_cons_self _ (List.mem_map_of_mem part)).symm

end Names

section Answers

variable {entity : Entity} {columns names : List (Option String)} {association : Member}

/-- An exact search answers with one member, with the name of the identifier, or with the parts of
the key. -/
theorem namesOverExactly_cases (found : entity.namesOverExactly columns = .ok (some names)) :
    (∃ member ∈ entity.searched,
        memberOver? columns entity.searched = .ok (some member) ∧ names = [member.name]) ∨
      (∃ name, entity.identifierName? = some name ∧ names = [some name]) ∨
      (entity.AnswersWithParts columns ∧ names = (entity.keyParts?.getD []).map (·.name)) := by
  unfold Entity.namesOverExactly at found
  obtain ⟨member?, searched, found⟩ := except_bind_ok_iff.mp found
  cases member? with
  | some member =>
      cases found
      exact .inl ⟨member, mem_of_memberOver? searched, searched, rfl⟩
  | none =>
      obtain ⟨keyed, identified, found⟩ := except_bind_ok_iff.mp found
      cases keyed with
      | false => cases found
      | true =>
          have answers : entity.answeringNames? = some names := except_pure_ok_iff.mp found
          unfold Entity.answeringNames? at answers
          cases named : entity.identifierName? with
          | some name =>
              rw [named] at answers
              exact .inr (.inl ⟨name, rfl, (Option.some.inj answers).symm⟩)
          | none =>
              rw [named] at answers
              obtain ⟨parts, parted, rfl⟩ := Option.map_eq_some_iff.mp answers
              exact .inr (.inr ⟨⟨searched, identified, named⟩, by rw [parted, Option.getD_some]⟩)

/-- Where the key is taken apart, an exact search answers with its parts. -/
theorem namesOverExactly_of_answersWithParts (apart : entity.AnswersWithParts columns) :
    entity.namesOverExactly columns = .ok (entity.keyParts?.map fun parts => parts.map (·.name)) := by
  rw [Entity.namesOverExactly, apart.unmapped, apart.keyed]
  show Except.ok entity.answeringNames? = _
  rw [Entity.answeringNames?, apart.unnamed]

/-- A search that finds nothing has not taken apart a key that has parts. -/
theorem not_answersWithParts_of_none (nothing : entity.namesOverExactly columns = .ok none)
    (part : association ∈ entity.keyParts?.getD []) : ¬entity.AnswersWithParts columns := by
  intro apart
  rw [namesOverExactly_of_answersWithParts apart] at nothing
  rw [Option.map_eq_none_iff.mp (Except.ok.inj nothing)] at part
  exact List.not_mem_nil part

/-- **Exact searches.** The answer holds the name of an association exactly if the association is a
part of the key and the key is taken apart. -/
theorem namesOverExactly_association_iff (distinct : entity.declaredNames.Nodup)
    (found : entity.namesOverExactly columns = .ok (some names))
    (among : association ∈ entity.declared) (leads : association.isAssociation = true) :
    association.name ∈ names ↔
      association ∈ entity.keyParts?.getD [] ∧ entity.AnswersWithParts columns := by
  constructor
  · intro answered
    rcases namesOverExactly_cases found with
      ⟨member, searched, -, rfl⟩ | ⟨name, named, rfl⟩ | ⟨apart, rfl⟩
    · exact (name_ne_of_searched distinct among leads searched
        (List.mem_singleton.mp answered)).elim
    · exact (name_ne_of_identifierName distinct among named (List.mem_singleton.mp answered)).elim
    · obtain ⟨part, inside, same⟩ := List.mem_map.mp answered
      have declared : part ∈ entity.declared := List.mem_append_right _ inside
      obtain rfl : part = association :=
        List.inj_on_of_nodup_map (nodup_names_declared distinct) declared among same
      exact ⟨inside, apart⟩
  · rintro ⟨part, apart⟩
    rw [namesOverExactly_of_answersWithParts apart] at found
    obtain ⟨parts, parted, rfl⟩ := Option.map_eq_some_iff.mp (Except.ok.inj found)
    rw [parted, Option.getD_some] at part
    exact List.mem_map_of_mem part

/-- **Searches column by column.** Besides what was found before, the answer holds the name of an
association exactly if it is a part of the key and the key is taken apart for one of the columns. -/
theorem namesOverEach_association_iff {found : List (Option String)}
    (distinct : entity.declaredNames.Nodup)
    (each : entity.namesOverEach found columns = .ok names)
    (among : association ∈ entity.declared) (leads : association.isAssociation = true) :
    association.name ∈ names ↔ association.name ∈ found ∨
      association ∈ entity.keyParts?.getD [] ∧
        ∃ column ∈ columns, entity.AnswersWithParts [column] := by
  rw [Entity.mem_namesOverEach_iff each]
  refine or_congr_right ⟨?_, ?_⟩
  · rintro ⟨column, inside, answer, exact, answered⟩
    obtain ⟨part, apart⟩ :=
      (namesOverExactly_association_iff distinct exact among leads).mp answered
    exact ⟨part, column, inside, apart⟩
  · rintro ⟨part, column, inside, apart⟩
    cases parted : entity.keyParts? with
    | none => simp [parted] at part
    | some parts =>
        rw [parted, Option.getD_some] at part
        have exact := namesOverExactly_of_answersWithParts apart
        rw [parted, Option.map_some] at exact
        exact ⟨column, inside, _, exact, List.mem_map_of_mem part⟩

/-- **Associations among the answers of a search.** With distinct names, a search for columns
answers with the name of an association exactly if the association is a part of the composite
identifier and the search takes the key apart. -/
theorem namesOver_association_iff {decompose : Bool} (distinct : entity.declaredNames.Nodup)
    (found : entity.namesOver columns decompose = .ok (some names))
    (among : association ∈ entity.declared) (leads : association.isAssociation = true) :
    association.name ∈ names ↔
      association ∈ entity.keyParts?.getD [] ∧ entity.TakesKeyApart columns decompose := by
  unfold Entity.namesOver at found
  obtain ⟨together, exact, found⟩ := except_bind_ok_iff.mp found
  cases together with
  | some given =>
      cases found
      rw [namesOverExactly_association_iff distinct exact among leads]
      refine and_congr_right fun _ => ⟨.inl, ?_⟩
      rintro (apart | ⟨-, -, nothing, -⟩)
      · exact apart
      · rw [exact] at nothing
        cases nothing
  | none =>
      simp only at found
      split at found
      next several =>
        obtain ⟨each, searched, found⟩ := except_bind_ok_iff.mp found
        split at found
        next => cases found
        next =>
          cases found
          obtain ⟨allowed, several⟩ : decompose = true ∧ 1 < columns.length := by
            simpa using several
          rw [namesOverEach_association_iff distinct searched among leads]
          simp only [List.not_mem_nil, false_or]
          refine and_congr_right fun part => ⟨fun single => .inr ⟨allowed, several, exact, single⟩, ?_⟩
          rintro (apart | ⟨-, -, -, single⟩)
          · exact (not_answersWithParts_of_none exact part apart).elim
          · exact single
      next => cases found

end Answers

/-! ## Lines of orders -/

namespace Shop

/-- Order lines that also have the key of their order as a member. -/
def numberedLine : Entity := { line with members := [number "OrderId" "order_id"] }

theorem distinct_numberedLine : numberedLine.declaredNames.Nodup := by decide

/-- The columns of the key of order lines. -/
def lineColumns : List (Option String) := [some "order_id", some "line_no"]

theorem namesOver_numberedLine :
    numberedLine.namesOver lineColumns true = .ok (some [some "Order", some "LineNo"]) :=
  ok_of_toOption (by decide +kernel)

end Shop

/-- The order is a part of the key of order lines, and a search for the key columns takes the key
apart. -/
theorem namesOver_association_iff_line : ∃ order ∈ Shop.numberedLine.declared,
    order.isAssociation = true ∧
    Shop.numberedLine.namesOver Shop.lineColumns true = .ok (some [some "Order", some "LineNo"]) ∧
    (order.name ∈ [some "Order", some "LineNo"] ↔
      order ∈ Shop.numberedLine.keyParts?.getD [] ∧
        Shop.numberedLine.TakesKeyApart Shop.lineColumns true) := by
  refine ⟨{ Shop.toOne "Order" "Order" "order_id" with nullable := false }, ?_, rfl,
    Shop.namesOver_numberedLine, ?_⟩
  · exact List.mem_append_right _ List.mem_cons_self
  · exact namesOver_association_iff Shop.distinct_numberedLine Shop.namesOver_numberedLine
      (List.mem_append_right _ List.mem_cons_self) rfl

/-- Among the members over the key columns of order lines a search finds the association with the
order, although a member without it carries each of the columns. -/
theorem association_found_line : Shop.numberedLine.declaredNames.Nodup ∧
    Shop.numberedLine.namesOver Shop.lineColumns true = .ok (some [some "Order", some "LineNo"]) ∧
    (∃ order ∈ Shop.numberedLine.declared,
      order.isAssociation = true ∧ order.name ∈ [some "Order", some "LineNo"]) ∧
    Shop.numberedLine.namesOverEach [] Shop.lineColumns = .ok [some "OrderId", some "LineNo"] := by
  refine ⟨Shop.distinct_numberedLine, Shop.namesOver_numberedLine, ?_,
    ok_of_toOption (by decide +kernel)⟩
  exact ⟨{ Shop.toOne "Order" "Order" "order_id" with nullable := false },
    List.mem_append_right _ List.mem_cons_self, rfl, List.mem_cons_self⟩

end EntityAtlas

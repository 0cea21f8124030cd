import Mathlib.Data.List.Forall2

/-!
# Lists item by item

Lists that are related item by item have the same length, and what is in one has a counterpart in
the other (`exists_mem_of_forall₂`, `exists_related_of_forall₂`). Such relations compose, and a list
that comes in two parts is related to a list in two parts (`exists_append_of_forall₂`).
-/

set_option autoImplicit false

namespace EntityAtlas

section Items

variable {α : Type} {related : α → α → Prop} {first second third : List α}

theorem forall₂_trans (trans : ∀ {one two three}, related one two → related two three →
      related one three)
    (earlier : List.Forall₂ related first second) (later : List.Forall₂ related second third) :
    List.Forall₂ related first third := by
  induction earlier generalizing third with
  | nil => exact later
  | cons here _ ih =>
      cases later with
      | cons there rest => exact .cons (trans here there) (ih rest)

/-- What is related to two lists in turn comes in two parts. -/
theorem exists_append_of_forall₂ (whole : List.Forall₂ related (first ++ second) third) :
    ∃ front back, third = front ++ back ∧ List.Forall₂ related first front ∧
      List.Forall₂ related second back := by
  refine ⟨third.take first.length, third.drop first.length, (List.take_append_drop _ _).symm,
    ?_, ?_⟩
  · simpa using List.forall₂_take first.length whole
  · simpa using List.forall₂_drop first.length whole

theorem exists_mem_of_forall₂ {β : Type} {related : α → β → Prop} {first : List α}
    {second : List β} (items : List.Forall₂ related first second) {item : β}
    (among : item ∈ second) : ∃ origin ∈ first, related origin item := by
  induction items with
  | nil => cases among
  | cons here _ ih =>
      rcases List.mem_cons.mp among with rfl | among
      · exact ⟨_, List.mem_cons_self, here⟩
      · obtain ⟨origin, inside, later⟩ := ih among
        exact ⟨origin, List.mem_cons_of_mem _ inside, later⟩

theorem exists_related_of_forall₂ {β : Type} {related : α → β → Prop} {first : List α}
    {second : List β} (items : List.Forall₂ related first second) {item : α}
    (among : item ∈ first) : ∃ image ∈ second, related item image := by
  induction items with
  | nil => cases among
  | cons here _ ih =>
      rcases List.mem_cons.mp among with rfl | among
      · exact ⟨_, List.mem_cons_self, here⟩
      · obtain ⟨image, inside, later⟩ := ih among
        exact ⟨image, List.mem_cons_of_mem _ inside, later⟩

end Items

end EntityAtlas

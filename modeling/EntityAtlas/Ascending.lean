/-!
# Ascending order

Sorting by insertion. Items that the order does not tell apart keep the order they came in. Sorting
only changes the order of a list (`ascending_perm`), and under a total and transitive order it
leaves every item below all later ones (`ascending_pairwise`).
-/

set_option autoImplicit false

namespace EntityAtlas

variable {α : Type}

/-- Puts an item in front of the first one that it does not exceed. -/
def insertAscending (below : α → α → Bool) (item : α) : List α → List α
  | [] => [item]
  | head :: tail =>
    if below item head then item :: head :: tail else head :: insertAscending below item tail

/-- The items in ascending order. -/
def ascending (below : α → α → Bool) (items : List α) : List α :=
  items.foldr (insertAscending below) []

theorem insertAscending_perm (below : α → α → Bool) (item : α) (items : List α) :
    (insertAscending below item items).Perm (item :: items) := by
  induction items with
  | nil => exact .refl _
  | cons head tail ih =>
    unfold insertAscending
    split
    · exact .refl _
    · exact (ih.cons head).trans (.swap item head tail)

/-- Sorting only changes the order. -/
theorem ascending_perm (below : α → α → Bool) (items : List α) :
    (ascending below items).Perm items := by
  induction items with
  | nil => exact .refl _
  | cons head tail ih => exact (insertAscending_perm below head _).trans (ih.cons head)

/-- Insertion keeps a list ascending. -/
theorem insertAscending_pairwise {below : α → α → Bool}
    (total : ∀ left right, below left right || below right left)
    (trans : ∀ first second third, below first second → below second third → below first third)
    (item : α) {items : List α} (sorted : items.Pairwise fun left right => below left right) :
    (insertAscending below item items).Pairwise fun left right => below left right := by
  induction items with
  | nil => simp [insertAscending]
  | cons head tail ih =>
    obtain ⟨first, later⟩ := List.pairwise_cons.mp sorted
    unfold insertAscending
    split
    next under =>
      refine List.pairwise_cons.mpr ⟨fun other member => ?_, sorted⟩
      rcases List.mem_cons.mp member with rfl | member
      · exact under
      · exact trans _ _ _ under (first other member)
    next above =>
      refine List.pairwise_cons.mpr ⟨fun other member => ?_, ih later⟩
      rcases List.mem_cons.mp ((insertAscending_perm below item tail).mem_iff.mp member) with
        rfl | member
      · simpa [above] using total other head
      · exact first other member

/-- Under a total and transitive order sorting leaves every item below all later ones. -/
theorem ascending_pairwise {below : α → α → Bool}
    (total : ∀ left right, below left right || below right left)
    (trans : ∀ first second third, below first second → below second third → below first third)
    (items : List α) : (ascending below items).Pairwise fun left right => below left right := by
  induction items with
  | nil => exact .nil
  | cons head tail ih => exact insertAscending_pairwise total trans head ih

end EntityAtlas

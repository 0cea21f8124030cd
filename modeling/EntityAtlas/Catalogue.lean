import EntityAtlas.Mapping

/-!
# Catalogues of entities

All entities that a source describes, in its order. Looking up a key finds the last entity with
it. Two walks follow the superclasses of an entity. Either may meet a cycle or a superclass that
is not mapped; it ends there, because no key is visited twice and only finitely many keys are
mapped (`length_unseen_lt`).
-/

set_option autoImplicit false

namespace EntityAtlas

/-- The entities of a source in order. -/
structure Catalogue where
  entities : List Entity := []

namespace Catalogue

/-- The last entity with a key. -/
def find? (catalogue : Catalogue) (key : String) : Option Entity :=
  catalogue.entities.reverse.find? (·.key == key)

theorem mem_of_find? {catalogue : Catalogue} {key : String} {entity : Entity}
    (found : catalogue.find? key = some entity) : entity ∈ catalogue.entities := by
  simpa using List.mem_of_find?_eq_some found

theorem key_of_find? {catalogue : Catalogue} {key : String} {entity : Entity}
    (found : catalogue.find? key = some entity) : entity.key = key := by
  simpa using List.find?_some found

/-- The entities whose keys a walk has not visited yet. -/
def unseen (catalogue : Catalogue) (seen : List String) : List Entity :=
  catalogue.entities.filter fun entity => !seen.contains entity.key

/-- A walk that visits a new mapped key leaves fewer entities to visit. -/
theorem length_unseen_lt {catalogue : Catalogue} {key : String} {entity : Entity}
    {seen : List String} (found : catalogue.find? key = some entity)
    (fresh : ¬ seen.contains key = true) :
    (catalogue.unseen (key :: seen)).length < (catalogue.unseen seen).length := by
  have split : catalogue.unseen (key :: seen) =
      (catalogue.unseen seen).filter fun entity => decide (entity.key ≠ key) := by
    simp only [unseen, List.filter_filter]
    congr 1
    funext other
    simp
  have member : entity ∈ catalogue.unseen seen := by
    simp only [unseen, List.mem_filter]
    refine ⟨mem_of_find? found, ?_⟩
    rw [key_of_find? found]
    simpa using fresh
  rw [split]
  refine Nat.lt_of_le_of_ne (List.length_filter_le _ _) fun same => ?_
  have all := List.length_filter_eq_length_iff.mp same entity member
  simp [key_of_find? found] at all

/-! ## Superclasses -/

/-- The mapped superclasses of an entity, nearest first, as far as they are admitted and not
among the keys already seen. -/
def lineageFrom (catalogue : Catalogue) (admits : String → Bool) (seen : List String)
    (entity : Entity) : List Entity :=
  match entity.superclass with
  | none => []
  | some base =>
    match _found : catalogue.find? base.key with
    | none => []
    | some parent =>
      if _fresh : seen.contains base.key then []
      else if admits base.key then
        parent :: catalogue.lineageFrom admits (base.key :: seen) parent
      else []
termination_by (catalogue.unseen seen).length
decreasing_by exact length_unseen_lt _found _fresh

/-- The mapped superclasses of an entity, nearest first. The list ends before a superclass that
is not mapped, not admitted, or met before. -/
def lineage (catalogue : Catalogue) (admits : String → Bool) (entity : Entity) : List Entity :=
  catalogue.lineageFrom admits [entity.key] entity

/-- The keys of the superclasses of an entity that are not among the keys already seen. -/
def superclassKeysFrom (catalogue : Catalogue) (seen : List String) (entity : Entity) :
    List String :=
  match entity.superclass with
  | none => []
  | some base =>
    if _fresh : seen.contains base.key then []
    else
      base.key ::
        match _found : catalogue.find? base.key with
        | none => []
        | some parent => catalogue.superclassKeysFrom (base.key :: seen) parent
termination_by (catalogue.unseen seen).length
decreasing_by exact length_unseen_lt _found _fresh

/-- The keys of the superclasses of the type with a key, nearest first. The last of them need not
be mapped, and in a cycle the type's own key is among them. -/
def superclassKeys (catalogue : Catalogue) (key : String) : List String :=
  match catalogue.find? key with
  | none => []
  | some entity => catalogue.superclassKeysFrom [] entity

end Catalogue

end EntityAtlas

import EntityAtlas.Proofs.Hierarchy
import EntityAtlas.Scope

/-!
# Where walks lead

The walks along superclasses remember what they have seen and end where they would come back. They
miss nothing by that, in cycles either: the keys of the superclasses are all those to which
superclasses lead (`mem_superclassKeys_iff`), and a walk over entities visits all that admitted
parents lead to (`mem_lineage_iff`). In both cases what has been visited is closed under one step
more. On a walk over entities, each entity has all later ones among its own ancestors
(`pairwise_lineage`).
-/

set_option autoImplicit false

namespace EntityAtlas

namespace Catalogue

open Relation (TransGen ReflTransGen)

variable {catalogue : Catalogue}

/-! ## Keys of superclasses -/

/-- The entity with a key has a superclass with another key, which need not be mapped. -/
def HasSuperclass (catalogue : Catalogue) (key base : String) : Prop :=
  ∃ entity, catalogue.find? key = some entity ∧ entity.superclass.map (·.key) = some base

theorem climbs_of_mem_superclassKeysFrom {seen : List String} {entity : Entity} {key : String}
    (found : catalogue.find? entity.key = some entity)
    (among : key ∈ catalogue.superclassKeysFrom seen entity) :
    TransGen catalogue.HasSuperclass entity.key key := by
  induction seen, entity using superclassKeysFrom.induct catalogue with
  | case1 seen entity based => simp [superclassKeysFrom_eq, based] at among
  | case2 seen entity base based met =>
      rw [superclassKeysFrom_eq, based] at among
      simp only [met, ↓reduceIte, List.not_mem_nil] at among
  | case3 seen entity base based fresh ih =>
      have step : catalogue.HasSuperclass entity.key base.key := ⟨entity, found, by rw [based]; rfl⟩
      rw [superclassKeysFrom_eq, based] at among
      simp only [fresh, Bool.false_eq_true, ↓reduceIte, List.mem_cons] at among
      rcases among with rfl | among
      · exact .single step
      · cases leads : catalogue.find? base.key with
        | none => simp [leads] at among
        | some parent =>
            rw [leads] at among
            have same := key_of_find? leads
            exact .head (same ▸ step) (ih parent leads (same.symm ▸ leads) among)

/-- One step more leads to what has been seen or is listed. -/
theorem superclassKeysFrom_closed {seen : List String} {entity holder : Entity} {base : String}
    (visited : holder = entity ∨
      ∃ key ∈ catalogue.superclassKeysFrom seen entity, catalogue.find? key = some holder)
    (based : holder.superclass.map (·.key) = some base) :
    base ∈ seen ∨ base ∈ catalogue.superclassKeysFrom seen entity := by
  induction seen, entity using superclassKeysFrom.induct catalogue with
  | case1 seen entity baseless =>
      simp only [superclassKeysFrom_eq, baseless, List.not_mem_nil, false_and, exists_false,
        or_false] at visited
      simp [visited, baseless] at based
  | case2 seen entity met given again =>
      simp only [superclassKeysFrom_eq, given, again, ↓reduceIte, List.not_mem_nil, false_and,
        exists_false, or_false] at visited
      rw [visited, given] at based
      exact .inl (Option.some.inj based ▸ List.contains_iff_mem.mp again)
  | case3 seen entity next given fresh ih =>
      rw [superclassKeysFrom_eq, given] at visited ⊢
      simp only [fresh, Bool.false_eq_true, ↓reduceIte, List.mem_cons] at visited ⊢
      rcases visited with rfl | ⟨key, listed, found⟩
      · rw [given] at based
        exact .inr (.inl (Option.some.inj based).symm)
      · cases leads : catalogue.find? next.key with
        | none =>
            rw [leads] at listed
            simp only [List.not_mem_nil, or_false] at listed
            rw [listed, leads] at found
            cases found
        | some parent =>
            rw [leads] at listed
            have further := ih parent leads <| by
              rcases listed with rfl | listed
              · exact .inl (Option.some.inj (found.symm.trans leads))
              · exact .inr ⟨key, listed, found⟩
            rcases further with met | later
            · rcases List.mem_cons.mp met with same | met
              · exact .inr (.inl same)
              · exact .inl met
            · exact .inr (.inr later)

/-- **Keys of superclasses.** They are the keys to which superclasses lead. -/
theorem mem_superclassKeys_iff {key base : String} :
    base ∈ catalogue.superclassKeys key ↔ TransGen catalogue.HasSuperclass key base := by
  unfold superclassKeys
  constructor
  · intro among
    cases found : catalogue.find? key with
    | none => simp [found] at among
    | some entity =>
        rw [found] at among
        have same := key_of_find? found
        exact same ▸ climbs_of_mem_superclassKeysFrom (same.symm ▸ found) among
  · intro climbs
    induction climbs with
    | single step =>
        obtain ⟨entity, found, based⟩ := step
        rw [found]
        exact (superclassKeysFrom_closed (.inl rfl) based).resolve_left List.not_mem_nil
    | tail _ step ih =>
        obtain ⟨holder, foundHolder, based⟩ := step
        cases found : catalogue.find? key with
        | none => simp [found] at ih
        | some entity =>
            rw [found] at ih
            exact (superclassKeysFrom_closed (.inr ⟨_, ih, foundHolder⟩) based).resolve_left
              List.not_mem_nil

/-! ## Walks over entities -/

/-- An admitted parent of an entity. -/
def Leads (catalogue : Catalogue) (admits : String → Bool) (entity parent : Entity) : Prop :=
  catalogue.parent? entity = some parent ∧ admits parent.key = true

/-- A parent is found under its own key. -/
theorem find?_of_parent? {entity parent : Entity}
    (leads : catalogue.parent? entity = some parent) :
    catalogue.find? parent.key = some parent := by
  obtain ⟨base, -, found⟩ := Option.bind_eq_some_iff.mp leads
  exact key_of_find? found ▸ found

theorem hasSuperclass_of_parent? {entity parent : Entity}
    (found : catalogue.find? entity.key = some entity)
    (leads : catalogue.parent? entity = some parent) :
    catalogue.HasSuperclass entity.key parent.key := by
  obtain ⟨base, based, known⟩ := Option.bind_eq_some_iff.mp leads
  exact ⟨entity, found, by rw [based, key_of_find? known]; rfl⟩

variable {admits : String → Bool}

theorem leads_of_mem_lineageFrom {seen : List String} {entity holder : Entity}
    (among : holder ∈ catalogue.lineageFrom admits seen entity) :
    TransGen (catalogue.Leads admits) entity holder := by
  induction seen, entity using catalogue.walk_induction admits with
  | step seen entity ih =>
      rw [lineageFrom_eq] at among
      cases next : catalogue.next? admits seen entity with
      | none => simp [next] at among
      | some parent =>
          rw [next] at among
          obtain ⟨leads, -, admitted⟩ := next?_eq_some_iff.mp next
          rcases List.mem_cons.mp among with rfl | among
          · exact .single ⟨leads, admitted⟩
          · exact .head ⟨leads, admitted⟩ (ih parent next among)

/-- What a walk visits is a superclass. -/
theorem climbs_of_mem_lineage {entity ancestor : Entity}
    (found : catalogue.find? entity.key = some entity)
    (among : ancestor ∈ catalogue.lineage admits entity) :
    TransGen catalogue.HasSuperclass entity.key ancestor.key := by
  have leads := leads_of_mem_lineageFrom among
  clear among
  induction leads with
  | single step => exact .single (hasSuperclass_of_parent? found step.1)
  | @tail middle parent climbs step ih =>
      have known : catalogue.find? middle.key = some middle := by
        cases climbs with
        | single step => exact find?_of_parent? step.1
        | tail _ step => exact find?_of_parent? step.1
      exact ih.tail (hasSuperclass_of_parent? known step.1)

/-- One step more leads to what has been seen or is on the walk. -/
theorem lineageFrom_closed {seen : List String} {entity holder parent : Entity}
    (visited : holder ∈ entity :: catalogue.lineageFrom admits seen entity)
    (leads : catalogue.Leads admits holder parent) :
    parent.key ∈ seen ∨ parent ∈ catalogue.lineageFrom admits seen entity := by
  induction seen, entity using catalogue.walk_induction admits with
  | step seen entity ih =>
      rw [lineageFrom_eq] at visited ⊢
      cases next : catalogue.next? admits seen entity with
      | none =>
          rw [next] at visited
          obtain rfl := List.mem_singleton.mp visited
          refine .inl (by_contra fun fresh => ?_)
          rw [next?_eq_some_iff.mpr ⟨leads.1, fresh, leads.2⟩] at next
          cases next
      | some first =>
          rw [next] at visited
          obtain ⟨up, -, -⟩ := next?_eq_some_iff.mp next
          rcases List.mem_cons.mp visited with rfl | visited
          · rw [leads.1] at up
            exact .inr (Option.some.inj up ▸ List.mem_cons_self)
          · rcases ih first next visited with met | later
            · rcases List.mem_cons.mp met with same | met
              · have found := find?_of_parent? leads.1
                rw [same, find?_of_parent? up] at found
                exact .inr (Option.some.inj found ▸ List.mem_cons_self)
              · exact .inl met
            · exact .inr (List.mem_cons_of_mem _ later)

/-- **Walks over entities.** A walk visits what admitted parents lead to. -/
theorem mem_lineage_iff {entity holder : Entity}
    (found : catalogue.find? entity.key = some entity) :
    holder ∈ entity :: catalogue.lineage admits entity ↔
      ReflTransGen (catalogue.Leads admits) entity holder := by
  constructor
  · intro visited
    rcases List.mem_cons.mp visited with rfl | visited
    · exact .refl
    · exact (leads_of_mem_lineageFrom visited).to_reflTransGen
  · intro climbs
    induction climbs with
    | refl => exact List.mem_cons_self
    | @tail middle parent _ step ih =>
        rcases lineageFrom_closed ih step with met | later
        · have known := find?_of_parent? step.1
          rw [List.mem_singleton.mp met, found] at known
          exact Option.some.inj known ▸ List.mem_cons_self
        · exact List.mem_cons_of_mem _ later

/-- A walk that has seen less goes at least as far. -/
theorem lineageFrom_prefix_of_subset {seen others : List String} {entity : Entity}
    (fewer : others ⊆ seen) :
    catalogue.lineageFrom admits seen entity <+: catalogue.lineageFrom admits others entity := by
  induction seen, entity using catalogue.walk_induction admits generalizing others with
  | step seen entity ih =>
      rw [lineageFrom_eq]
      cases next : catalogue.next? admits seen entity with
      | none => exact List.nil_prefix
      | some parent =>
          obtain ⟨leads, fresh, admitted⟩ := next?_eq_some_iff.mp next
          have same : catalogue.next? admits others entity = some parent :=
            next?_eq_some_iff.mpr ⟨leads, fun met => fresh (fewer met), admitted⟩
          rw [lineageFrom_eq catalogue admits others, same]
          exact List.cons_prefix_cons.mpr
            ⟨rfl, ih parent next (List.cons_subset_cons parent.key fewer)⟩

/-- **Later on a walk.** Each entity on a walk has all later ones among its own ancestors. -/
theorem pairwise_lineage {seen : List String} {entity : Entity} (here : entity.key ∈ seen) :
    (entity :: catalogue.lineageFrom admits seen entity).Pairwise fun lower upper =>
      upper ∈ catalogue.lineage admits lower := by
  induction seen, entity using catalogue.walk_induction admits with
  | step seen entity ih =>
      refine List.pairwise_cons.mpr ⟨fun upper among => ?_, ?_⟩
      · have seenLess : [entity.key] ⊆ seen := by simpa using here
        exact (lineageFrom_prefix_of_subset seenLess).subset among
      · rw [lineageFrom_eq]
        cases next : catalogue.next? admits seen entity with
        | none => exact .nil
        | some parent => exact ih parent next List.mem_cons_self

end Catalogue

/-- A parent that takes part is an ancestor, unless an entity is its own parent. -/
theorem mem_ancestors_of_parent? {scope : Scope} {entity ancestor : Entity}
    (leads : scope.catalogue.parent? entity = some ancestor)
    (included : scope.includes ancestor.key = true) (other : ancestor.key ≠ entity.key) :
    ancestor ∈ scope.ancestors true entity := by
  have next : scope.catalogue.next? (fun key => !true || scope.includes key) [entity.key] entity =
      some ancestor :=
    Catalogue.next?_eq_some_iff.mpr
      ⟨leads, fun met => other (List.mem_singleton.mp met), included⟩
  rw [Scope.ancestors, Catalogue.lineage, Catalogue.lineageFrom_eq, next]
  exact List.mem_cons_self

end EntityAtlas

import EntityAtlas.Catalogue
import EntityAtlas.Keyed
import EntityAtlas.Sample
import Mathlib.Data.List.Nodup
import Mathlib.Logic.Relation

/-!
# Hierarchies of entities

A walk along superclasses reads a catalogue through its lookups only. Catalogues with the same
lookups have the same walks, and so have two filters that admit the same superclasses on the way
(`lineageFrom_congr`). Where no type is among its own superclasses, a walk needs no memory of
what it has seen: it goes to the parent and from there on (`lineage_of_acyclic`).
-/

set_option autoImplicit false

namespace EntityAtlas

namespace Catalogue

/-- No two entities have one key. -/
def Distinct (catalogue : Catalogue) : Prop := (catalogue.entities.map (·.key)).Nodup

/-- With distinct keys a lookup finds the entity of the key. -/
theorem Distinct.find?_iff {catalogue : Catalogue} (distinct : catalogue.Distinct) {key : String}
    {entity : Entity} :
    catalogue.find? key = some entity ↔ entity ∈ catalogue.entities ∧ entity.key = key := by
  have reversed : (catalogue.entities.reverse.map (·.key)).Nodup := by
    rw [List.map_reverse]
    exact List.nodup_reverse.mpr distinct
  rw [find?, Keyed.find?_eq_some_iff reversed, List.mem_reverse]

theorem Distinct.find?_self {catalogue : Catalogue} (distinct : catalogue.Distinct)
    {entity : Entity} (among : entity ∈ catalogue.entities) :
    catalogue.find? entity.key = some entity := distinct.find?_iff.mpr ⟨among, rfl⟩

/-- The mapped superclass of an entity. -/
def parent? (catalogue : Catalogue) (entity : Entity) : Option Entity :=
  entity.superclass.bind fun base => catalogue.find? base.key

theorem mem_of_parent? {catalogue : Catalogue} {entity parent : Entity}
    (found : catalogue.parent? entity = some parent) : parent ∈ catalogue.entities := by
  obtain ⟨base, -, found⟩ := Option.bind_eq_some_iff.mp found
  exact mem_of_find? found

/-- The next entity on a walk: the mapped superclass, if it is new and admitted. -/
def next? (catalogue : Catalogue) (admits : String → Bool) (seen : List String)
    (entity : Entity) : Option Entity :=
  (catalogue.parent? entity).filter fun parent => !seen.contains parent.key && admits parent.key

theorem next?_eq_some_iff {catalogue : Catalogue} {admits : String → Bool} {seen : List String}
    {entity parent : Entity} :
    catalogue.next? admits seen entity = some parent ↔
      catalogue.parent? entity = some parent ∧ parent.key ∉ seen ∧ admits parent.key = true := by
  simp [next?, Option.filter_eq_some_iff]

/-- A walk is its next entity and the walk from there. -/
theorem lineageFrom_eq (catalogue : Catalogue) (admits : String → Bool) (seen : List String)
    (entity : Entity) :
    catalogue.lineageFrom admits seen entity =
      match catalogue.next? admits seen entity with
      | none => []
      | some parent => parent :: catalogue.lineageFrom admits (parent.key :: seen) parent := by
  rw [lineageFrom]
  split
  next based => simp [next?, parent?, based]
  next base based =>
    split
    next found => simp [next?, parent?, based, found]
    next parent found =>
      have leads : catalogue.parent? entity = some parent := by simp [parent?, based, found]
      rw [next?, leads, Option.filter_some, key_of_find? found]
      cases seen.contains base.key with
      | true => simp
      | false =>
          cases admits base.key with
          | true => simp [key_of_find? found]
          | false => simp

/-- Induction along a walk. -/
theorem walk_induction (catalogue : Catalogue) (admits : String → Bool)
    {motive : List String → Entity → Prop}
    (step : ∀ seen entity, (∀ parent, catalogue.next? admits seen entity = some parent →
      motive (parent.key :: seen) parent) → motive seen entity)
    (seen : List String) (entity : Entity) : motive seen entity :=
  step seen entity fun parent _ => walk_induction catalogue admits step (parent.key :: seen) parent
termination_by (catalogue.unseen seen).length
decreasing_by
  obtain ⟨found, fresh, -⟩ := next?_eq_some_iff.mp ‹_›
  obtain ⟨base, -, found⟩ := Option.bind_eq_some_iff.mp found
  exact length_unseen_lt (key_of_find? found ▸ found) (by simpa using fresh)

/-- **Walks that agree.** Two walks are the same if, from the given entity on, the superclasses and
their admission are the same. -/
theorem lineageFrom_congr {catalogue other : Catalogue} {admits others : String → Bool}
    (stays : Entity → Prop)
    (parents : ∀ entity, stays entity → catalogue.parent? entity = other.parent? entity)
    (admission : ∀ entity, stays entity → ∀ parent, catalogue.parent? entity = some parent →
      stays parent ∧ admits parent.key = others parent.key)
    (seen : List String) (entity : Entity) (here : stays entity) :
    catalogue.lineageFrom admits seen entity = other.lineageFrom others seen entity := by
  induction seen, entity using catalogue.walk_induction admits with
  | step seen entity ih =>
      have same : catalogue.next? admits seen entity = other.next? others seen entity := by
        rw [next?, next?, ← parents entity here]
        cases leads : catalogue.parent? entity with
        | none => rfl
        | some parent =>
            rw [Option.filter_some, Option.filter_some, (admission entity here parent leads).2]
      rw [lineageFrom_eq, lineageFrom_eq, ← same]
      cases next : catalogue.next? admits seen entity with
      | none => rfl
      | some parent =>
          have stay := (admission entity here parent (next?_eq_some_iff.mp next).1).1
          exact congrArg (parent :: ·) (ih parent next stay)

/-! ## Keys of superclasses -/

theorem superclassKeysFrom_eq (catalogue : Catalogue) (seen : List String) (entity : Entity) :
    catalogue.superclassKeysFrom seen entity =
      match entity.superclass with
      | none => []
      | some base =>
        if seen.contains base.key then []
        else
          base.key ::
            match catalogue.find? base.key with
            | none => []
            | some parent => catalogue.superclassKeysFrom (base.key :: seen) parent := by
  rw [superclassKeysFrom]
  cases entity.superclass with
  | none => rfl
  | some base =>
      by_cases met : seen.contains base.key
      · exact (dif_pos met).trans (if_pos met).symm
      · refine (dif_neg met).trans (Eq.trans ?_ (if_neg met).symm)
        cases catalogue.find? base.key with
        | none => rfl
        | some parent => rfl

/-- Catalogues with the same lookups have the same superclasses. -/
theorem superclassKeys_congr {catalogue other : Catalogue}
    (lookups : ∀ key, catalogue.find? key = other.find? key) (key : String) :
    catalogue.superclassKeys key = other.superclassKeys key := by
  have along : ∀ seen entity, catalogue.superclassKeysFrom seen entity =
      other.superclassKeysFrom seen entity := by
    intro seen entity
    induction seen, entity using superclassKeysFrom.induct catalogue with
    | case1 seen entity based => rw [superclassKeysFrom_eq, superclassKeysFrom_eq, based]
    | case2 seen entity base based met =>
        rw [superclassKeysFrom_eq, superclassKeysFrom_eq, based]
        simp only [met, ↓reduceIte]
    | case3 seen entity base based fresh ih =>
        rw [superclassKeysFrom_eq, superclassKeysFrom_eq, based]
        simp only [fresh, ← lookups]
        cases found : catalogue.find? base.key with
        | none => rfl
        | some parent => simp only [ih parent found]
  rw [superclassKeys, superclassKeys, lookups]
  cases other.find? key with
  | none => rfl
  | some entity => exact along [] entity

/-- What holds of an entity and is handed on to parents holds of all mapped superclasses. -/
theorem of_mem_superclassKeysFrom {catalogue : Catalogue} (stays : Entity → Prop)
    (climbs : ∀ entity, stays entity → ∀ parent, catalogue.parent? entity = some parent →
      stays parent)
    {seen : List String} {entity ancestor : Entity} (here : stays entity) {key : String}
    (among : key ∈ catalogue.superclassKeysFrom seen entity)
    (found : catalogue.find? key = some ancestor) : stays ancestor := by
  induction seen, entity using superclassKeysFrom.induct catalogue with
  | case1 seen entity based => simp [superclassKeysFrom_eq, based] at among
  | case2 seen entity base based met =>
      rw [superclassKeysFrom_eq, based] at among
      simp only [met, ↓reduceIte, List.not_mem_nil] at among
  | case3 seen entity base based fresh ih =>
      rw [superclassKeysFrom_eq, based] at among
      simp only [fresh, Bool.false_eq_true, ↓reduceIte, List.mem_cons] at among
      rcases among with rfl | among
      · exact climbs entity here ancestor (by simp [parent?, based, found])
      · cases leads : catalogue.find? base.key with
        | none => simp [leads] at among
        | some parent =>
            rw [leads] at among
            have there := climbs entity here parent (by simp [parent?, based, leads])
            exact ih parent leads there among

/-! ## Without cycles -/

/-- One key belongs to an entity whose superclass has the other. -/
def Extends (catalogue : Catalogue) (child parent : String) : Prop :=
  ∃ entity ∈ catalogue.entities, entity.key = child ∧
    ∃ base, entity.superclass = some base ∧ base.key = parent

/-- No type is among its own superclasses. -/
def Acyclic (catalogue : Catalogue) : Prop :=
  ∀ key, ¬ Relation.TransGen catalogue.Extends key key

/-- A catalogue has no cycles if its superclasses have lower ranks. -/
theorem acyclic_of_rank {catalogue : Catalogue} (rank : String → Nat)
    (lower : ∀ entity ∈ catalogue.entities, ∀ base, entity.superclass = some base →
      rank base.key < rank entity.key) : catalogue.Acyclic := by
  have descends : ∀ {child parent}, Relation.TransGen catalogue.Extends child parent →
      rank parent < rank child := by
    intro child parent climbs
    induction climbs with
    | single step =>
        obtain ⟨entity, among, rfl, base, based, rfl⟩ := step
        exact lower entity among base based
    | tail _ step ih =>
        obtain ⟨entity, among, rfl, base, based, rfl⟩ := step
        exact Nat.lt_trans (lower entity among base based) ih
  exact fun key climbs => Nat.lt_irrefl _ (descends climbs)

theorem extends_of_parent? {catalogue : Catalogue} {entity parent : Entity}
    (among : entity ∈ catalogue.entities) (leads : catalogue.parent? entity = some parent) :
    catalogue.Extends entity.key parent.key := by
  obtain ⟨base, based, found⟩ := Option.bind_eq_some_iff.mp leads
  exact ⟨entity, among, rfl, base, based, (key_of_find? found).symm⟩

/-- What a walk has seen does not matter as long as it never comes back to it. -/
theorem lineageFrom_of_unreached {catalogue : Catalogue} {admits : String → Bool}
    (seen others : List String) {entity : Entity} (among : entity ∈ catalogue.entities)
    (unseen : ∀ key, Relation.TransGen catalogue.Extends entity.key key → key ∉ seen)
    (unmet : ∀ key, Relation.TransGen catalogue.Extends entity.key key → key ∉ others)
    (acyclic : catalogue.Acyclic) :
    catalogue.lineageFrom admits seen entity = catalogue.lineageFrom admits others entity := by
  induction seen, entity using catalogue.walk_induction admits generalizing others with
  | step seen entity ih =>
      have same : catalogue.next? admits seen entity = catalogue.next? admits others entity := by
        ext parent
        rw [next?_eq_some_iff, next?_eq_some_iff]
        refine and_congr_right fun leads => and_congr_left fun _ => ?_
        have climbs := Relation.TransGen.single (extends_of_parent? among leads)
        exact iff_of_true (unseen _ climbs) (unmet _ climbs)
      rw [lineageFrom_eq, lineageFrom_eq, ← same]
      cases next : catalogue.next? admits seen entity with
      | none => rfl
      | some parent =>
          obtain ⟨leads, -, -⟩ := next?_eq_some_iff.mp next
          have climbs := extends_of_parent? among leads
          have apart : ∀ {keys : List String},
              (∀ key, Relation.TransGen catalogue.Extends entity.key key → key ∉ keys) →
              ∀ key, Relation.TransGen catalogue.Extends parent.key key →
                key ∉ parent.key :: keys := by
            intro keys free key higher
            rw [List.mem_cons, not_or]
            exact ⟨fun same => acyclic key (same ▸ higher), free key (higher.head climbs)⟩
          exact congrArg (parent :: ·)
            (ih parent next (parent.key :: others) (mem_of_parent? leads) (apart unseen)
              (apart unmet))

/-- **A walk without cycles.** It goes to the parent, if that is admitted, and from there on. -/
theorem lineage_of_acyclic {catalogue : Catalogue} (acyclic : catalogue.Acyclic)
    (admits : String → Bool) {entity : Entity} (among : entity ∈ catalogue.entities) :
    catalogue.lineage admits entity =
      match (catalogue.parent? entity).filter (fun parent => admits parent.key) with
      | none => []
      | some parent => parent :: catalogue.lineage admits parent := by
  have same : catalogue.next? admits [entity.key] entity =
      (catalogue.parent? entity).filter (fun parent => admits parent.key) := by
    ext parent
    rw [next?_eq_some_iff, Option.filter_eq_some_iff]
    refine and_congr_right fun leads => and_iff_right ?_
    have climbs := extends_of_parent? among leads
    rw [List.mem_singleton]
    exact fun same => acyclic entity.key (.single (same ▸ climbs))
  rw [lineage, lineageFrom_eq, same]
  cases leads : (catalogue.parent? entity).filter (fun parent => admits parent.key) with
  | none => rfl
  | some parent =>
      have climbs := extends_of_parent? among (Option.filter_eq_some_iff.mp leads).1
      refine congrArg (parent :: ·) ?_
      refine lineageFrom_of_unreached _ _ (mem_of_parent? (Option.filter_eq_some_iff.mp leads).1)
        ?_ ?_ acyclic
      · intro key higher met
        simp only [List.mem_cons, List.not_mem_nil, or_false] at met
        rcases met with rfl | rfl
        · exact acyclic _ higher
        · exact acyclic _ (higher.head climbs)
      · intro key higher met
        exact acyclic key (List.mem_singleton.mp met ▸ higher)

end Catalogue

namespace Sample

theorem distinct_catalogue : catalogue.Distinct := by
  show (catalogue.entities.map (·.key)).Nodup
  decide +kernel

theorem acyclic_catalogue : catalogue.Acyclic := by
  refine Catalogue.acyclic_of_rank (fun key => if key = manager.type.key then 1 else 0) ?_
  intro entity among base based
  have lower : ∀ entity ∈ catalogue.entities, entity.superclass.all (fun base =>
      decide ((if base.key = manager.type.key then 1 else 0) <
        if entity.key = manager.type.key then 1 else 0)) = true := by
    decide +kernel
  have here := lower entity among
  rw [based] at here
  exact of_decide_eq_true here

end Sample

end EntityAtlas

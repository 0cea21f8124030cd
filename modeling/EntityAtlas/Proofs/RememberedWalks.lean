import EntityAtlas.Proofs.Walks
import Mathlib.Data.List.TakeWhile

/-!
# Remembered walks

The ancestors of an entity are told apart from all other lists by their shape: each is the mapped
superclass of the one before, no key comes back, and the walk goes on as long as it can
(`Catalogue.isWalk_iff`). A walk that asks who takes part is the walk that does not, up to the first
entity that is left out (`lineageFrom_eq_takeWhile`).

A build asks for the same ancestors over and over, and remembers what it was told. What it remembers
are walks (`Lineages.Recalls`), and every question keeps it so. Thus the answers to any questions in
any order are the walks themselves (`answers_recall`).
-/

set_option autoImplicit false

namespace EntityAtlas

namespace Catalogue

variable {catalogue : Catalogue} {admits : String → Bool}

/-! ## The shape of a walk -/

/-- A list is a walk from an entity along its superclasses, which keeps off the keys already seen.
It ends where there is no mapped superclass, or where this has been met before or is not
admitted. -/
structure IsWalk (catalogue : Catalogue) (admits : String → Bool) (seen : List String)
    (entity : Entity) (ancestors : List Entity) : Prop where
  climbs : (entity :: ancestors).IsChain fun child parent =>
    catalogue.parent? child = some parent
  distinct : (ancestors.map (·.key)).Nodup
  fresh : ∀ ancestor ∈ ancestors, ancestor.key ∉ seen
  admitted : ∀ ancestor ∈ ancestors, admits ancestor.key = true
  stops : ∀ parent,
    catalogue.parent? ((entity :: ancestors).getLast (List.cons_ne_nil _ _)) = some parent →
      parent.key ∈ seen ∨ parent.key ∈ ancestors.map (·.key) ∨ admits parent.key = false

theorem next?_eq_none_iff {seen : List String} {entity : Entity} :
    catalogue.next? admits seen entity = none ↔
      ∀ parent, catalogue.parent? entity = some parent →
        parent.key ∈ seen ∨ admits parent.key = false := by
  simp only [next?, Option.filter_eq_none_iff, Bool.and_eq_true, Bool.not_eq_true',
    List.contains_eq_mem, decide_eq_false_iff_not, not_and_or, not_not, Bool.not_eq_true]

theorem isWalk_nil_iff {seen : List String} {entity : Entity} :
    catalogue.IsWalk admits seen entity [] ↔ catalogue.next? admits seen entity = none := by
  rw [next?_eq_none_iff]
  constructor
  · intro walk parent leads
    simpa using walk.stops parent leads
  · intro stops
    exact ⟨.singleton _, .nil, by simp, by simp,
      fun parent leads => by simpa using stops parent leads⟩

theorem isWalk_cons_iff {seen : List String} {entity first : Entity} {rest : List Entity} :
    catalogue.IsWalk admits seen entity (first :: rest) ↔
      catalogue.next? admits seen entity = some first ∧
        catalogue.IsWalk admits (first.key :: seen) first rest := by
  rw [next?_eq_some_iff]
  constructor
  · intro walk
    obtain ⟨leads, climbs⟩ := List.isChain_cons_cons.mp walk.climbs
    obtain ⟨apart, distinct⟩ := List.nodup_cons.mp walk.distinct
    refine ⟨⟨leads, walk.fresh first List.mem_cons_self, walk.admitted first List.mem_cons_self⟩,
      climbs, distinct, fun ancestor among met => ?_,
      fun ancestor among => walk.admitted ancestor (List.mem_cons_of_mem _ among),
      fun parent further => ?_⟩
    · rcases List.mem_cons.mp met with same | met
      · exact apart (List.mem_map.mpr ⟨ancestor, among, same⟩)
      · exact walk.fresh ancestor (List.mem_cons_of_mem _ among) met
    · rcases walk.stops parent further with met | met | refused
      · exact .inl (List.mem_cons_of_mem _ met)
      · rcases List.mem_cons.mp met with same | met
        · exact .inl (same ▸ List.mem_cons_self)
        · exact .inr (.inl met)
      · exact .inr (.inr refused)
  · rintro ⟨⟨leads, fresh, admitted⟩, walk⟩
    refine ⟨List.isChain_cons_cons.mpr ⟨leads, walk.climbs⟩,
      List.nodup_cons.mpr ⟨fun again => ?_, walk.distinct⟩,
      List.forall_mem_cons.mpr ⟨fresh, fun ancestor among met => ?_⟩,
      List.forall_mem_cons.mpr ⟨admitted, walk.admitted⟩, fun parent further => ?_⟩
    · obtain ⟨ancestor, among, same⟩ := List.mem_map.mp again
      exact walk.fresh ancestor among (same ▸ List.mem_cons_self)
    · exact walk.fresh ancestor among (List.mem_cons_of_mem _ met)
    · rcases walk.stops parent further with met | met | refused
      · rcases List.mem_cons.mp met with same | met
        · exact .inr (.inl (same ▸ List.mem_cons_self))
        · exact .inl met
      · exact .inr (.inl (List.mem_cons_of_mem _ met))
      · exact .inr (.inr refused)

/-- **The shape of a walk.** There is one walk from every entity, and the catalogue finds it. -/
theorem isWalk_iff {seen : List String} {entity : Entity} {ancestors : List Entity} :
    catalogue.IsWalk admits seen entity ancestors ↔
      ancestors = catalogue.lineageFrom admits seen entity := by
  induction seen, entity using catalogue.walk_induction admits generalizing ancestors with
  | step seen entity ih =>
      rw [lineageFrom_eq]
      cases next : catalogue.next? admits seen entity with
      | none =>
          cases ancestors with
          | nil => simp [isWalk_nil_iff, next]
          | cons first rest => simp [isWalk_cons_iff, next]
      | some parent =>
          cases ancestors with
          | nil => simp [isWalk_nil_iff, next]
          | cons first rest =>
              rw [isWalk_cons_iff, next, Option.some.injEq, List.cons.injEq, eq_comm]
              exact and_congr_right fun same => same ▸ ih parent next

/-- A walk visits no more entities than there are. -/
theorem IsWalk.length_le {seen : List String} {entity : Entity} {ancestors : List Entity}
    (walk : catalogue.IsWalk admits seen entity ancestors) :
    ancestors.length ≤ catalogue.entities.length := by
  have mapped : ancestors ⊆ catalogue.entities := by
    intro ancestor among
    rw [isWalk_iff.mp walk] at among
    obtain ⟨_, -, leads, -⟩ := Relation.TransGen.tail'_iff.mp (leads_of_mem_lineageFrom among)
    exact mem_of_parent? leads
  exact (List.Nodup.of_map _ walk.distinct).length_le_of_subset mapped

/-! ## Walks that stop early -/

/-- A walk that admits less is the walk that admits everything, up to the first entity that is not
admitted. -/
theorem lineageFrom_eq_takeWhile (seen : List String) (entity : Entity) :
    catalogue.lineageFrom admits seen entity =
      (catalogue.lineageFrom (fun _ => true) seen entity).takeWhile
        (fun ancestor => admits ancestor.key) := by
  induction seen, entity using catalogue.walk_induction fun _ => true with
  | step seen entity ih =>
      rw [lineageFrom_eq, lineageFrom_eq]
      cases next : catalogue.next? (fun _ => true) seen entity with
      | none =>
          have stops : catalogue.next? admits seen entity = none :=
            next?_eq_none_iff.mpr fun parent leads =>
              .inl ((next?_eq_none_iff.mp next parent leads).resolve_right (by simp))
          rw [stops, List.takeWhile_nil]
      | some parent =>
          obtain ⟨leads, fresh, -⟩ := next?_eq_some_iff.mp next
          cases admitted : admits parent.key with
          | true =>
              have goesOn : catalogue.next? admits seen entity = some parent :=
                next?_eq_some_iff.mpr ⟨leads, fresh, admitted⟩
              simp only [goesOn, List.takeWhile_cons, admitted, ↓reduceIte, ih parent next]
          | false =>
              have stops : catalogue.next? admits seen entity = none :=
                next?_eq_none_iff.mpr fun other leadsOther => by
                  rw [leads] at leadsOther
                  exact .inr (Option.some.inj leadsOther ▸ admitted)
              rw [stops]
              simp [admitted]

end Catalogue

/-! ## Ancestors that take part -/

theorem prefix_takeWhile_iff {α : Type} {admits : α → Bool} {items others : List α} :
    others <+: items.takeWhile admits ↔
      others <+: items ∧ ∀ other ∈ others, admits other = true := by
  constructor
  · intro early
    exact ⟨early.trans (List.takeWhile_prefix admits),
      fun other among => List.mem_takeWhile_imp (early.subset among)⟩
  · rintro ⟨⟨rest, rfl⟩, admitted⟩
    rw [List.takeWhile_append_of_pos admitted]
    exact List.prefix_append others _

/-- Ancestors that take part come first among all ancestors, as many as follow each other. -/
theorem prefix_ancestors_iff {scope : Scope} {entity : Entity} {others : List Entity} :
    others <+: scope.ancestors true entity ↔
      others <+: scope.ancestors false entity ∧
        ∀ other ∈ others, scope.includes other.key = true := by
  have early : scope.ancestors true entity =
      (scope.ancestors false entity).takeWhile fun ancestor => scope.includes ancestor.key :=
    Catalogue.lineageFrom_eq_takeWhile [entity.key] entity
  rw [early, prefix_takeWhile_iff]

/-! ## Remembered answers -/

/-- A question for the ancestors of an entity: for all of them, or for those that take part. -/
structure AncestorQuery where
  entity : Entity
  participating : Bool := true

namespace Lineages

/-- The answers to questions in order, each from what is remembered after those before. -/
def answers (scope : Scope) : Lineages → List AncestorQuery → List (List Entity)
  | _, [] => []
  | lineages, query :: rest =>
    let answered := lineages.ancestors scope query.participating query.entity
    answered.1 :: answers scope answered.2 rest

/-- What is remembered of the entities of a catalogue are their ancestors. -/
def Recalls (lineages : Lineages) (scope : Scope) : Prop :=
  ∀ entity ∈ scope.catalogue.entities, ∀ participating found,
    lineages.known.lookup (entity.key, participating) = some found →
      found = scope.ancestors participating entity

theorem recalls_nothing (scope : Scope) : Recalls {} scope := by
  intro entity _ participating found remembered
  cases remembered

variable {scope : Scope} {lineages : Lineages}

/-- What was just found may be remembered. -/
theorem Recalls.remember (recalls : lineages.Recalls scope) (distinct : scope.catalogue.Distinct)
    {entity : Entity} (mapped : entity ∈ scope.catalogue.entities) (participating : Bool) :
    Recalls { known := ((entity.key, participating), scope.ancestors participating entity) ::
      lineages.known } scope := by
  intro other among asked found remembered
  rw [List.lookup_cons] at remembered
  split at remembered
  next same =>
    obtain ⟨sameKey, rfl⟩ := Prod.mk.inj (eq_of_beq same)
    -- With distinct keys the entry is about the same entity.
    obtain rfl := List.inj_on_of_nodup_map distinct among mapped sameKey
    exact (Option.some.inj remembered).symm
  next => exact recalls other among asked found remembered

/-- **One question.** It is answered by the ancestors, and keeps what is remembered right. -/
theorem ancestors_recalls (recalls : lineages.Recalls scope) (distinct : scope.catalogue.Distinct)
    {entity : Entity} (mapped : entity ∈ scope.catalogue.entities) (participating : Bool) :
    (lineages.ancestors scope participating entity).1 = scope.ancestors participating entity ∧
      (lineages.ancestors scope participating entity).2.Recalls scope := by
  unfold ancestors
  cases remembered : lineages.known.lookup (entity.key, participating) with
  | some found => exact ⟨recalls entity mapped participating found remembered, recalls⟩
  | none => exact ⟨rfl, recalls.remember distinct mapped participating⟩

/-- Questions in turn are answered by the ancestors. -/
theorem answers_eq_map (recalls : lineages.Recalls scope) (distinct : scope.catalogue.Distinct)
    {queries : List AncestorQuery}
    (mapped : ∀ query ∈ queries, query.entity ∈ scope.catalogue.entities) :
    answers scope lineages queries =
      queries.map fun query => scope.ancestors query.participating query.entity := by
  induction queries generalizing lineages with
  | nil => rfl
  | cons query rest ih =>
      obtain ⟨first, later⟩ := List.forall_mem_cons.mp mapped
      obtain ⟨answered, kept⟩ := ancestors_recalls recalls distinct first query.participating
      rw [answers, List.map_cons, answered, ih kept later]

/-- **Remembered walks.** Over a catalogue with distinct keys, questions for ancestors in any order
are answered as if nothing was remembered. The answers are walks along superclasses: each entity is
the mapped superclass of the one before, no key comes twice or is that of the entity asked about,
and a walk stops only where there is no mapped superclass, where this has been met, or where it does
not take part if that is asked for. A walk visits no more entities than there are. The ancestors
that take part are the longest beginning of all ancestors in which every entity does. -/
theorem answers_recall (distinct : scope.catalogue.Distinct) {queries : List AncestorQuery}
    (mapped : ∀ query ∈ queries, query.entity ∈ scope.catalogue.entities) :
    answers scope {} queries =
        queries.map (fun query => scope.ancestors query.participating query.entity) ∧
      (∀ participating entity ancestors, ancestors = scope.ancestors participating entity ↔
        scope.catalogue.IsWalk (fun key => !participating || scope.includes key) [entity.key] entity
          ancestors) ∧
      (∀ participating entity,
        (scope.ancestors participating entity).length ≤ scope.catalogue.entities.length) ∧
      ∀ entity others, others <+: scope.ancestors true entity ↔
        others <+: scope.ancestors false entity ∧
          ∀ other ∈ others, scope.includes other.key = true := by
  refine ⟨answers_eq_map (recalls_nothing scope) distinct mapped,
    fun participating entity ancestors => Catalogue.isWalk_iff.symm,
    fun participating entity => (Catalogue.isWalk_iff.mpr rfl).length_le,
    fun entity others => prefix_ancestors_iff⟩

end Lineages

/-! ## Entities in a ring -/

namespace Staff

/-- An entity that extends another one. -/
def entity (name base : String) : Entity :=
  { type := { name, space := "Staff" }, superclass := some { name := base, space := "Staff" } }

/-- Clerks and leads extend each other, and owners extend themselves. -/
def catalogue : Catalogue :=
  { entities := [entity "Temp" "Clerk", entity "Clerk" "Lead", entity "Lead" "Clerk",
      entity "Owner" "Owner"] }

/-- Leads do not take part. -/
def scope : Scope :=
  { catalogue, participants := some ["Temp:#Staff", "Clerk:#Staff", "Owner:#Staff"] }

/-- Questions about temps, with clerks and owners between them. -/
def queries : List AncestorQuery :=
  [ { entity := entity "Temp" "Clerk" },
    { entity := entity "Clerk" "Lead", participating := false },
    { entity := entity "Temp" "Clerk", participating := false },
    { entity := entity "Owner" "Owner", participating := false },
    { entity := entity "Temp" "Clerk" } ]

end Staff

/-- Temps are clerks and leads, and only the former take part, however often they are asked for. -/
theorem answers_recall_staff :
    (Lineages.answers Staff.scope {} Staff.queries).map (·.map (·.type.name)) =
        [["Clerk"], ["Lead"], ["Clerk", "Lead"], [], ["Clerk"]] ∧
      Staff.scope.catalogue.Distinct ∧
      (∀ query ∈ Staff.queries, query.entity ∈ Staff.scope.catalogue.entities) ∧
      Lineages.answers Staff.scope {} Staff.queries =
        Staff.queries.map fun query =>
          Staff.scope.ancestors query.participating query.entity := by
  have distinct : Staff.scope.catalogue.Distinct := by
    unfold Catalogue.Distinct
    decide +kernel
  have mapped : ∀ query ∈ Staff.queries, query.entity ∈ Staff.scope.catalogue.entities := by
    simp [Staff.queries, Staff.scope, Staff.catalogue]
  exact ⟨by decide +kernel, distinct, mapped, (Lineages.answers_recall distinct mapped).1⟩

end EntityAtlas

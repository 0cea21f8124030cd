import EntityAtlas.Proofs.Coherence

/-!
# Base types

The entity type of an entity names its base, and the base names its own. Without cycles this walk
through the document visits the ancestors of the entity that take part, nearest first
(`climbs_ancestors`). Every entity on the walk has the rest of the walk as its ancestors
(`ancestors_of_split`).
-/

set_option autoImplicit false

namespace EntityAtlas

/-- The key of the base of an entity type. -/
def StructuralType.baseTypeName? (type : StructuralType) : Option String :=
  match type.role with
  | .complex => none
  | .entity baseTypeName _ _ => baseTypeName

/-- From the type with a key the links to base types lead through the given keys, and no further. -/
inductive Document.Climbs (document : Document) : String → List String → Prop where
  | root {key : String} {type : StructuralType} (found : document.type? key = some type)
      (baseless : type.baseTypeName? = none) : Climbs document key []
  | up {key base : String} {type : StructuralType} {above : List String}
      (found : document.type? key = some type) (based : type.baseTypeName? = some base)
      (further : Climbs document base above) : Climbs document key (base :: above)

/-- There is one walk along base types only. -/
theorem Document.Climbs.unique {document : Document} {key : String} {above others : List String}
    (climbs : document.Climbs key above) (again : document.Climbs key others) : above = others := by
  induction climbs generalizing others with
  | root found baseless =>
      cases again with
      | root => rfl
      | up found' based =>
          rw [found] at found'
          cases found'
          rw [baseless] at based
          cases based
  | up found based further ih =>
      cases again with
      | root found' baseless =>
          rw [found] at found'
          cases found'
          rw [baseless] at based
          cases based
      | up found' based' further' =>
          rw [found] at found'
          cases found'
          rw [based] at based'
          cases based'
          rw [ih further']

section Ancestors

variable {catalogue : Catalogue} {options : BuildOptions} {entity : Entity}

/-- With distinct keys the key of an entity tells whether it takes part. -/
theorem mem_participants_iff (distinct : catalogue.Distinct) (among : entity ∈ catalogue.entities) :
    entity ∈ options.participants catalogue ↔
      (options.scope catalogue).includes entity.key = true := by
  show _ ↔ ((options.participants catalogue).map (·.key)).contains entity.key = true
  rw [List.contains_iff_mem, List.mem_map]
  constructor
  · exact fun inside => ⟨entity, inside, rfl⟩
  · rintro ⟨other, inside, same⟩
    rwa [List.inj_on_of_nodup_map distinct among
      (participants_subset options catalogue inside) same.symm]

theorem ancestors_of_acyclic (acyclic : catalogue.Acyclic) (among : entity ∈ catalogue.entities) :
    (options.scope catalogue).ancestors true entity =
      match (catalogue.parent? entity).filter fun parent =>
          (options.scope catalogue).includes parent.key with
      | none => []
      | some parent => parent :: (options.scope catalogue).ancestors true parent :=
  Catalogue.lineage_of_acyclic acyclic (fun key => !true || (options.scope catalogue).includes key)
    among

/-- The nearest ancestor is the parent, and the others are the ancestors of the parent. -/
theorem ancestors_cons_iff (acyclic : catalogue.Acyclic) (among : entity ∈ catalogue.entities)
    {parent : Entity} {rest : List Entity} :
    (options.scope catalogue).ancestors true entity = parent :: rest ↔
      catalogue.parent? entity = some parent ∧
        (options.scope catalogue).includes parent.key = true ∧
        (options.scope catalogue).ancestors true parent = rest := by
  rw [ancestors_of_acyclic acyclic among]
  cases leads : (catalogue.parent? entity).filter fun parent =>
      (options.scope catalogue).includes parent.key with
  | none =>
      rw [Option.filter_eq_none_iff] at leads
      constructor
      · intro same
        cases same
      · rintro ⟨found, included, -⟩
        exact (leads parent found included).elim
  | some other =>
      rw [Option.filter_eq_some_iff] at leads
      obtain ⟨found, included⟩ := leads
      rw [found]
      simp only [List.cons.injEq, Option.some.injEq]
      constructor
      · rintro ⟨rfl, rfl⟩
        exact ⟨rfl, included, rfl⟩
      · rintro ⟨rfl, -, rfl⟩
        exact ⟨rfl, rfl⟩

/-- The entities on the walk from a participant take part, and each has the rest of the walk as its
ancestors. -/
theorem ancestors_of_split (distinct : catalogue.Distinct) (acyclic : catalogue.Acyclic)
    (included : entity ∈ options.participants catalogue) {before after : List Entity}
    {holder : Entity}
    (split : entity :: (options.scope catalogue).ancestors true entity =
      before ++ holder :: after) :
    holder ∈ options.participants catalogue ∧
      (options.scope catalogue).ancestors true holder = after := by
  induction before generalizing entity with
  | nil =>
      obtain ⟨rfl, rfl⟩ := List.cons.inj split
      exact ⟨included, rfl⟩
  | cons first rest ih =>
      obtain ⟨rfl, tail⟩ := List.cons.inj split
      have among := participants_subset options catalogue included
      cases climbs : (options.scope catalogue).ancestors true entity with
      | nil => simp [climbs] at tail
      | cons parent above =>
          obtain ⟨leads, admitted, rfl⟩ := (ancestors_cons_iff acyclic among).mp climbs
          have inside := (mem_participants_iff distinct (Catalogue.mem_of_parent? leads)).mpr admitted
          exact ih inside (climbs ▸ tail)

/-- The base of an entity type is the nearest ancestor that takes part. -/
theorem baseTypeName?_node (distinct : catalogue.Distinct) (acyclic : catalogue.Acyclic)
    (among : entity ∈ catalogue.entities) (resource : Option String) :
    ((options.scope catalogue).node entity resource).baseTypeName? =
      ((options.scope catalogue).ancestors true entity).head?.map (·.key) := by
  show (entity.superclass.map (·.key)).filter (options.scope catalogue).includes = _
  rw [ancestors_of_acyclic acyclic among, Catalogue.parent?]
  cases based : entity.superclass with
  | none => rfl
  | some base =>
      rw [Option.map_some, Option.filter_some, Option.bind_some]
      cases found : catalogue.find? base.key with
      | none =>
          have unknown : (options.scope catalogue).includes base.key = false := by
            apply Bool.eq_false_iff.mpr
            intro known
            obtain ⟨other, inside, same⟩ := List.mem_map.mp (List.contains_iff_mem.mp known)
            have here := distinct.find?_iff.mpr
              ⟨participants_subset options catalogue inside, same⟩
            rw [found] at here
            cases here
          simp [unknown]
      | some parent =>
          have same := Catalogue.key_of_find? found
          rw [Option.filter_some, same]
          cases (options.scope catalogue).includes base.key with
          | true => simp [same]
          | false => rfl

/-- **Links to base types.** In the document they lead from an entity through the keys of its
ancestors that take part, nearest first, and no further. -/
theorem climbs_ancestors (distinct : catalogue.Distinct) (acyclic : catalogue.Acyclic)
    {draft : Draft}
    (published : Published (options.scope catalogue) options.resourceName
      (options.participants catalogue) draft)
    (included : entity ∈ options.participants catalogue) (comparisonOptions : String) :
    (draft.document comparisonOptions).Climbs entity.key
      (((options.scope catalogue).ancestors true entity).map (·.key)) := by
  induction climbs : (options.scope catalogue).ancestors true entity generalizing entity with
  | nil =>
      refine .root (published.type?_of_mem included comparisonOptions) ?_
      rw [baseTypeName?_node distinct acyclic (participants_subset options catalogue included),
        climbs]
      rfl
  | cons parent above ih =>
      have among := participants_subset options catalogue included
      obtain ⟨leads, admitted, rest⟩ := (ancestors_cons_iff acyclic among).mp climbs
      refine .up (published.type?_of_mem included comparisonOptions) ?_
        (ih ((mem_participants_iff distinct (Catalogue.mem_of_parent? leads)).mpr admitted) rest)
      rw [baseTypeName?_node distinct acyclic among, climbs]
      rfl

end Ancestors

end EntityAtlas

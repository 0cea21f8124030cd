import EntityAtlas.Proofs.ComplexReferences

/-!
# The order of complex types

Every embedded type is put in front of those that are there. A walk over the participants in their
order, which goes into each embedded type when it meets it first, meets the types in the order in
which they are opened (`publishComponent_opens`, `publishEntities_met`), so in the document they stand
the other way round. The types that a new type embeds are met after it, unless they have been met
elsewhere before. Entity types thus stand behind all complex types that they name, and a complex
type stands behind one that it names exactly if it was met before it (`build_ordersComplexTypes`).
-/

set_option autoImplicit false

namespace EntityAtlas

/-! ## Walks -/

mutual

/-- The keys met so far, and then those that a walk through an embedded type meets first. It does not
go into a type whose key it has met. -/
def Component.met : Component → List String → List String
  | ⟨type, members⟩, met =>
    if met.contains type.key then met else metAmong members (met ++ [type.key])

/-- The keys met so far, and then those that a walk through the types embedded in members meets
first. -/
def metAmong : List Member → List String → List String
  | [], met => met
  | member :: rest, met => metAmong rest (member.met met)

/-- The keys met so far, and then those that a walk through the type embedded in a member meets
first. -/
def Member.met : Member → List String → List String
  | { isAssociation := false, isEmbedded := true, component := some component, .. }, met =>
    Component.met component met
  | _, met => met

end

/-- The keys of the types that entities embed, in the order in which a walk meets them first. -/
def Scope.meetings (scope : Scope) (entities : List Entity) : List String :=
  entities.foldl (fun met entity => metAmong (scope.dataMembers entity) met) []

theorem Component.met_eq (component : Component) (met : List String) :
    component.met met =
      if met.contains component.type.key then met
      else metAmong component.members (met ++ [component.type.key]) := by
  obtain ⟨type, members⟩ := component
  rw [Component.met]

theorem Member.met_of_embedded {member : Member} {component : Component}
    (plain : member.isAssociation = false) (embeds : member.embedded? = some component)
    (met : List String) : member.met met = component.met met := by
  obtain ⟨⟩ := member
  cases plain
  simp only [Member.embedded?, Option.ite_none_right_eq_some] at embeds
  obtain ⟨rfl, rfl⟩ := embeds
  rfl

theorem Member.met_of_scalar {member : Member} (scalar : member.embedded? = none)
    (met : List String) : member.met met = met := by
  unfold Member.met
  split
  · simp [Member.embedded?] at scalar
  · rfl

/-! ## Opened types -/

namespace Draft

/-- The keys of the complex types of a draft in the order in which they were opened. -/
def openedKeys (draft : Draft) : List String := (draft.complexTypes.map (·.key)).reverse

theorem openedKeys_openComplexType (draft : Draft) (type : StructuralType) :
    (draft.openComplexType type).openedKeys = draft.openedKeys ++ [type.key] := by
  simp [openedKeys, openComplexType]

theorem openedKeys_extendComplexType (draft : Draft) (owner : String) (property : DataProperty) :
    (draft.extendComplexType owner property).openedKeys = draft.openedKeys := by
  simp only [openedKeys, extendComplexType, List.map_map]
  congr 2
  funext type
  simp only [Function.comp]
  split <;> rfl

/-- A key that no entity type has is held exactly if a type with it was opened. -/
theorem holdsType_eq_contains {draft : Draft} {key : String} (free : key ∉ draft.entityKeys) :
    draft.holdsType key = draft.openedKeys.contains key := by
  rw [Bool.eq_iff_iff, holdsType_iff, List.contains_iff_mem, openedKeys, List.mem_reverse]
  constructor
  · rintro ⟨type, among, rfl⟩
    rcases List.mem_append.mp among with complex | node
    · exact List.mem_map_of_mem complex
    · exact (free (List.mem_map_of_mem node)).elim
  · intro opened
    obtain ⟨type, among, same⟩ := List.mem_map.mp opened
    exact ⟨type, List.mem_append_left _ among, same⟩

end Draft

/-- A step on a draft opens the types that a walk meets first, and leaves the entity types alone. -/
structure Draft.Opens (before after : Draft) (walk : List String → List String) : Prop where
  opened : after.openedKeys = walk before.openedKeys
  entities : after.entityKeys = before.entityKeys

namespace Draft.Opens

theorem refl (draft : Draft) : Draft.Opens draft draft id := ⟨rfl, rfl⟩

theorem trans {before between after : Draft} {first second : List String → List String}
    (earlier : Draft.Opens before between first) (later : Draft.Opens between after second) :
    Draft.Opens before after fun met => second (first met) :=
  ⟨by rw [later.opened, earlier.opened], later.entities.trans earlier.entities⟩

end Draft.Opens

section Embedding

variable {scope : Scope}

theorem draftScalar_opens {owner : TypeExpr} {member : Member} {isNullable : Bool}
    {before after : Draft} {property : DataProperty}
    (run : draftScalar scope owner member isNullable before = .ok property after) :
    Draft.Opens before after id := by
  obtain ⟨-, rfl⟩ := draftScalar_ok_iff.mp run
  obtain ⟨_, growth, -⟩ := growth_listEnumerationOf scope before member
  constructor
  · rw [Draft.openedKeys, growth.complexTypes]
    rfl
  · rw [Draft.entityKeys, growth.entityTypes]
    rfl

/-- Publishing an embedded type opens the types that a walk through it meets first, unless an entity
type has the key of one of them. -/
def Component.OpensMet (scope : Scope) (component : Component) : Prop :=
  ∀ {before after : Draft} {key : String},
    publishComponent scope component before = .ok key after →
      (∀ inner ∈ component.nested, inner.type.key ∉ before.entityKeys) →
        Draft.Opens before after component.met

/-- A member opens what the type that it embeds opens. -/
theorem opens_of_embedded {member : Member} {component : Component}
    (opens : component.OpensMet scope) (plain : member.isAssociation = false)
    (embeds : member.embedded? = some component) {before after : Draft} {key : String}
    (published : publishComponent scope component before = .ok key after)
    (free : ∀ inner ∈ member.nested, inner.type.key ∉ before.entityKeys) :
    Draft.Opens before after member.met := by
  rw [Member.nested_of_embedded plain embeds] at free
  rw [funext (Member.met_of_embedded plain embeds)]
  exact opens published free

theorem publishPart_opens {owner : TypeExpr} {member : Member}
    (inner : ∀ component, member.embedded? = some component → component.OpensMet scope)
    {before after : Draft} {property : DataProperty}
    (run : publishPart scope owner member before = .ok property after)
    (free : ∀ component ∈ member.nested, component.type.key ∉ before.entityKeys) :
    Draft.Opens before after member.met := by
  cases plain : member.isAssociation with
  | true =>
      rw [publishPart_of_association scope owner plain] at run
      exact (throw_ok_iff.mp run).elim
  | false =>
      cases embeds : member.embedded? with
      | some component =>
          rw [publishPart_of_embedded scope owner plain embeds] at run
          simp only [bind_ok_iff, pure_ok_iff] at run
          obtain ⟨key, _, published, -, rfl⟩ := run
          exact opens_of_embedded (inner component embeds) plain embeds published free
      | none =>
          rw [publishPart_of_scalar scope owner plain embeds] at run
          rw [funext (Member.met_of_scalar embeds)]
          exact draftScalar_opens run

theorem publishParts_opens {owner : TypeExpr} {members : List Member}
    (inner : ∀ member ∈ members, ∀ component, member.embedded? = some component →
      component.OpensMet scope)
    {before after : Draft} {value : Unit}
    (run : publishParts scope owner members before = .ok value after)
    (free : ∀ component ∈ nestedAmong members, component.type.key ∉ before.entityKeys) :
    Draft.Opens before after (metAmong members) := by
  induction members generalizing before with
  | nil =>
      obtain ⟨-, rfl⟩ := pure_ok_iff.mp run
      exact .refl before
  | cons member rest ih =>
      simp only [publishParts, bind_ok_iff, modify_ok_iff] at run
      obtain ⟨property, between, first, -, _, rfl, later⟩ := run
      have here := publishPart_opens (inner member List.mem_cons_self) first
        fun component among => free component (List.mem_append_left _ among)
      -- The property goes to a type that is open already.
      have extended : Draft.Opens before (between.extendComplexType owner.key property)
          member.met :=
        ⟨(between.openedKeys_extendComplexType _ _).trans here.opened, here.entities⟩
      refine extended.trans (ih (fun other among => inner other (List.mem_cons_of_mem _ among))
        later fun component among => ?_)
      rw [extended.entities]
      exact free component (List.mem_append_right _ among)

/-- **What a published type opens.** The types that a walk through it meets first, in order. -/
theorem publishComponent_opens (component : Component) : component.OpensMet scope := by
  induction component using Component.induction with
  | step component inner =>
      intro before after key run free
      obtain ⟨-, body⟩ := publishComponent_ok_iff.mp run
      have held := Draft.holdsType_eq_contains (free component component.self_mem_nested)
      rw [funext component.met_eq]
      cases met : before.openedKeys.contains component.type.key with
      | true =>
          rw [held, met, if_pos rfl] at body
          subst body
          exact ⟨by rw [if_pos met], rfl⟩
      | false =>
          rw [held, met, if_neg Bool.false_ne_true] at body
          have parts := publishParts_opens inner body fun other among =>
            free other (Component.mem_nested_iff.mpr (.inr among))
          refine ⟨?_, parts.entities⟩
          rw [parts.opened, Draft.openedKeys_openComplexType, if_neg (by rw [met]; simp)]
          rfl

end Embedding

/-! ## Entities -/

section Entities

variable {scope : Scope} {entity : Entity}

theorem draftMember_opens {member : Member} (plain : member.isAssociation = false)
    {before after : Draft} {property : DataProperty}
    (run : draftMember scope entity member before = .ok property after)
    (free : ∀ component ∈ member.nested, component.type.key ∉ before.entityKeys) :
    Draft.Opens before after member.met := by
  cases embeds : member.embedded? with
  | some component =>
      simp only [draftMember, embeds, bind_ok_iff, pure_ok_iff] at run
      obtain ⟨key, _, published, -, rfl⟩ := run
      exact opens_of_embedded (publishComponent_opens component) plain embeds published free
  | none =>
      simp only [draftMember, embeds, bind_ok_iff, pure_ok_iff] at run
      obtain ⟨drafted, _, listed, -, rfl⟩ := run
      rw [funext (Member.met_of_scalar embeds)]
      exact draftScalar_opens listed

theorem draftMembers_opens {members : List Member} {before after : Draft}
    {properties : List DataProperty}
    (run : draftMembers scope entity (scope.inheritedNames entity) members before =
      .ok properties after)
    (free : ∀ component ∈ nestedAmong (members.filter (scope.publishesData entity)),
      component.type.key ∉ before.entityKeys) :
    Draft.Opens before after (metAmong (members.filter (scope.publishesData entity))) := by
  induction members generalizing before properties with
  | nil =>
      obtain ⟨-, rfl⟩ := pure_ok_iff.mp run
      exact .refl before
  | cons member rest ih =>
      cases publishes : scope.publishesData entity member with
      | false =>
          rw [draftMembers_cons_of_not publishes] at run
          rw [List.filter_cons_of_neg (by simp [publishes])] at free ⊢
          exact ih run free
      | true =>
          simp only [draftMembers_cons publishes, bind_ok_iff, pure_ok_iff] at run
          obtain ⟨property, between, first, others, _, later, -, rfl⟩ := run
          rw [List.filter_cons_of_pos publishes] at free ⊢
          have here := draftMember_opens (isAssociation_of_publishesData publishes) first
            fun component among => free component (List.mem_append_left _ among)
          refine here.trans (ih later fun component among => ?_)
          rw [here.entities]
          exact free component (List.mem_append_right _ among)

/-- An entity opens the types that a walk through its data members meets first. -/
theorem publishEntity_met {resource : Option String} {before after : Draft} {value : Unit}
    (run : publishEntity scope resource entity before = .ok value after)
    (free : ∀ component ∈ scope.embeddedTypes entity,
      component.type.key ∉ before.entityKeys ++ [entity.key]) :
    after.openedKeys = metAmong (scope.dataMembers entity) before.openedKeys := by
  obtain ⟨-, name, -, -, drafted, between, profile, drafts, -, -, rfl⟩ :=
    publishEntity_ok_iff.mp run
  have keys : (before.opened (scope.entityType entity resource) name).entityKeys =
      before.entityKeys ++ [entity.key] := List.map_append
  have opens := draftMembers_opens drafts fun component among => keys ▸ free component among
  refine Eq.trans ?_ opens.opened
  -- After its data members an entity opens nothing more: its key only lists enumerations.
  obtain ⟨_, growth, -⟩ := growth_listAll scope between (scope.keyMembers entity)
  show ((between.listAll (scope.keyMembers entity)).complexTypes.map (·.key)).reverse = _
  rw [growth.complexTypes]
  rfl

/-- **What a run opens.** The types that a walk over its entities meets first, in order. -/
theorem publishEntities_met {resourceName : TypeExpr → Option String} {done rest : List Entity}
    {before after : Draft} {value : Unit} (published : Published scope resourceName done before)
    (met : before.openedKeys = scope.meetings done)
    (apart : ∀ component ∈ (done ++ rest).flatMap scope.embeddedTypes,
      component.type.key ∉ (done ++ rest).map (·.key))
    (run : publishEntities scope resourceName rest before = .ok value after) :
    after.openedKeys = scope.meetings (done ++ rest) := by
  induction rest generalizing done before with
  | nil =>
      obtain ⟨-, rfl⟩ := pure_ok_iff.mp run
      rw [List.append_nil]
      exact met
  | cons entity rest ih =>
      obtain ⟨_, between, first, later⟩ := bind_ok_iff.mp run
      have here := publishEntity_met first fun component among taken => by
        refine apart component (List.mem_flatMap.mpr ⟨entity, by simp, among⟩) ?_
        rw [published.entityKeys_eq] at taken
        rw [List.map_append, List.map_cons, List.append_cons]
        exact List.mem_append_left _ taken
      have further := ih (published.snoc first)
        (by rw [here, met, Scope.meetings, Scope.meetings, List.foldl_append]; rfl)
        (by rwa [List.append_assoc]) later
      rwa [List.append_assoc] at further

end Entities

/-! ## Documents -/

/-- In a list without repetitions what stands behind an element are those that make an ordered pair
with it. -/
theorem pair_sublist_iff {α : Type} {before after : List α} {first second : α}
    (distinct : (before ++ first :: after).Nodup) :
    [first, second].Sublist (before ++ first :: after) ↔ second ∈ after := by
  have fresh : first ∉ before := fun among =>
    (List.nodup_append.mp distinct).2.2 first among first List.mem_cons_self rfl
  constructor
  · intro pair
    obtain ⟨left, right, parts, inBefore, inAfter⟩ := List.sublist_append_iff.mp pair
    cases left with
    | nil =>
        subst parts
        exact List.singleton_sublist.mp (List.cons_sublist_cons.mp inAfter)
    | cons head tail =>
        -- The pair would begin in front of its first element.
        obtain ⟨rfl, -⟩ := List.cons.inj parts
        exact (fresh (inBefore.subset List.mem_cons_self)).elim
  · intro among
    exact (List.cons_sublist_cons.mpr (List.singleton_sublist.mpr among)).trans
      (List.sublist_append_right _ _)

section Published

variable {scope : Scope} {resourceName : TypeExpr → Option String} {done : List Entity}
  {draft : Draft} {before after : List StructuralType} {user : StructuralType}

/-- An entity type stands behind all complex types. -/
theorem complexTypes_before_entity (published : Published scope resourceName done draft)
    (split : draft.structuralTypes = before ++ user :: after) (node : user.isComplex = false) :
    ∃ nodes, before = draft.complexTypes ++ nodes := by
  rcases List.append_eq_append_iff.mp split with ⟨nodes, rfl, -⟩ | ⟨rest, complexTypes, tail⟩
  · exact ⟨nodes, rfl⟩
  · cases rest with
    | nil => exact ⟨[], by rw [complexTypes, List.append_nil, List.append_nil]⟩
    | cons type rest =>
        obtain ⟨rfl, -⟩ := List.cons.inj tail
        have opened : user ∈ draft.complexTypes := by
          rw [complexTypes]
          simp
        rw [isComplex_of_mem_complexTypes published opened] at node
        cases node

/-- In front of a complex type stand complex types only. -/
theorem complexTypes_before_complex (published : Published scope resourceName done draft)
    (split : draft.structuralTypes = before ++ user :: after) (complex : user.isComplex = true) :
    ∃ rest, draft.complexTypes = before ++ user :: rest := by
  have noNode : user ∉ draft.entityTypes := fun among => by
    rw [isComplex_of_mem_entityTypes published among] at complex
    cases complex
  rcases List.append_eq_append_iff.mp split with ⟨nodes, -, tail⟩ | ⟨rest, complexTypes, tail⟩
  · exact (noNode (by rw [tail]; simp)).elim
  · cases rest with
    | nil => exact (noNode (by rw [← List.nil_append draft.entityTypes, ← tail]; simp)).elim
    | cons type rest =>
        obtain ⟨rfl, -⟩ := List.cons.inj tail
        exact ⟨rest, complexTypes⟩

/-- An entity type stands behind the types that it names. -/
theorem mem_before_entity (published : Published scope resourceName done draft)
    (apart : ∀ component ∈ done.flatMap scope.embeddedTypes,
      component.type.key ∉ done.map (·.key))
    (split : draft.structuralTypes = before ++ user :: after) (node : user.isComplex = false)
    {property : DataProperty} (shown : property ∈ user.dataProperties) {key : String}
    (complex : property.complexTypeName? = some key) : key ∈ before.map (·.key) := by
  obtain ⟨held, component, embedded, rfl⟩ :=
    exists_component_of_complex published (by simp [split]) shown complex
  obtain ⟨nodes, rfl⟩ := complexTypes_before_entity published split node
  rw [Draft.holdsType_eq_contains (published.entityKeys_eq ▸ apart component embedded),
    List.contains_iff_mem, Draft.openedKeys, List.mem_reverse] at held
  rw [List.map_append]
  exact List.mem_append_left _ held

/-- A complex type stands behind a type exactly if it was opened before it. -/
theorem mem_before_complex_iff (published : Published scope resourceName done draft)
    (split : draft.structuralTypes = before ++ user :: after) (key : String)
    (complex : user.isComplex = true) :
    key ∈ before.map (·.key) ↔ [user.key, key].Sublist draft.openedKeys := by
  obtain ⟨rest, complexTypes⟩ := complexTypes_before_complex published split complex
  have opened : draft.openedKeys =
      (rest.map (·.key)).reverse ++ user.key :: (before.map (·.key)).reverse := by
    simp [Draft.openedKeys, complexTypes]
  have distinct : draft.openedKeys.Nodup := by
    have distinct := published.distinctTypes
    rw [Draft.structuralTypes, List.map_append] at distinct
    exact (List.nodup_reverse).mpr (List.nodup_append.mp distinct).1
  rw [opened, pair_sublist_iff (opened ▸ distinct), List.mem_reverse]

end Published

/-- **The order of complex types.** Take a build that succeeds, where no embedded type has the key of
a participant. Its complex types stand in the reverse of the order in which a walk over the
participants meets them first. An entity type stands behind the types that it names, and a complex
type stands behind one that it names exactly if the walk meets the complex type before the other. -/
theorem build_ordersComplexTypes {catalogue : Catalogue} {options : BuildOptions}
    {edition : Edition} (built : build catalogue options = .ok edition)
    (apart : ∀ component ∈
      (options.participants catalogue).flatMap (options.scope catalogue).embeddedTypes,
        component.type.key ∉ (options.participants catalogue).map (·.key)) :
    edition.document.complexTypes.map (·.key) =
      ((options.scope catalogue).meetings (options.participants catalogue)).reverse ∧
    ∀ before user after, edition.document.structuralTypes = before ++ user :: after →
      ∀ property ∈ user.dataProperties, ∀ key, property.complexTypeName? = some key →
        (user.isComplex = false → key ∈ before.map (·.key)) ∧
        (user.isComplex = true →
          (key ∈ before.map (·.key) ↔ [user.key, key].Sublist
            ((options.scope catalogue).meetings (options.participants catalogue)))) := by
  obtain ⟨draft, run, rfl⟩ := build_ok_iff.mp built
  have published : Published (options.scope catalogue) options.resourceName
      (options.participants catalogue) draft := publishEntities_published (.empty ..) run
  have met : draft.openedKeys =
      (options.scope catalogue).meetings (options.participants catalogue) :=
    publishEntities_met (.empty ..) rfl apart run
  rw [complexTypes_document published, ← met]
  refine ⟨List.reverse_reverse _ |>.symm, ?_⟩
  intro before user after split property shown key complex
  exact ⟨fun node => mem_before_entity published apart split node shown complex,
    mem_before_complex_iff published split key⟩

namespace Shop

def geoPoint : Component :=
  { type := type "GeoPoint"
    members := [number "Latitude" "lat", number "Longitude" "lng"] }

/-- Addresses that embed their position. -/
def locatedAddress : Component :=
  { type := type "Address", members := [number "Zip" "zip", embedding "Position" geoPoint] }

/-- Customers that embed a position, and an address with a position of its own. -/
def places : Catalogue :=
  { entities :=
      [entity "Customer" "Id" [embedding "Position" geoPoint, embedding "Address" locatedAddress]] }

end Shop

/-- Customers meet positions first, so addresses do not stand behind them. -/
theorem build_ordersComplexTypes_places : ∃ edition,
    build Shop.places Sample.options = .ok edition ∧
    edition.document.complexTypes.map (·.key) = ["Address:#Shop", "GeoPoint:#Shop"] ∧
    ∀ before user after, edition.document.structuralTypes = before ++ user :: after →
      ∀ property ∈ user.dataProperties, ∀ key, property.complexTypeName? = some key →
        user.isComplex = true →
          (key ∈ before.map (·.key) ↔
            [user.key, key].Sublist ["GeoPoint:#Shop", "Address:#Shop"]) := by
  have apart : ∀ component ∈ (Sample.options.participants Shop.places).flatMap
      (Sample.options.scope Shop.places).embeddedTypes,
      component.type.key ∉ (Sample.options.participants Shop.places).map (·.key) := by
    decide +kernel
  have met : (Sample.options.scope Shop.places).meetings (Sample.options.participants Shop.places) =
      ["GeoPoint:#Shop", "Address:#Shop"] := by decide +kernel
  obtain ⟨edition, built, -⟩ := exists_edition_of_view (fun _ => ())
    (by decide +kernel : (build Shop.places Sample.options).toOption.map _ = some ())
  obtain ⟨keys, ordered⟩ := build_ordersComplexTypes built apart
  rw [met] at keys ordered
  exact ⟨edition, built, keys, fun before user after split property shown key complex =>
    (ordered before user after split property shown key complex).2⟩

/-- The address of customers embeds a position, but its type stands in front of that of positions,
since customers have met positions before. -/
theorem user_before_used_places : ∃ edition,
    build Shop.places Sample.options = .ok edition ∧
    (∀ component ∈ (Sample.options.participants Shop.places).flatMap
        (Sample.options.scope Shop.places).embeddedTypes,
      component.type.key ∉ (Sample.options.participants Shop.places).map (·.key) ∧
      component.type.key ∉ (nestedAmong component.members).map (·.type.key)) ∧
    ∃ before user after, edition.document.structuralTypes = before ++ user :: after ∧
      (∃ property ∈ user.dataProperties, property.complexTypeName? = some "GeoPoint:#Shop") ∧
      "GeoPoint:#Shop" ∉ before.map (·.key) := by
  obtain ⟨edition, built, view⟩ := exists_edition_of_view
    (fun edition => match edition.document.structuralTypes with
      | [] => false
      | user :: _ => decide (∃ property ∈ user.dataProperties,
          property.complexTypeName? = some "GeoPoint:#Shop"))
    (by decide +kernel : (build Shop.places Sample.options).toOption.map _ = some true)
  refine ⟨edition, built, by decide +kernel, ?_⟩
  split at view
  next => cases view
  next user after listed =>
    exact ⟨[], user, after, listed, of_decide_eq_true view, by simp⟩

end EntityAtlas

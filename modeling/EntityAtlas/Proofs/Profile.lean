import EntityAtlas.EntityMembers
import EntityAtlas.Proofs.EmbeddedTypes
import EntityAtlas.Proofs.Resolution

/-!
# What an entity comes to

The data properties and associations of an entity depend on its scope alone (`Scope.profile`).
Describing the entity adds to the draft the embedded types and enumerations of its members, and
notes of its associations (`describeEntity_ok_iff`). The draft is asked for two things only: that
none of the associations has been recorded, and which embedded types are there already.
-/

set_option autoImplicit false

namespace EntityAtlas

/-! ## Data properties of members -/

namespace Scope

/-- Whether a member becomes a data property of its entity. -/
def publishesData (scope : Scope) (entity : Entity) (member : Member) : Bool :=
  !((scope.inheritedNames entity).contains member.name || member.isAssociation
    || (scope.overrides.ofMember entity.type member.name).ignored.holds)

/-- The members that become data properties of their entity. -/
def dataMembers (scope : Scope) (entity : Entity) : List Member :=
  entity.members.filter (scope.publishesData entity)

/-- The data property of a member that is no association. -/
def memberProperty (scope : Scope) (entity : Entity) (member : Member) : DataProperty :=
  match member.embedded? with
  | some component => scope.embeddedProperty entity.type member component.type.key
  | none =>
    { scope.scalarProperty entity.type member member.nullable with
      isPartOfKey := entity.naturalKey.contains member.name
      isConcurrencyToken := member.name == entity.versionMember }

end Scope

theorem draftMember_grows {scope : Scope} {entity : Entity} {member : Member}
    {before after : Draft} {property : DataProperty} (plain : member.isAssociation = false)
    (run : draftMember scope entity member before = .ok property after) :
    property = scope.memberProperty entity member ∧ member.SettledIn after ∧
      GrowsFrom scope before after member.nested [member] := by
  cases embeds : member.embedded? with
  | some component =>
      simp only [draftMember, embeds, bind_ok_iff, pure_ok_iff] at run
      obtain ⟨key, _, published, rfl, rfl⟩ := run
      obtain ⟨rfl, held, grows⟩ := publishComponent_grows scope component published
      refine ⟨by simp [Scope.memberProperty, embeds], ⟨?_, ?_⟩, ?_⟩
      · intro other same
        rw [embeds] at same
        cases same
        exact held
      · simp [Member.listed?, embeds]
      · rw [Member.nested_of_embedded plain embeds]
        exact grows.mono (fun _ among => among) (by simp)
  | none =>
      simp only [draftMember, embeds, bind_ok_iff, pure_ok_iff] at run
      obtain ⟨drafted, _, listed, rfl, rfl⟩ := run
      obtain ⟨rfl, settled, grows⟩ := draftScalar_growth embeds listed
      exact ⟨by simp [Scope.memberProperty, embeds], settled,
        grows.mono (by simp) fun _ among => among⟩

section Members

variable {scope : Scope} {entity : Entity} {member : Member} {rest members : List Member}

/-- Members that are left out are passed over. -/
theorem draftMembers_cons_of_not (left : scope.publishesData entity member = false) :
    draftMembers scope entity (scope.inheritedNames entity) (member :: rest) =
      draftMembers scope entity (scope.inheritedNames entity) rest := by
  rw [draftMembers, if_pos (Bool.not_eq_false' _ ▸ left)]

theorem draftMembers_cons (published : scope.publishesData entity member = true) :
    draftMembers scope entity (scope.inheritedNames entity) (member :: rest) = (do
      let property ← draftMember scope entity member
      let properties ← draftMembers scope entity (scope.inheritedNames entity) rest
      return property :: properties) := by
  rw [draftMembers, if_neg (Bool.eq_false_iff.mp (Bool.not_eq_true' _ ▸ published))]

theorem isAssociation_of_publishesData (published : scope.publishesData entity member = true) :
    member.isAssociation = false := by
  simp only [Scope.publishesData, Bool.not_eq_true', Bool.or_eq_false_iff] at published
  exact published.1.2

/-- The data properties of the members of an entity, and what they add to the draft. -/
theorem draftMembers_grows {before after : Draft} {properties : List DataProperty}
    (run : draftMembers scope entity (scope.inheritedNames entity) members before =
      .ok properties after) :
    properties =
        (members.filter (scope.publishesData entity)).map (scope.memberProperty entity) ∧
      (∀ member ∈ members.filter (scope.publishesData entity), member.SettledIn after) ∧
      GrowsFrom scope before after (nestedAmong (members.filter (scope.publishesData entity)))
        (members.filter (scope.publishesData entity)) := by
  induction members generalizing before properties with
  | nil =>
      obtain ⟨rfl, rfl⟩ := pure_ok_iff.mp run
      exact ⟨rfl, by simp, .refl scope before [] []⟩
  | cons member rest ih =>
      cases publishes : scope.publishesData entity member with
      | false =>
          rw [draftMembers_cons_of_not publishes] at run
          rw [List.filter_cons_of_neg (by simp [publishes])]
          exact ih run
      | true =>
          simp only [draftMembers_cons publishes, bind_ok_iff, pure_ok_iff] at run
          obtain ⟨property, between, first, others, _, later, rfl, rfl⟩ := run
          obtain ⟨rfl, settled, grows⟩ :=
            draftMember_grows (isAssociation_of_publishesData publishes) first
          obtain ⟨rfl, restSettled, restGrows⟩ := ih later
          rw [List.filter_cons_of_pos publishes]
          refine ⟨rfl, ?_, grows.trans restGrows⟩
          intro other among
          rcases List.mem_cons.mp among with rfl | among
          · exact restGrows.settledIn settled
          · exact restSettled other among

theorem draftMember_of_plain (scope : Scope) (entity : Entity)
    (association : member.isAssociation = false)
    (plain : ArePlain member.nested) (before : Draft) :
    ∃ property after, draftMember scope entity member before = .ok property after := by
  cases embeds : member.embedded? with
  | some component =>
      rw [Member.nested_of_embedded association embeds] at plain
      obtain ⟨after, published⟩ := publishComponent_of_plain scope plain before
      exact ⟨_, after, by
        simp only [draftMember, embeds]
        exact bind_ok_iff.mpr ⟨_, _, published, pure_ok_iff.mpr ⟨rfl, rfl⟩⟩⟩
  | none =>
      exact ⟨_, _, by
        simp only [draftMember, embeds]
        exact bind_ok_iff.mpr ⟨_, _, draftScalar_ok_iff.mpr ⟨rfl, rfl⟩, pure_ok_iff.mpr ⟨rfl, rfl⟩⟩⟩

/-- Members that embed no association at any depth are drafted over every draft. -/
theorem draftMembers_of_plain
    (plain : ArePlain (nestedAmong (members.filter (scope.publishesData entity))))
    (before : Draft) :
    ∃ properties after,
      draftMembers scope entity (scope.inheritedNames entity) members before =
        .ok properties after := by
  induction members generalizing before with
  | nil => exact ⟨[], before, rfl⟩
  | cons member rest ih =>
      cases publishes : scope.publishesData entity member with
      | false =>
          rw [draftMembers_cons_of_not publishes]
          rw [List.filter_cons_of_neg (by simp [publishes])] at plain
          exact ih plain before
      | true =>
          rw [List.filter_cons_of_pos publishes, nestedAmong] at plain
          obtain ⟨property, between, first⟩ := draftMember_of_plain scope entity
            (isAssociation_of_publishesData publishes)
            (plain.of_subset fun _ among => List.mem_append_left _ among) before
          obtain ⟨properties, after, later⟩ :=
            ih (plain.of_subset fun _ among => List.mem_append_right _ among) between
          rw [draftMembers_cons publishes]
          exact ⟨_, after, bind_ok_iff.mpr ⟨property, between, first,
            bind_ok_iff.mpr ⟨properties, after, later, pure_ok_iff.mpr ⟨rfl, rfl⟩⟩⟩⟩

end Members

/-! ## Enumerations of the key -/

/-- The draft with the enumerations of some members listed. -/
def Draft.listAll (draft : Draft) (members : List Member) : Draft :=
  members.foldl Draft.listEnumerationOf draft

theorem listEnumerationOf_note (draft : Draft) (member : Member) (key : String)
    (entries : List (String × String)) (opens : Bool) (made : List Surrogate) :
    (draft.note key entries opens made).listEnumerationOf member =
      (draft.listEnumerationOf member).note key entries opens made := by
  simp only [Draft.listEnumerationOf]
  cases member.enumeration with
  | none => rfl
  | some enumeration =>
      have same : (draft.note key entries opens made).enumTypes = draft.enumTypes := rfl
      simp only [Draft.listEnumeration, same]
      split <;> rfl

theorem listAll_note (draft : Draft) (members : List Member) (key : String)
    (entries : List (String × String)) (opens : Bool) (made : List Surrogate) :
    (draft.note key entries opens made).listAll members =
      (draft.listAll members).note key entries opens made := by
  induction members generalizing draft with
  | nil => rfl
  | cons member rest ih =>
      rw [Draft.listAll, List.foldl_cons, listEnumerationOf_note]
      exact ih _

theorem Draft.Admits.congr {draft other : Draft} {entries : List (String × String)}
    (same : draft.foreignKeys = other.foreignKeys) :
    draft.Admits entries ↔ other.Admits entries :=
  ⟨fun admits => ⟨admits.distinct, same ▸ admits.fresh⟩,
    fun admits => ⟨admits.distinct, same ▸ admits.fresh⟩⟩

/-- Listing the enumerations of members adds those of new names, and in the end every name is
there. -/
theorem growth_listAll (scope : Scope) (draft : Draft) (members : List Member) :
    ∃ enumerations, Growth scope draft (draft.listAll members) [] enumerations ∧
      (∀ enumeration ∈ enumerations, ∃ member ∈ members, member.enumeration = some enumeration) ∧
      ∀ member ∈ members, ∀ enumeration, member.enumeration = some enumeration →
        ∃ type ∈ (draft.listAll members).enumTypes, type.shortName = enumeration.name := by
  induction members generalizing draft with
  | nil => exact ⟨[], .refl scope draft, by simp, by simp⟩
  | cons member rest ih =>
      obtain ⟨first, growth, lists, listed⟩ := growth_listEnumerationOf scope draft member
      obtain ⟨later, restGrowth, restLists, restListed⟩ := ih (draft.listEnumerationOf member)
      refine ⟨first ++ later, growth.trans restGrowth, ?_, ?_⟩
      · intro enumeration among
        rcases List.mem_append.mp among with early | late
        · exact ⟨member, List.mem_cons_self, lists enumeration early⟩
        · obtain ⟨other, inside, has⟩ := restLists enumeration late
          exact ⟨other, List.mem_cons_of_mem _ inside, has⟩
      · intro other among enumeration has
        rcases List.mem_cons.mp among with rfl | among
        · obtain ⟨type, inside, named⟩ := listed enumeration has
          exact ⟨type, restGrowth.enumTypes ▸ List.mem_append_left _ inside, named⟩
        · exact restListed other among enumeration has

/-! ## The key -/

namespace Scope

/-- The data property of a part of the key. -/
def keyProperty (scope : Scope) (entity : Entity) (part : Member) (isNullable : Bool) :
    DataProperty :=
  { scope.scalarProperty entity.type part isNullable with isPartOfKey := true }

/-- Whether a part of a composite identifier becomes a data property. -/
def publishesPart (scope : Scope) (entity : Entity) (part : Member) : Bool :=
  !(scope.inheritedNames entity).contains part.name && !part.isAssociation

/-- What the associations among the parts of a composite identifier come to, and the data
properties once the scalar parts are put in front from a position on. -/
def partResolutions (scope : Scope) (entity : Entity) :
    Nat → List Member → List DataProperty → Except BuildError (List Resolution × List DataProperty)
  | _, [], properties => .ok ([], properties)
  | position, part :: rest, properties =>
    if (scope.inheritedNames entity).contains part.name then
      scope.partResolutions entity position rest properties
    else if part.isAssociation then do
      let resolution ← scope.resolution entity part properties
      let (resolutions, properties) ←
        scope.partResolutions entity position rest (resolution.onto true properties)
      return (resolution :: resolutions, properties)
    else
      scope.partResolutions entity (position + 1) rest
        (properties.insertIdx position (scope.keyProperty entity part part.nullable))

/-- What the identifier comes to, and the data properties with the identifier in front. -/
def keyResolutions (scope : Scope) (entity : Entity) (properties : List DataProperty) :
    Except BuildError (List Resolution × List DataProperty) :=
  match entity.identifier, entity.keyParts? with
  | none, _ => .ok ([], properties)
  | some _, some parts => scope.partResolutions entity 0 parts properties
  | some identifier, none =>
    if (scope.inheritedNames entity).contains identifier.name then .ok ([], properties)
    else .ok ([], properties.insertIdx 0 (scope.keyProperty entity identifier false))

/-- The members that make up the key as data properties. -/
def keyMembers (scope : Scope) (entity : Entity) : List Member :=
  match entity.identifier, entity.keyParts? with
  | none, _ => []
  | some _, some parts => parts.filter (scope.publishesPart entity)
  | some identifier, none =>
    if (scope.inheritedNames entity).contains identifier.name then [] else [identifier]

end Scope

/-- The worksheet after some associations are resolved, with given data properties. -/
def Worksheet.noted (sheet : Worksheet) (entity : Entity) (members : List Member)
    (resolutions : List Resolution) (opens : Bool) (properties : List DataProperty) : Worksheet :=
  { draft := (sheet.draft.listAll members).note entity.key (resolutions.flatMap (·.entries)) opens
      (resolutions.flatMap (·.carrier.surrogates))
    properties }

theorem draftKey_ok_iff {scope : Scope} {entity : Entity} {part : Member} {isNullable : Bool}
    {before after : Draft} {property : DataProperty} :
    draftKey scope entity part isNullable before = .ok property after ↔
      property = scope.keyProperty entity part isNullable ∧
        after = before.listEnumerationOf part := by
  simp only [draftKey, bind_ok_iff, draftScalar_ok_iff, pure_ok_iff, Scope.keyProperty]
  grind

section Key

variable {scope : Scope} {entity : Entity}

theorem noted_nil (sheet : Worksheet) (entity : Entity) :
    sheet.noted entity [] [] false sheet.properties = sheet := by
  simp [Worksheet.noted, Draft.listAll, note_nil]

/-- Noting in turn is noting together. -/
theorem noted_noted (sheet : Worksheet) (entity : Entity) (members others : List Member)
    (first second : List Resolution) (opens reopens : Bool)
    (properties more : List DataProperty) :
    (sheet.noted entity members first opens properties).noted entity others second reopens more =
      sheet.noted entity (members ++ others) (first ++ second) (opens || reopens) more := by
  simp only [Worksheet.noted, listAll_note, note_note, List.flatMap_append]
  simp only [Draft.listAll, List.foldl_append]

theorem foreignKeys_listAll (draft : Draft) (members : List Member) :
    (draft.listAll members).foreignKeys = draft.foreignKeys := by
  obtain ⟨_, growth, -, -⟩ := growth_listAll { catalogue := {} } draft members
  exact growth.foreignKeys

/-- What is admitted in turn is admitted together. -/
theorem admits_noted_iff (sheet : Worksheet) (entity : Entity) (members : List Member)
    (first second : List Resolution) (opens : Bool) (properties : List DataProperty) :
    sheet.draft.Admits ((first ++ second).flatMap (·.entries)) ↔
      sheet.draft.Admits (first.flatMap (·.entries)) ∧
        (sheet.noted entity members first opens properties).draft.Admits
          (second.flatMap (·.entries)) := by
  rw [List.flatMap_append, Draft.Admits.append_iff entity.key _ _ opens
    (first.flatMap (·.carrier.surrogates))]
  refine and_congr_right fun _ => Draft.Admits.congr ?_
  simp [Worksheet.noted, Draft.note, foreignKeys_listAll]

theorem resolved_eq_noted (sheet : Worksheet) (partOfKey : Bool) (resolution : Resolution) :
    sheet.resolved entity partOfKey resolution =
      sheet.noted entity [] [resolution] false (resolution.onto partOfKey sheet.properties) := by
  simp [Worksheet.resolved, Worksheet.noted, Draft.listAll]

/-- What a step that gives navigation properties does on every worksheet: it succeeds exactly when
its plan does and nothing has been recorded before, and then it only notes. -/
structure Follows (step : Describing (List NavigationProperty)) (entity : Entity)
    (plan : List DataProperty → Except BuildError (List Resolution × List DataProperty))
    (members : List Member) (opens : Bool) : Prop where
  ok_iff : ∀ {before after : Worksheet} {navigations : List NavigationProperty},
    step before = .ok navigations after ↔
      ∃ resolutions properties, plan before.properties = .ok (resolutions, properties) ∧
        before.draft.Admits (resolutions.flatMap (·.entries)) ∧
        navigations = resolutions.map (·.navigation) ∧
        after = before.noted entity members resolutions opens properties

namespace Follows

variable {step next : Describing (List NavigationProperty)}
  {plan later : List DataProperty → Except BuildError (List Resolution × List DataProperty)}
  {members others : List Member} {opens reopens : Bool}

/-- Nothing is described. -/
theorem nothing : Follows (pure []) entity (fun properties => .ok ([], properties)) [] false := by
  constructor
  intro before after navigations
  simp only [pure_ok_iff, Except.ok.injEq, Prod.mk.injEq]
  constructor
  · rintro ⟨rfl, rfl⟩
    exact ⟨[], _, ⟨rfl, rfl⟩, .nil _, rfl, (noted_nil before entity).symm⟩
  · rintro ⟨_, _, ⟨rfl, rfl⟩, -, rfl, rfl⟩
    exact ⟨rfl, (noted_nil before entity).symm⟩

/-- A change of the worksheet comes first. -/
theorem change {first : Describing Unit} (follows : Follows step entity plan others reopens)
    (properties : List DataProperty → List DataProperty)
    (changes : ∀ {before after : Worksheet}, first before = .ok () after ↔
      after = before.noted entity members [] opens (properties before.properties)) :
    Follows (first >>= fun _ => step) entity (fun given => plan (properties given))
      (members ++ others) (opens || reopens) := by
  constructor
  intro before after navigations
  simp only [bind_ok_iff, changes, follows.ok_iff]
  constructor
  · rintro ⟨-, _, rfl, resolutions, given, planned, admitted, rfl, rfl⟩
    refine ⟨resolutions, given, planned, ?_, rfl, noted_noted ..⟩
    exact (admits_noted_iff _ _ _ [] ..).mpr ⟨.nil _, admitted⟩
  · rintro ⟨resolutions, given, planned, admitted, rfl, rfl⟩
    exact ⟨(), _, rfl, resolutions, given, planned, ((admits_noted_iff _ _ _ [] ..).mp admitted).2,
      rfl, (noted_noted before entity members others [] resolutions ..).symm⟩

/-- An association is described first. -/
theorem cons {association : Member} {partOfKey : Bool}
    (follows : Follows step entity plan members opens) :
    Follows (do
        let navigation ← describeAssociation scope entity association partOfKey
        let navigations ← step
        return navigation :: navigations) entity
      (fun given => do
        let resolution ← scope.resolution entity association given
        let (resolutions, properties) ← plan (resolution.onto partOfKey given)
        return (resolution :: resolutions, properties))
      members opens := by
  constructor
  intro before after navigations
  simp only [bind_ok_iff, describeAssociation_ok_iff, follows.ok_iff, pure_ok_iff,
    except_bind_ok_iff, except_pure_ok_iff, Prod.exists, Prod.mk.injEq]
  constructor
  · rintro ⟨_, _, ⟨resolution, comes, admitted, rfl, rfl⟩, _, _,
      ⟨resolutions, given, planned, restAdmitted, rfl, rfl⟩, rfl, rfl⟩
    rw [resolved_eq_noted] at planned restAdmitted ⊢
    refine ⟨_, given, ⟨resolution, comes, resolutions, given, planned, rfl, rfl⟩, ?_, rfl,
      noted_noted ..⟩
    exact (admits_noted_iff _ _ _ [resolution] ..).mpr ⟨by simpa using admitted, restAdmitted⟩
  · rintro ⟨_, _, ⟨resolution, comes, resolutions, given, planned, rfl, rfl⟩, admitted, rfl, rfl⟩
    have split := (admits_noted_iff before entity [] [resolution] resolutions false
      (resolution.onto partOfKey before.properties)).mp admitted
    refine ⟨_, _, ⟨resolution, comes, by simpa using split.1, rfl, rfl⟩, _, _,
      ⟨resolutions, given, ?_, ?_, rfl, rfl⟩, rfl, ?_⟩
    · rw [resolved_eq_noted]
      exact planned
    · rw [resolved_eq_noted]
      exact split.2
    · rw [resolved_eq_noted]
      exact noted_noted ..

/-- Two steps with a change of the data properties between them. -/
theorem append (first : Follows step entity plan members opens)
    (properties : List DataProperty → List DataProperty)
    (second : Follows next entity later others reopens) :
    Follows (do
        let navigations ← step
        modify fun sheet => { sheet with properties := properties sheet.properties }
        let more ← next
        return navigations ++ more) entity
      (fun given => do
        let (resolutions, given) ← plan given
        let (more, given) ← later (properties given)
        return (resolutions ++ more, given))
      (members ++ others) (opens || reopens) := by
  constructor
  intro before after navigations
  simp only [bind_ok_iff, first.ok_iff, second.ok_iff, modify_ok_iff, pure_ok_iff,
    except_bind_ok_iff, except_pure_ok_iff, Prod.exists, Prod.mk.injEq]
  constructor
  · rintro ⟨_, _, ⟨resolutions, given, planned, admitted, rfl, rfl⟩, -, _, rfl, _, _,
      ⟨more, final, restPlanned, restAdmitted, rfl, rfl⟩, rfl, rfl⟩
    refine ⟨_, final, ⟨resolutions, given, planned, more, final, restPlanned, rfl, rfl⟩, ?_,
      by simp, noted_noted ..⟩
    exact (admits_noted_iff ..).mpr ⟨admitted, restAdmitted⟩
  · rintro ⟨_, _, ⟨resolutions, given, planned, more, final, restPlanned, rfl, rfl⟩, admitted, rfl,
      rfl⟩
    have split := (admits_noted_iff before entity members resolutions more opens
      (properties given)).mp admitted
    exact ⟨_, _, ⟨resolutions, given, planned, split.1, rfl, rfl⟩, (), _, rfl, _, _,
      ⟨more, final, restPlanned, split.2, rfl, rfl⟩, by simp, noted_noted ..⟩

/-- The plan may be written in another way. -/
theorem of_eq (follows : Follows step entity plan members opens)
    (same : ∀ given, later given = plan given) : Follows step entity later members opens :=
  funext same ▸ follows

end Follows

/-- Putting a scalar part of the key at a position. -/
theorem insertKey_ok_iff (scope : Scope) (entity : Entity) (part : Member) (isNullable : Bool)
    (position : Nat) {before after : Worksheet} :
    (do
        let property ← onDraft (draftKey scope entity part isNullable)
        modify (·.insertProperty position property) : Describing Unit) before = .ok () after ↔
      after = before.noted entity [part] [] false
        (before.properties.insertIdx position (scope.keyProperty entity part isNullable)) := by
  simp only [bind_ok_iff, onDraft_ok_iff, draftKey_ok_iff, modify_ok_iff, Worksheet.noted,
    List.flatMap_nil, note_nil, Draft.listAll, List.foldl_cons, List.foldl_nil]
  constructor
  · rintro ⟨_, _, ⟨_, ⟨rfl, rfl⟩, rfl⟩, rfl⟩
    rfl
  · rintro rfl
    exact ⟨_, _, ⟨_, ⟨rfl, rfl⟩, rfl⟩, rfl⟩

theorem Follows.insertKey (scope : Scope) (part : Member) (isNullable : Bool) (position : Nat)
    {step : Describing (List NavigationProperty)}
    {plan : List DataProperty → Except BuildError (List Resolution × List DataProperty)}
    {members : List Member} {opens : Bool} (follows : Follows step entity plan members opens) :
    Follows (do
        let property ← onDraft (draftKey scope entity part isNullable)
        modify (·.insertProperty position property)
        step) entity
      (fun given => plan (given.insertIdx position (scope.keyProperty entity part isNullable)))
      (part :: members) opens := by
  have inserted := follows.change
    (fun given => given.insertIdx position (scope.keyProperty entity part isNullable))
    (insertKey_ok_iff scope entity part isNullable position)
  rw [bind_assoc, Bool.false_or] at inserted
  exact inserted

theorem describeKeyParts_follows (position : Nat) (parts : List Member) :
    Follows (describeKeyParts scope entity (scope.inheritedNames entity) position parts) entity
      (scope.partResolutions entity position parts) (parts.filter (scope.publishesPart entity))
      false := by
  induction parts generalizing position with
  | nil => exact Follows.nothing.of_eq fun _ => rfl
  | cons part rest ih =>
      rw [describeKeyParts]
      cases inherited : (scope.inheritedNames entity).contains part.name with
      | true =>
          rw [if_pos rfl, List.filter_cons_of_neg
            (by simp only [Scope.publishesPart, inherited]; simp)]
          exact (ih position).of_eq fun given => by simp only [Scope.partResolutions, inherited,
            ↓reduceIte]
      | false =>
          rw [if_neg (by simp)]
          cases association : part.isAssociation with
          | true =>
              rw [if_pos rfl, List.filter_cons_of_neg (by simp [Scope.publishesPart, association])]
              exact (ih position).cons.of_eq fun given => by simp only [Scope.partResolutions,
                inherited, association, Bool.false_eq_true, ↓reduceIte]
          | false =>
              rw [if_neg (by simp), List.filter_cons_of_pos
                (by simp only [Scope.publishesPart, inherited, association]; rfl)]
              exact ((ih (position + 1)).insertKey scope part part.nullable position).of_eq
                fun given => by simp only [Scope.partResolutions, inherited, association,
                  Bool.false_eq_true, ↓reduceIte]

theorem describeIdentifier_follows (scope : Scope) (entity : Entity) :
    Follows (describeIdentifier scope entity (scope.inheritedNames entity)) entity
      (scope.keyResolutions entity) (scope.keyMembers entity) false := by
  unfold describeIdentifier Scope.keyResolutions Scope.keyMembers
  cases entity.identifier with
  | none => exact Follows.nothing.of_eq fun _ => rfl
  | some identifier =>
      cases entity.keyParts? with
      | some parts => exact describeKeyParts_follows 0 parts
      | none =>
          cases inherited : (scope.inheritedNames entity).contains identifier.name with
          | true =>
              simp only [inherited, Bool.not_true, Bool.false_eq_true, ↓reduceIte]
              exact Follows.nothing
          | false =>
              simp only [inherited, Bool.not_false, Bool.false_eq_true, ↓reduceIte]
              exact Follows.nothing.insertKey scope identifier false 0

end Key

/-! ## Associations -/

namespace Scope

/-- Whether an association becomes a navigation property of its entity. -/
def publishesLink (scope : Scope) (entity : Entity) (member : Member) : Bool :=
  member.isAssociation && !(scope.inheritedNames entity).contains member.name &&
    !(scope.overrides.ofMember entity.type member.name).ignored.holds

/-- Whether an entity has an association that it leaves to an ancestor. -/
def inheritsLink (scope : Scope) (entity : Entity) (members : List Member) : Bool :=
  members.any fun member =>
    member.isAssociation && (scope.inheritedNames entity).contains member.name

/-- What associations come to in order, and the data properties with their surrogates. -/
def linkResolutions (scope : Scope) (entity : Entity) :
    List Member → List DataProperty → Except BuildError (List Resolution × List DataProperty)
  | [], properties => .ok ([], properties)
  | member :: rest, properties => do
    let resolution ← scope.resolution entity member properties
    let (resolutions, properties) ←
      scope.linkResolutions entity rest (resolution.onto false properties)
    return (resolution :: resolutions, properties)

end Scope

theorem ensureSurrogates_ok_iff {entity : Entity} {before after : Worksheet} :
    (onDraft (modify (·.ensureSurrogates entity.type)) : Describing Unit) before = .ok () after ↔
      after = before.noted entity [] [] true before.properties := by
  simp only [onDraft_ok_iff, modify_ok_iff, ensureSurrogates_eq_note, exists_eq_left',
    Worksheet.noted, List.flatMap_nil, Draft.listAll, List.foldl_nil, Entity.key]
  exact eq_comm

theorem describeAssociations_follows (scope : Scope) (entity : Entity) (members : List Member) :
    Follows (describeAssociations scope entity (scope.inheritedNames entity) members) entity
      (scope.linkResolutions entity (members.filter (scope.publishesLink entity))) []
      (scope.inheritsLink entity members) := by
  induction members with
  | nil => exact Follows.nothing.of_eq fun _ => rfl
  | cons member rest ih =>
      have passed : scope.publishesLink entity member = false →
          (member :: rest).filter (scope.publishesLink entity) =
            rest.filter (scope.publishesLink entity) :=
        fun left => List.filter_cons_of_neg (by simp [left])
      simp only [describeAssociations, Scope.inheritsLink, List.any_cons]
      cases association : member.isAssociation with
      | false =>
          rw [passed (by simp [Scope.publishesLink, association])]
          simpa [Scope.inheritsLink] using ih
      | true =>
          cases inherited : (scope.inheritedNames entity).contains member.name with
          | true =>
              rw [passed (by simp only [Scope.publishesLink, association, inherited]; rfl)]
              exact (ih.change id ensureSurrogates_ok_iff).of_eq fun _ => rfl
          | false =>
              cases ignored : (scope.overrides.ofMember entity.type member.name).ignored.holds with
              | true =>
                  rw [passed (by simp [Scope.publishesLink, ignored])]
                  simpa [Scope.inheritsLink] using ih
              | false =>
                  rw [List.filter_cons_of_pos (by
                    simp only [Scope.publishesLink, association, inherited, ignored]; rfl)]
                  exact ih.cons.of_eq fun _ => rfl

/-! ## Entities -/

/-- The data properties of an entity with what its associations come to. -/
structure Profile where
  properties : List DataProperty := []
  resolutions : List Resolution := []
deriving Inhabited

namespace Profile

/-- The navigation properties of an entity. -/
def navigations (profile : Profile) : List NavigationProperty :=
  profile.resolutions.map (·.navigation)

/-- What is recorded of the associations of an entity. -/
def entries (profile : Profile) : List (String × String) :=
  profile.resolutions.flatMap (·.entries)

/-- The surrogates made for the associations of an entity. -/
def surrogates (profile : Profile) : List Surrogate :=
  profile.resolutions.flatMap (·.carrier.surrogates)

end Profile

namespace Scope

/-- The associations that become navigation properties of their entity, the key aside. -/
def linkMembers (scope : Scope) (entity : Entity) : List Member :=
  entity.members.filter (scope.publishesLink entity)

/-- What the associations of an entity come to, the key first, over its data properties. -/
def profile (scope : Scope) (entity : Entity) : Except BuildError Profile := do
  let (keys, properties) ←
    scope.keyResolutions entity ((scope.dataMembers entity).map (scope.memberProperty entity))
  let (links, properties) ←
    scope.linkResolutions entity (scope.linkMembers entity)
      (properties ++ customProperties scope entity)
  return { properties, resolutions := keys ++ links }

end Scope

/-- A profile is made of what the key comes to and then of what the other associations come
to. -/
theorem profile_ok_iff {scope : Scope} {entity : Entity} {profile : Profile} :
    scope.profile entity = .ok profile ↔
      ∃ keys properties links,
        scope.keyResolutions entity ((scope.dataMembers entity).map (scope.memberProperty entity)) =
          .ok (keys, properties) ∧
        scope.linkResolutions entity (scope.linkMembers entity)
          (properties ++ customProperties scope entity) = .ok (links, profile.properties) ∧
        profile.resolutions = keys ++ links := by
  simp only [Scope.profile, except_bind_ok_iff, except_pure_ok_iff, Prod.exists]
  constructor
  · rintro ⟨keys, properties, planned, links, _, linked, rfl⟩
    exact ⟨keys, properties, links, planned, linked, rfl⟩
  · rintro ⟨keys, properties, links, planned, linked, same⟩
    exact ⟨keys, properties, planned, links, _, linked, same ▸ rfl⟩

theorem describeEntity_ok_iff_members {scope : Scope} {entity : Entity} {before after : Draft}
    {properties : List DataProperty} {navigations : List NavigationProperty} :
    describeEntity scope entity before = .ok (properties, navigations) after ↔
      describeMembers scope entity { draft := before } =
        .ok navigations { draft := after, properties } := by
  unfold describeEntity
  cases describeMembers scope entity { draft := before } with
  | ok given sheet =>
      simp only [EStateM.Result.ok.injEq, Prod.mk.injEq]
      constructor
      · rintro ⟨⟨rfl, rfl⟩, rfl⟩
        exact ⟨rfl, rfl⟩
      · rintro ⟨rfl, rfl⟩
        exact ⟨⟨rfl, rfl⟩, rfl⟩
  | error error sheet => simp

/-- **Describing an entity.** It succeeds exactly when its members are drafted, its associations
come to something, and none of these has been recorded before. -/
theorem describeEntity_ok_iff {scope : Scope} {entity : Entity} {before after : Draft}
    {properties : List DataProperty} {navigations : List NavigationProperty} :
    describeEntity scope entity before = .ok (properties, navigations) after ↔
      ∃ drafted between profile,
        draftMembers scope entity (scope.inheritedNames entity) entity.members before =
          .ok drafted between ∧
        scope.profile entity = .ok profile ∧ between.Admits profile.entries ∧
        properties = profile.properties ∧ navigations = profile.navigations ∧
        after = (between.listAll (scope.keyMembers entity)).note entity.key profile.entries
          (scope.inheritsLink entity entity.members) profile.surrogates := by
  have associations := (describeIdentifier_follows scope entity).append
    (fun given => given ++ customProperties scope entity)
    (describeAssociations_follows scope entity entity.members)
  rw [List.append_nil, Bool.false_or] at associations
  rw [describeEntity_ok_iff_members]
  simp only [describeMembers]
  constructor
  · intro run
    obtain ⟨drafted, _, first, run⟩ := bind_ok_iff.mp run
    obtain ⟨between, drafts, rfl⟩ := onDraft_ok_iff.mp first
    obtain ⟨_, _, filled, run⟩ := bind_ok_iff.mp run
    obtain rfl := modify_ok_iff.mp filled
    obtain ⟨resolutions, final, planned, admitted, rfl, noted⟩ := associations.ok_iff.mp run
    obtain ⟨rfl, rfl⟩ := Worksheet.mk.injEq .. ▸ noted
    obtain ⟨rfl, -⟩ := draftMembers_grows drafts
    simp only [except_bind_ok_iff, except_pure_ok_iff, Prod.exists, Prod.mk.injEq] at planned
    obtain ⟨keys, given, ofKey, links, _, ofLinks, rfl, rfl⟩ := planned
    exact ⟨_, between, ⟨_, keys ++ links⟩, drafts,
      profile_ok_iff.mpr ⟨keys, given, links, ofKey, ofLinks, rfl⟩, admitted, rfl, rfl, rfl⟩
  · rintro ⟨drafted, between, profile, drafts, profiled, admitted, rfl, rfl, rfl⟩
    obtain ⟨rfl, -⟩ := draftMembers_grows drafts
    obtain ⟨keys, given, links, ofKey, ofLinks, same⟩ := profile_ok_iff.mp profiled
    refine bind_ok_iff.mpr ⟨_, _, onDraft_ok_iff.mpr ⟨between, drafts, rfl⟩, ?_⟩
    refine bind_ok_iff.mpr ⟨(), _, modify_ok_iff.mpr rfl, ?_⟩
    refine associations.ok_iff.mpr
      ⟨profile.resolutions, profile.properties, ?_, admitted, rfl, rfl⟩
    simp only [except_bind_ok_iff, except_pure_ok_iff, Prod.exists, Prod.mk.injEq]
    exact ⟨keys, given, ofKey, links, _, ofLinks, same.symm, rfl⟩

end EntityAtlas

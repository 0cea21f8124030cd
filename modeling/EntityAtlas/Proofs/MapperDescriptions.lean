import EntityAtlas.Mapper.Registry
import EntityAtlas.Proofs.ItemByItem
import Mathlib.Data.List.Nodup

/-!
# Entities that mappers describe

An attribute of a mapper makes a member of its own, unless it is over columns of which one belongs
to the key or to a composite (`Mapper.MakesMember`). Such columns are not lost. The columns of the
key make the identifier or its parts, one for each column in order, under the names of the
attributes that the lookup finds for them. The columns of a composite make the members of its
embedded type, likewise in order (`Member.StandsFor`). A member made from a column shows what the
column stores (`Member.IsOver`). So the entity of a configured mapper accounts for all its
attributes, and it has no name twice (`entityOf_describes`). What is asked of the lookup is only
that it finds for each column some attribute that holds it, and different ones for different columns
of the key (`Mapper.IsConfigured`).
-/

set_option autoImplicit false

namespace EntityAtlas

theorem holdsColumn_iff {columns : List TableColumn} {column : TableColumn} :
    holdsColumn columns column = true ↔ ∃ own ∈ columns, own.label = column.label := by
  simp [holdsColumn]

namespace Mapper

/-! ## Which attributes make members -/

/-- Whether a column belongs to the primary key or to a composite. -/
def Reserves (mapper : Mapper) (column : TableColumn) : Prop :=
  (∃ own ∈ mapper.primaryKey, own.label = column.label) ∨
    ∃ name type columns, (name, Attribute.composite type columns) ∈ mapper.attributes ∧
      ∃ own ∈ columns, own.label = column.label

/-- Whether an attribute makes a member of its own: a relationship, a composite, or columns none of
which belongs to the key or to a composite. -/
def MakesMember (mapper : Mapper) : Attribute → Prop
  | .columns columns => ∀ column ∈ columns, ¬ mapper.Reserves column
  | .composite _ _ => True
  | .relationship _ => True
  | .other => False

theorem mem_compositeColumns_iff {mapper : Mapper} {column : TableColumn} :
    column ∈ mapper.compositeColumns ↔
      ∃ name type columns, (name, Attribute.composite type columns) ∈ mapper.attributes ∧
        column ∈ columns := by
  rw [compositeColumns, List.mem_flatMap]
  constructor
  · rintro ⟨⟨name, content⟩, among, inside⟩
    cases content with
    | composite type columns => exact ⟨name, type, columns, among, inside⟩
    | columns | relationship | other => cases inside
  · rintro ⟨name, type, columns, among, inside⟩
    exact ⟨_, among, inside⟩

theorem claims_iff {mapper : Mapper} {columns : List TableColumn} :
    mapper.claims columns = true ↔ ∃ column ∈ columns, mapper.Reserves column := by
  simp only [claims, List.any_eq_true, Bool.or_eq_true, holdsColumn_iff, mem_compositeColumns_iff,
    Reserves]
  grind

theorem makesMember_columns_iff {mapper : Mapper} {columns : List TableColumn} :
    mapper.MakesMember (.columns columns) ↔ mapper.claims columns = false := by
  rw [← Bool.not_eq_true, claims_iff, MakesMember]
  simp

instance (mapper : Mapper) : DecidablePred mapper.MakesMember
  | .columns _ => decidable_of_iff _ makesMember_columns_iff.symm
  | .composite _ _ => isTrue trivial
  | .relationship _ => isTrue trivial
  | .other => isFalse id

/-- What a mapper is configured for: attributes, and a lookup of the attribute of a column. -/
structure IsConfigured (mapper : Mapper) (attributeOf : AttributeLookup) : Prop where
  /-- No two attributes have one name. -/
  distinctNames : (mapper.attributes.map Prod.fst).Nodup
  /-- An attribute over columns is over one at least. -/
  stored : ∀ name, (name, Attribute.columns []) ∉ mapper.attributes
  /-- A record class has a field for each column of its composite. -/
  fields : ∀ name type columns, (name, Attribute.composite type columns) ∈ mapper.attributes →
    ∀ names, type.fields = some names → names.length = columns.length
  /-- For the columns of the key and of the version the lookup finds an attribute over columns that
  holds them. -/
  found : ∀ column ∈ mapper.primaryKey ++ mapper.version.toList, ∃ name columns,
    attributeOf column = .ok name ∧ (name, Attribute.columns columns) ∈ mapper.attributes ∧
      holdsColumn columns column = true
  /-- The columns of the key belong to different attributes. -/
  apart : (mapper.primaryKey.map attributeOf).Nodup

end Mapper

/-! ## What an entity says of a mapper -/

/-- A scalar member shows what a column stores. Its name, and whether it may be null, depend on
where the column is used. -/
structure Member.IsOver (member : Member) (column : TableColumn) : Prop where
  columns : member.columns = [some column.name]
  type : member.type = column.valueType
  length : member.length =
    if TableColumn.textTypes.contains column.typeName then column.length else none
  enumeration : member.enumeration =
    if column.typeName = "Enum" then column.enumeration else none
  association : member.isAssociation = false
  embedded : member.embedded? = none

/-- A member stands for an attribute: it has its name, it is an association if the attribute is a
relationship, and it embeds a type if the attribute is a composite. -/
structure Member.StandsFor (member : Member) (mapped : String × Attribute) : Prop where
  named : member.name = some mapped.1
  association : member.isAssociation = true ↔
    ∃ relationship, mapped.2 = .relationship relationship
  embedded : member.embedded?.isSome = true ↔ ∃ type columns, mapped.2 = .composite type columns
  /-- For columns of a table it is over all of them; expressions have no column. -/
  stored : ∀ first rest, mapped.2 = .columns (first :: rest) → first.isExpression = false →
    member.type = first.valueType ∧
      member.columns = ((first :: rest).filter (!·.isExpression)).map (some ·.name) ∧
      member.nullable = ((first :: rest).filter (!·.isExpression)).all (·.nullable)
  /-- For a composite its type has a part over each column, in order. -/
  parts : ∀ type columns, mapped.2 = .composite type columns →
    ∃ component, member.embedded? = some component ∧
      List.Forall₂ (fun column part => part.IsOver column ∧ part.nullable = column.nullable)
        columns component.members

/-- A part of the key is over a column, is never null, and has the name of the attribute that a
lookup finds for the column. -/
structure Member.IsKeyPart (part : Member) (attributeOf : AttributeLookup) (column : TableColumn) :
    Prop where
  isOver : part.IsOver column
  required : part.nullable = false
  named : ∃ name, attributeOf column = .ok name ∧ part.name = some name

namespace Entity

/-- The identifier, or its parts if it is a composite one. -/
def keyScalars (entity : Entity) : List Member :=
  entity.keyParts?.getD entity.identifier.toList

/-- An entity carries a column of a mapper: it is a column of the key, and the identifier or a part
of it is over it, or it is a column of a composite, and a part of the type that the composite embeds
is over it. -/
inductive Carries (entity : Entity) (mapper : Mapper) (column : TableColumn) : Prop
  | key {own : TableColumn} {part : Member} (inKey : own ∈ mapper.primaryKey)
      (same : own.label = column.label) (shown : part ∈ entity.keyScalars)
      (isOver : part.IsOver own)
  | composite {name : String} {type : CompositeClass} {columns : List TableColumn}
      {own : TableColumn} {member part : Member} {component : Component}
      (among : (name, Attribute.composite type columns) ∈ mapper.attributes)
      (inside : own ∈ columns) (same : own.label = column.label) (shown : member ∈ entity.members)
      (named : member.name = some name) (embeds : member.embedded? = some component)
      (held : part ∈ component.members) (isOver : part.IsOver own)

/-- An entity accounts for the attributes of a mapper. -/
structure Describes (entity : Entity) (mapper : Mapper) (attributeOf : AttributeLookup) :
    Prop where
  distinctNames : (entity.memberNames ++ entity.identifierNames).Nodup
  /-- The members stand for the attributes that make members, in order. -/
  members : List.Forall₂ (fun mapped member => member.StandsFor mapped)
    (mapper.attributes.filter fun mapped => mapper.MakesMember mapped.2) entity.members
  /-- The columns of the key make up the identifier, in order. -/
  key : List.Forall₂ (fun column part => part.IsKeyPart attributeOf column)
    mapper.primaryKey entity.keyScalars
  /-- Any other attribute over columns has a column that the entity carries elsewhere. -/
  complete : ∀ name columns, (name, Attribute.columns columns) ∈ mapper.attributes →
    ¬ mapper.MakesMember (.columns columns) → ∃ column ∈ columns, entity.Carries mapper column

end Entity

/-! ## Members over columns -/

theorem isOver_toMember (column : TableColumn) (name : String) :
    (column.toMember name).IsOver column :=
  ⟨rfl, rfl, rfl, rfl, rfl, rfl⟩

/-- As long as there are names enough, each column makes a part of its own. -/
theorem parts_areOver {names : List String} {columns : List TableColumn}
    (enough : columns.length ≤ names.length) :
    List.Forall₂ (fun column part => part.IsOver column ∧ part.nullable = column.nullable) columns
      ((names.zip columns).map fun (name, column) => column.toMember name) := by
  induction columns generalizing names with
  | nil =>
      rw [List.zip_nil_right]
      exact .nil
  | cons column rest ih =>
      cases names with
      | nil => simp at enough
      | cons name names =>
          exact .cons ⟨isOver_toMember column name, rfl⟩ (ih (Nat.le_of_succ_le_succ enough))

/-! ## Members of attributes -/

section Members

variable {registry : MapperRegistry} {mapper : Mapper}

/-- An attribute that makes no member leaves none. -/
theorem attributeMembers_of_not {mapped : String × Attribute}
    (left : ¬ mapper.MakesMember mapped.2) : registry.attributeMembers mapper mapped = [] := by
  obtain ⟨name, content⟩ := mapped
  cases content with
  | columns columns =>
      rw [Mapper.makesMember_columns_iff, Bool.not_eq_false] at left
      rw [MapperRegistry.attributeMembers, left, if_pos rfl]
  | composite type columns => exact (left trivial).elim
  | relationship relationship => exact (left trivial).elim
  | other => rfl

theorem standsFor_columns {member : Member} {name : String} {first : TableColumn}
    {rest : List TableColumn} (named : member.name = some name)
    (plain : member.isAssociation = false) (scalar : member.embedded? = none)
    (stored : first.isExpression = false → member.type = first.valueType ∧
      member.columns = ((first :: rest).filter (!·.isExpression)).map (some ·.name) ∧
      member.nullable = ((first :: rest).filter (!·.isExpression)).all (·.nullable)) :
    member.StandsFor (name, .columns (first :: rest)) := by
  refine ⟨named, by simp [plain], by simp [scalar], ?_, nofun⟩
  rintro _ _ ⟨⟩
  exact stored

theorem standsFor_composite {member : Member} {name : String} {type : CompositeClass}
    {columns : List TableColumn} {component : Component} (named : member.name = some name)
    (plain : member.isAssociation = false) (embeds : member.embedded? = some component)
    (parts : List.Forall₂ (fun column part => part.IsOver column ∧ part.nullable = column.nullable)
      columns component.members) : member.StandsFor (name, .composite type columns) := by
  refine ⟨named, by simp [plain], by simp [embeds], ?_, ?_⟩
  · rintro _ _ ⟨⟩
  · rintro _ _ ⟨⟩
    exact ⟨component, embeds, parts⟩

theorem standsFor_relationship {member : Member} {name : String} {relationship : Relationship}
    (named : member.name = some name) (association : member.isAssociation = true)
    (scalar : member.embedded? = none) : member.StandsFor (name, .relationship relationship) := by
  refine ⟨named, by simp [association], by simp [scalar], ?_, ?_⟩
  all_goals rintro _ _ ⟨⟩

theorem columnMember_standsFor (name : String) (first : TableColumn) (rest : List TableColumn) :
    ∃ member, columnMember name (first :: rest) = some member ∧
      member.StandsFor (name, .columns (first :: rest)) := by
  cases expression : first.isExpression with
  | true =>
      refine ⟨_, by rw [columnMember, if_pos expression], standsFor_columns rfl rfl rfl ?_⟩
      intro stored
      rw [expression] at stored
      cases stored
  | false =>
      exact ⟨_, by rw [columnMember, if_neg (by simp [expression])],
        standsFor_columns rfl rfl rfl fun _ => ⟨rfl, rfl, rfl⟩⟩

theorem relationshipMember_standsFor (registry : MapperRegistry) (name : String)
    (relationship : Relationship) :
    (registry.relationshipMember name relationship).StandsFor
      (name, .relationship relationship) := by
  obtain ⟨target, pairs, secondary, isManyToOne, isList, collection, deleteOrphan⟩ := relationship
  cases secondary with
  | some columns => exact standsFor_relationship rfl rfl rfl
  | none => cases isManyToOne <;> exact standsFor_relationship rfl rfl rfl

theorem compositeMember_standsFor (name : String) {type : CompositeClass}
    {columns : List TableColumn}
    (fields : ∀ names, type.fields = some names → names.length = columns.length) :
    (compositeMember name type columns).StandsFor (name, .composite type columns) := by
  have enough : columns.length ≤ (type.fields.getD (columns.map (·.key))).length := by
    cases known : type.fields with
    | none => simp
    | some given => exact Nat.le_of_eq (fields given known).symm
  exact standsFor_composite rfl rfl rfl (parts_areOver enough)

/-- An attribute that makes a member makes one, which stands for it. -/
theorem exists_attributeMember (registry : MapperRegistry) {mapped : String × Attribute}
    (makes : mapper.MakesMember mapped.2) (stored : mapped.2 ≠ .columns [])
    (fields : ∀ type columns, mapped.2 = .composite type columns →
      ∀ names, type.fields = some names → names.length = columns.length) :
    ∃ member, registry.attributeMembers mapper mapped = [member] ∧ member.StandsFor mapped := by
  obtain ⟨name, content⟩ := mapped
  cases content with
  | columns columns =>
      obtain ⟨first, rest, rfl⟩ :=
        List.exists_cons_of_ne_nil fun empty => stored (congrArg Attribute.columns empty)
      obtain ⟨member, made, stands⟩ := columnMember_standsFor name first rest
      refine ⟨member, ?_, stands⟩
      rw [MapperRegistry.attributeMembers, Mapper.makesMember_columns_iff.mp makes,
        if_neg Bool.false_ne_true, made]
      rfl
  | composite type columns =>
      exact ⟨_, rfl, compositeMember_standsFor name (fields type columns rfl)⟩
  | relationship relationship =>
      exact ⟨_, rfl, relationshipMember_standsFor registry name relationship⟩
  | other => exact makes.elim

/-- The members of attributes stand for those that make one, in order. -/
theorem attributeMembers_standFor {attributes : List (String × Attribute)}
    (stored : ∀ mapped ∈ attributes, mapped.2 ≠ .columns [])
    (fields : ∀ mapped ∈ attributes, ∀ type columns, mapped.2 = .composite type columns →
      ∀ names, type.fields = some names → names.length = columns.length) :
    List.Forall₂ (fun mapped member => Member.StandsFor member mapped)
      (attributes.filter fun mapped => mapper.MakesMember mapped.2)
      (attributes.flatMap (registry.attributeMembers mapper)) := by
  induction attributes with
  | nil => exact .nil
  | cons mapped rest ih =>
      obtain ⟨here, later⟩ := List.forall_mem_cons.mp stored
      obtain ⟨fieldsHere, fieldsLater⟩ := List.forall_mem_cons.mp fields
      rw [List.flatMap_cons]
      by_cases makes : mapper.MakesMember mapped.2
      · obtain ⟨member, made, stands⟩ :=
          exists_attributeMember registry makes here fieldsHere
        rw [List.filter_cons_of_pos (by simpa using makes), made]
        exact .cons stands (ih later fieldsLater)
      · rw [List.filter_cons_of_neg (by simpa using makes), attributeMembers_of_not makes]
        exact ih later fieldsLater

/-- Members that stand for attributes have their names. -/
theorem names_of_standFor {attributes : List (String × Attribute)} {members : List Member}
    (stand : List.Forall₂ (fun mapped member => Member.StandsFor member mapped) attributes
      members) :
    members.map (·.name) = attributes.map fun mapped => some mapped.1 := by
  induction stand with
  | nil => rfl
  | cons here _ ih => rw [List.map_cons, List.map_cons, here.named, ih]

end Members

/-! ## The identifier -/

/-- The name of the attribute that a lookup finds for a column. -/
def AttributeLookup.nameOf (attributeOf : AttributeLookup) (column : TableColumn) : String :=
  (attributeOf column).toOption.getD ""

/-- The part of the identifier that a column of the key makes. -/
def AttributeLookup.keyPart (attributeOf : AttributeLookup) (column : TableColumn) : Member :=
  { column.toMember (attributeOf.nameOf column) with nullable := false }

theorem AttributeLookup.nameOf_of_ok {attributeOf : AttributeLookup} {column : TableColumn}
    {name : String} (found : attributeOf column = .ok name) : attributeOf.nameOf column = name := by
  rw [nameOf, found]
  rfl

section Keys

variable {mapper : Mapper} {attributeOf : AttributeLookup}

theorem keyPart_isKeyPart {column : TableColumn} {name : String}
    (found : attributeOf column = .ok name) :
    (attributeOf.keyPart column).IsKeyPart attributeOf column where
  isOver := ⟨rfl, rfl, rfl, rfl, rfl, rfl⟩
  required := rfl
  named := ⟨name, found, congrArg some (AttributeLookup.nameOf_of_ok found)⟩

theorem keyMembers_of_found {columns : List TableColumn}
    (found : ∀ column ∈ columns, ∃ name, attributeOf column = .ok name) :
    Mapper.keyMembers attributeOf columns = .ok (columns.map attributeOf.keyPart) := by
  induction columns with
  | nil => rfl
  | cons column rest ih =>
      obtain ⟨⟨name, here⟩, later⟩ := List.forall_mem_cons.mp found
      rw [Mapper.keyMembers, here, ih later]
      simp only [List.map_cons, AttributeLookup.keyPart, AttributeLookup.nameOf_of_ok here]
      rfl

/-- The columns of the key make up the identifier, alone or as its parts. -/
theorem identifier_of_found
    (found : ∀ column ∈ mapper.primaryKey, ∃ name, attributeOf column = .ok name) :
    ∃ identifier keySource, mapper.identifier attributeOf = .ok (identifier, keySource) ∧
      ∀ entity : Entity, entity.identifier = identifier →
        entity.keyScalars = mapper.primaryKey.map attributeOf.keyPart ∧
        entity.identifierNames.Sublist
          (mapper.primaryKey.map fun column => some (attributeOf.nameOf column)) := by
  rw [Mapper.identifier, keyMembers_of_found found]
  match mapper.primaryKey with
  | [] =>
      refine ⟨none, none, rfl, fun entity same => ?_⟩
      simp [Entity.keyScalars, Entity.identifierNames, Entity.identifierName?, Entity.keyParts?,
        same]
  | [column] =>
      refine ⟨_, _, rfl, fun entity same => ?_⟩
      have single : entity.keyParts? = none := by
        rw [Entity.keyParts?, same]
        rfl
      refine ⟨by rw [Entity.keyScalars, single, same]; rfl, ?_⟩
      rw [Entity.identifierNames, Entity.identifierName?, single, same]
      by_cases named : attributeOf.nameOf column = "" <;>
        simp [AttributeLookup.keyPart, TableColumn.toMember, named]
  | column :: other :: rest =>
      refine ⟨_, _, rfl, fun entity same => ?_⟩
      have composed : entity.keyParts? =
          some ((column :: other :: rest).map attributeOf.keyPart) := by
        rw [Entity.keyParts?, same]
        rfl
      refine ⟨by rw [Entity.keyScalars, composed]; rfl, ?_⟩
      rw [Entity.identifierNames, Entity.identifierName?, composed, same]
      simp [AttributeLookup.keyPart, TableColumn.toMember, Function.comp_def]

end Keys

/-! ## Accounts of mappers -/

namespace Mapper.IsConfigured

variable {mapper : Mapper} {attributeOf : AttributeLookup}

theorem exists_attribute (configured : mapper.IsConfigured attributeOf) {column : TableColumn}
    (inKey : column ∈ mapper.primaryKey) : ∃ name columns, attributeOf column = .ok name ∧
      (name, Attribute.columns columns) ∈ mapper.attributes ∧ holdsColumn columns column = true :=
  configured.found column (List.mem_append_left _ inKey)

/-- The parts of the key have different names. -/
theorem keyNames_nodup (configured : mapper.IsConfigured attributeOf) :
    (mapper.primaryKey.map attributeOf.nameOf).Nodup := by
  have found : (mapper.primaryKey.map attributeOf.nameOf).map Except.ok =
      mapper.primaryKey.map attributeOf := by
    rw [List.map_map]
    refine List.map_congr_left fun column inKey => ?_
    obtain ⟨name, -, here, -⟩ := configured.exists_attribute inKey
    rw [Function.comp_apply, AttributeLookup.nameOf_of_ok here, here]
  exact .of_map _ (found ▸ configured.apart)

/-- No attribute that makes a member has the name of a part of the key: that name is taken by the
attribute that holds the column of the key. -/
theorem names_disjoint (configured : mapper.IsConfigured attributeOf) {mapped : String × Attribute}
    (among : mapped ∈ mapper.attributes) (makes : mapper.MakesMember mapped.2) :
    mapped.1 ∉ mapper.primaryKey.map attributeOf.nameOf := by
  intro taken
  obtain ⟨column, inKey, named⟩ := List.mem_map.mp taken
  obtain ⟨name, columns, found, held, holds⟩ := configured.exists_attribute inKey
  rw [AttributeLookup.nameOf_of_ok found] at named
  -- Names tell attributes apart, so this is the attribute that holds the column.
  have same : mapped = (name, .columns columns) :=
    List.inj_on_of_nodup_map configured.distinctNames among held named.symm
  rw [same] at makes
  obtain ⟨own, inside, is⟩ := holdsColumn_iff.mp holds
  exact makes own inside (.inl ⟨column, inKey, is.symm⟩)

/-- The names of the attributes that make members and those of the parts of the key are
distinct. -/
theorem names_nodup (configured : mapper.IsConfigured attributeOf) :
    ((mapper.attributes.filter fun mapped => mapper.MakesMember mapped.2).map Prod.fst ++
      mapper.primaryKey.map attributeOf.nameOf).Nodup := by
  refine List.Nodup.append ((List.filter_sublist.map _).nodup configured.distinctNames)
    configured.keyNames_nodup ?_
  intro name ofMember ofKey
  obtain ⟨mapped, kept, rfl⟩ := List.mem_map.mp ofMember
  obtain ⟨among, makes⟩ := List.mem_filter.mp kept
  exact configured.names_disjoint among (by simpa using makes) ofKey

end Mapper.IsConfigured

/-- In an entity that has the parts of the key and the members of the attributes, a reserved column
is carried. -/
theorem carries_of_reserves {registry : MapperRegistry} {mapper : Mapper}
    {attributeOf : AttributeLookup} (configured : mapper.IsConfigured attributeOf)
    {entity : Entity} (scalars : entity.keyScalars = mapper.primaryKey.map attributeOf.keyPart)
    (lists : entity.members = mapper.attributes.flatMap (registry.attributeMembers mapper))
    {column : TableColumn} (reserved : mapper.Reserves column) : entity.Carries mapper column := by
  obtain ⟨own, inKey, same⟩ | ⟨name, type, columns, among, own, inside, same⟩ := reserved
  · obtain ⟨_, _, found, -⟩ := configured.exists_attribute inKey
    refine .key inKey same ?_ (keyPart_isKeyPart found).isOver
    rw [scalars]
    exact List.mem_map_of_mem inKey
  · have stands := compositeMember_standsFor name (configured.fields name type columns among)
    obtain ⟨component, embeds, parts⟩ := stands.parts type columns rfl
    obtain ⟨part, held, isOver, -⟩ := exists_related_of_forall₂ parts inside
    refine .composite among inside same ?_ stands.named embeds held isOver
    rw [lists]
    exact List.mem_flatMap.mpr ⟨_, among, List.mem_singleton_self _⟩

/-- Where the attribute of the version is found, an identifier makes an entity with it and with the
members of the attributes. -/
theorem exists_entityOf (registry : MapperRegistry) {mapper : Mapper}
    {attributeOf : AttributeLookup} (position : Nat)
    (found : ∀ column ∈ mapper.version, ∃ name, attributeOf column = .ok name)
    {identifier : Option Member} {keySource : Option KeySource}
    (identified : mapper.identifier attributeOf = .ok (identifier, keySource)) :
    ∃ entity, registry.entityOf attributeOf mapper position = .ok entity ∧
      entity.identifier = identifier ∧
      entity.members = mapper.attributes.flatMap (registry.attributeMembers mapper) := by
  rw [MapperRegistry.entityOf, identified]
  cases version : mapper.version with
  | none => exact ⟨_, rfl, rfl, rfl⟩
  | some column =>
      obtain ⟨name, here⟩ := found column version
      simp only [here]
      exact ⟨_, rfl, rfl, rfl⟩

/-- The entity of a configured mapper accounts for its attributes. -/
theorem entityOf_describes (registry : MapperRegistry) {mapper : Mapper}
    {attributeOf : AttributeLookup} (configured : mapper.IsConfigured attributeOf)
    (position : Nat) : ∃ entity, registry.entityOf attributeOf mapper position = .ok entity ∧
      entity.Describes mapper attributeOf := by
  obtain ⟨identifier, keySource, identified, keyed⟩ := identifier_of_found
    fun column inKey => (configured.exists_attribute inKey).imp fun _ ⟨_, found, _⟩ => found
  obtain ⟨entity, made, identifies, lists⟩ := exists_entityOf registry position
    (fun column isVersion => (configured.found column (by simp_all)).imp
      fun _ ⟨_, found, _⟩ => found) identified
  obtain ⟨scalars, taken⟩ := keyed entity identifies
  have stand : List.Forall₂ (fun mapped member => Member.StandsFor member mapped)
      (mapper.attributes.filter fun mapped => mapper.MakesMember mapped.2) entity.members := by
    rw [lists]
    refine attributeMembers_standFor (fun mapped among empty => ?_)
      fun mapped among type columns composite => ?_
    · exact configured.stored mapped.1 (empty ▸ among)
    · exact configured.fields mapped.1 type columns (composite ▸ among)
  have named : entity.memberNames =
      (mapper.attributes.filter fun mapped => mapper.MakesMember mapped.2).map
        fun mapped => some mapped.1 :=
    names_of_standFor stand
  refine ⟨entity, made, ?distinctNames, stand, ?key, ?complete⟩
  case distinctNames =>
    rw [named]
    refine (List.Sublist.append_left taken _).nodup ?_
    have distinct := configured.names_nodup.map fun _ _ => Option.some.inj
    simpa only [List.map_append, List.map_map, Function.comp_def] using distinct
  case key =>
    rw [scalars]
    refine List.forall₂_map_right_iff.mpr (List.forall₂_same.mpr fun column inKey => ?_)
    obtain ⟨_, _, found, -⟩ := configured.exists_attribute inKey
    exact keyPart_isKeyPart found
  case complete =>
    intro name columns _ left
    obtain ⟨column, inside, reserved⟩ :=
      Mapper.claims_iff.mp (by simpa using mt Mapper.makesMember_columns_iff.mpr left)
    exact ⟨column, inside, carries_of_reserves configured scalars lists reserved⟩

namespace OrderLine

def orderKey : TableColumn := { label := "lines.order_id", name := "order_id" }

def number : TableColumn := { label := "lines.number", name := "number" }

def value : TableColumn := { label := "lines.value", name := "value" }

def currency : TableColumn := { label := "lines.currency", name := "currency" }

/-- Its key is over two columns, and `line` and `shown` are over a reserved column and another. -/
def mapper : Mapper :=
  { className := "OrderLine"
    space := "shop"
    primaryKey := [orderKey, number]
    version := some number
    attributes :=
      [ ("order_id", .columns [orderKey]),
        ("line", .columns [{ label := "parts.line" }, number]),
        ("shown", .columns [value, { label := "parts.shown" }]),
        ("price", .composite
          { name := "Money", space := "shop", fields := some ["amount", "currency"] }
          [value, currency]),
        ("note", .columns [{ label := "lines.note", name := "note" }]),
        ("order", .relationship { target := "Order" }) ] }

end OrderLine

/-- The reserved columns of `line` and `shown` come back in the key and in the price. -/
theorem entityOf_describes_orderLine :
    OrderLine.mapper.IsConfigured OrderLine.mapper.attributeOf ∧
    ∃ entity, MapperRegistry.entityOf ⟨[OrderLine.mapper]⟩ OrderLine.mapper.attributeOf
      OrderLine.mapper 0 = .ok entity ∧
        entity.Describes OrderLine.mapper OrderLine.mapper.attributeOf ∧
        entity.memberNames = [some "price", some "note", some "order"] ∧
        entity.keyScalars.map (fun part => (part.name, part.columns)) =
          [(some "order_id", [some "order_id"]), (some "line", [some "number"])] ∧
        (entity.members.filterMap (·.embedded?)).map (·.members.map (·.columns)) =
          [[[some "value"], [some "currency"]]] := by
  have configured : OrderLine.mapper.IsConfigured OrderLine.mapper.attributeOf := {
    distinctNames := by decide
    stored := by simp [OrderLine.mapper]
    fields := by
      intro name type columns among names given
      obtain ⟨-, rfl, rfl⟩ : name = "price" ∧ _ = type ∧ _ = columns := by
        simpa [OrderLine.mapper, eq_comm] using among
      cases given
      rfl
    found := by
      intro column asked
      obtain rfl | rfl : column = OrderLine.orderKey ∨ column = OrderLine.number := by
        simpa [OrderLine.mapper] using asked
      · exact ⟨"order_id", _, rfl, List.mem_cons_self, rfl⟩
      · exact ⟨"line", _, rfl, List.mem_cons_of_mem _ List.mem_cons_self, rfl⟩
    apart := by
      change [Except.ok "order_id", Except.ok "line"].Nodup
      simp }
  obtain ⟨entity, made, describes⟩ := entityOf_describes ⟨[OrderLine.mapper]⟩ configured 0
  have shown := Except.ok.inj made
  subst shown
  exact ⟨configured, _, made, describes, by decide, by decide, by decide⟩

end EntityAtlas

import EntityAtlas.Datum
import EntityAtlas.Keyed
import EntityAtlas.Mapping

/-!
# Overrides

What an application says about the published form of its types and members: resource names,
names for clients, default values, members left out and members added. Overrides are kept by
type key. A type or member about which nothing was said has the empty override, so a lookup
always answers. Options given by name may have any value, which is kept as it was given. They are
read as settings in the order of their names, up to the first name that cannot be set.
-/

set_option autoImplicit false

namespace EntityAtlas

/-- What was said about one member. The data type and nullability only matter for members that
have no mapping to take them from. -/
structure MemberOverride where
  /-- Whether the member is left out. -/
  ignored : Datum := .ofBool false
  serializedName : Datum := .null
  /-- The default value; null for none. -/
  defaultValue : Datum := .null
  /-- Whether the member is added although a mapped member has its name. -/
  isCustom : Datum := .ofBool false
  dataType : Datum := .ofText "String"
  isNullable : Datum := .ofBool true

/-- What was said about one type, its members by name in the order in which they were first
named. -/
structure TypeOverride where
  resourceName : Option String := none
  members : List (String × MemberOverride) := []

/-- One thing said about a member. -/
inductive MemberSetting where
  | ignored (value : Datum)
  | serializedName (value : Datum)
  | defaultValue (value : Datum)
  | isCustom (value : Datum)
  | dataType (value : Datum)
  | isNullable (value : Datum)

namespace MemberOverride

/-- The override with one more thing said; the last word counts. -/
def apply (override : MemberOverride) : MemberSetting → MemberOverride
  | .ignored value => { override with ignored := value }
  | .serializedName value => { override with serializedName := value }
  | .defaultValue value => { override with defaultValue := value }
  | .isCustom value => { override with isCustom := value }
  | .dataType value => { override with dataType := value }
  | .isNullable value => { override with isNullable := value }

/-- What clients see in place of the mapped name. A value that counts as false is none. -/
def clientName? (override : MemberOverride) : Option Datum :=
  if override.serializedName.holds then some override.serializedName else none

/-- The name of the data type. -/
def dataTypeName (override : MemberOverride) : String := override.dataType.typeName

end MemberOverride

/-- What was said about a member of a type. -/
def TypeOverride.ofMember (override : TypeOverride) (name : String) : MemberOverride :=
  (override.members.lookup name).getD {}

/-- The overrides of an application by type key. -/
structure Overrides where
  types : List (String × TypeOverride) := []

namespace Overrides

/-- What was said about a type. -/
def ofType (overrides : Overrides) (type : TypeExpr) : TypeOverride :=
  (overrides.types.lookup type.key).getD {}

/-- What was said about a member of a type. Nothing can be said about a member without a name. -/
def ofMember (overrides : Overrides) (type : TypeExpr) (name : Option String) : MemberOverride :=
  match name with
  | none => {}
  | some name => (overrides.ofType type).ofMember name

/-- Names the resource of a type. Without a name the type is only made known. -/
def configureType (overrides : Overrides) (type : TypeExpr) (resourceName : Option String) :
    Overrides :=
  { types := Keyed.update type.key {}
      (fun override => { override with resourceName := resourceName.or override.resourceName })
      overrides.types }

/-- Says things about a member of a type, in order. -/
def configureMember (overrides : Overrides) (type : TypeExpr) (name : String)
    (settings : List MemberSetting) : Overrides :=
  { types := Keyed.update type.key {}
      (fun override =>
        { override with
          members := Keyed.update name {} (settings.foldl MemberOverride.apply) override.members })
      overrides.types }

end Overrides

/-! ## Options by name -/

/-- Why an option was refused. -/
inductive OptionError where
  /-- There is no option of the name. -/
  | unknown (name : String)
  /-- The name stands for something that follows from another option. -/
  | derived (name : String)
  /-- The name stands for what the options are about, which is given apart from them. -/
  | subject (name : String)

namespace OptionError

/-- The kind of a refusal. -/
def kind : OptionError → String
  | .unknown _ => "AttributeError"
  | .derived _ => "AttributeError"
  | .subject _ => "TypeError"

/-- What is said of a refused option. -/
def message? : OptionError → Option String
  | .unknown name => some ("Unknown member option '" ++ name ++ "'")
  | _ => none

end OptionError

namespace MemberSetting

/-- The setting that an option makes. The name of the data type follows from the data type. -/
def ofOption (name : String) (value : Datum) : Except OptionError MemberSetting :=
  match name with
  | "ignored" => .ok (.ignored value)
  | "serialized_name" => .ok (.serializedName value)
  | "default_value" => .ok (.defaultValue value)
  | "is_custom" => .ok (.isCustom value)
  | "data_type" => .ok (.dataType value)
  | "is_nullable" => .ok (.isNullable value)
  | "data_type_name" => .error (.derived name)
  | _ => .error (.unknown name)

/-- The settings of options up to the first that is refused, and its refusal. -/
def ofOptions : List (String × Datum) → List MemberSetting × Option OptionError
  | [] => ([], none)
  | (name, value) :: rest =>
    match ofOption name value with
    | .error error => ([], some error)
    | .ok setting =>
      let (settings, refused) := ofOptions rest
      (setting :: settings, refused)

end MemberSetting

/-- The names that stand for what options are about: the overrides themselves, the type and the
member. -/
def subjectNames : List String := ["self", "type_ref", "name"]

/-- Says things about a member of a type by options, in the order of their names. A refused option
is reported; what stands before it is said all the same. With the name of a subject among the
options nothing is said at all. -/
def Overrides.configureByOptions (overrides : Overrides) (type : TypeExpr) (name : String)
    (options : List (String × Datum)) : Overrides × Option OptionError :=
  match (options.map (·.1)).find? subjectNames.contains with
  | some subject => (overrides, some (.subject subject))
  | none =>
    let (settings, refused) :=
      MemberSetting.ofOptions (ascending (fun left right => decide (left.1 ≤ right.1)) options)
    (overrides.configureMember type name settings, refused)

end EntityAtlas

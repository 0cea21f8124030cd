import EntityAtlas.Proofs.ChangedColumns
import EntityAtlas.Proofs.SurrogateMembers
import EntityAtlas.SurrogateTable
import Mathlib.Data.List.Forall2

/-!
# Quoted columns

A source may write the name of a column bare or in one layer of quotes, at each place anew
(`Catalogue.QuotedAs`). Catalogues that differ in quotes only have one build: the columns of both
are the same once the quotes are off, and a build does not see more of them
(`build_eq_of_unquoted`). So quotes cannot be seen in what is published, nor in what is refused
(`build_quotedAs`).
-/

set_option autoImplicit false

namespace EntityAtlas

open ColumnName (unquote unwrap)

/-! ## Ways to write a name -/

namespace ColumnName

/-- The ways to write the name of a column: as it is, in brackets, in double quotes and in back
quotes. -/
def writings (name : String) : List String :=
  [name, "[" ++ name ++ "]", "\x22" ++ name ++ "\x22", "\x60" ++ name ++ "\x60"]

/-- Taking off quotes makes a name shorter, if it changes the name at all. -/
theorem unwrap_eq_self_or_length_lt (opening closing : Char) (name : List Char) :
    unwrap opening closing name = name ∨
      (unwrap opening closing name).length < name.length := by
  fun_cases unwrap with
  | case1 => exact .inl rfl
  | case2 =>
      refine .inr ?_
      rw [List.length_dropLast, List.length_cons]
      omega
  | case3 => exact .inl rfl

/-- A bare name has none of the three kinds of quotes. -/
theorem unwrap_of_bare {name : String} (bare : unquote name = name) :
    unwrap '[' ']' name.toList = name.toList ∧
      unwrap '\x22' '\x22' name.toList = name.toList ∧
      unwrap '\x60' '\x60' name.toList = name.toList := by
  have whole : unwrap '\x60' '\x60' (unwrap '\x22' '\x22' (unwrap '[' ']' name.toList)) =
      name.toList := by
    rw [← String.toList_ofList (l := unwrap _ _ _)]
    exact congrArg String.toList bare
  -- Once a pair of quotes is off, the name is too short to become what it was.
  have outer := unwrap_eq_self_or_length_lt '[' ']' name.toList
  have middle := unwrap_eq_self_or_length_lt '\x22' '\x22' (unwrap '[' ']' name.toList)
  have inner := unwrap_eq_self_or_length_lt '\x60' '\x60'
    (unwrap '\x22' '\x22' (unwrap '[' ']' name.toList))
  have length := congrArg List.length whole
  grind

theorem unwrap_wrapped (opening closing : Char) (name : List Char) :
    unwrap opening closing (opening :: (name ++ [closing])) = name := by
  simp [unwrap]

theorem unwrap_of_ne {opening closing first : Char} (apart : first ≠ opening)
    (rest : List Char) : unwrap opening closing (first :: rest) = first :: rest := by
  simp [unwrap, apart]

/-- However a bare name is written, it is what is left without the quotes. -/
theorem unquote_of_mem_writings {name written : String} (bare : unquote name = name)
    (among : written ∈ writings name) : unquote written = name := by
  obtain ⟨brackets, doubleQuotes, backQuotes⟩ := unwrap_of_bare bare
  simp only [writings, List.mem_cons, List.not_mem_nil, or_false] at among
  rcases among with rfl | rfl | rfl | rfl
  · exact bare
  · simp [unquote, unwrap_wrapped, doubleQuotes, backQuotes]
  · simp [unquote, unwrap_of_ne, unwrap_wrapped, backQuotes]
  · simp [unquote, unwrap_of_ne, unwrap_wrapped]

end ColumnName

/-! ## Catalogues without their quotes -/

mutual

theorem Component.mapColumns_mapColumns (first second : String → String) :
    (component : Component) → (component.mapColumns first).mapColumns second =
      component.mapColumns (second ∘ first)
  | ⟨type, members⟩ => by
      simp only [Component.mapColumns, mapColumnsAmong_mapColumnsAmong first second members]

theorem mapColumnsAmong_mapColumnsAmong (first second : String → String) :
    (members : List Member) → mapColumnsAmong second (mapColumnsAmong first members) =
      mapColumnsAmong (second ∘ first) members
  | [] => rfl
  | member :: rest => by
      simp only [mapColumnsAmong, Member.mapColumns_mapColumns first second member,
        mapColumnsAmong_mapColumnsAmong first second rest]

theorem mapColumnsWithin_mapColumnsWithin (first second : String → String) :
    (component : Option Component) → mapColumnsWithin second (mapColumnsWithin first component) =
      mapColumnsWithin (second ∘ first) component
  | none => rfl
  | some component => by
      simp only [mapColumnsWithin, Component.mapColumns_mapColumns first second component]

theorem Member.mapColumns_mapColumns (first second : String → String) :
    (member : Member) → (member.mapColumns first).mapColumns second =
      member.mapColumns (second ∘ first)
  | ⟨_, _, _, _, _, _, _, _, component, _, _, _, _, _⟩ => by
      simp only [Member.mapColumns, mapColumnsWithin_mapColumnsWithin first second component,
        List.map_map, Option.map_comp_map]

end

theorem Catalogue.mapColumns_mapColumns (first second : String → String)
    (catalogue : Catalogue) :
    (catalogue.mapColumns first).mapColumns second = catalogue.mapColumns (second ∘ first) := by
  simp only [Catalogue.mapColumns, List.map_map]
  congr 1
  refine List.map_congr_left fun entity _ => ?_
  simp [Entity.mapColumns, Function.comp_def, Member.mapColumns_mapColumns]

/-- **Unquoted catalogues.** Two catalogues that are the same without their quotes have one
build. -/
theorem build_eq_of_unquoted {catalogue other : Catalogue}
    (same : other.mapColumns unquote = catalogue.mapColumns unquote) (options : BuildOptions) :
    build other options = build catalogue options := by
  -- Taking off quotes is not faithful itself, for below them there may be more. Writing each name
  -- in some way that depends on the unquoted name only is.
  have faithful : ∀ name, unquote ((Function.invFun unquote ∘ unquote) name) = unquote name :=
    fun name => Function.invFun_eq ⟨name, rfl⟩
  rw [← build_mapColumns faithful other, ← build_mapColumns faithful catalogue,
    ← Catalogue.mapColumns_mapColumns, ← Catalogue.mapColumns_mapColumns, same]

/-! ## Quoting -/

/-- Columns written in other ways, each on its own. A formula stays one. -/
def QuotedAs (columns written : List (Option String)) : Prop :=
  List.Forall₂ (Option.Rel fun name other => other ∈ ColumnName.writings name) columns written

mutual

/-- A member whose columns are written in other ways, those of the type that it embeds included. -/
inductive Member.QuotedAs : Member → Member → Prop
  | intro {member : Member} {columns referencedColumns : List (Option String)}
      {component : Option Component} (own : EntityAtlas.QuotedAs member.columns columns)
      (referenced : EntityAtlas.QuotedAs member.referencedColumns referencedColumns)
      (embedded : Option.Rel Component.QuotedAs member.component component) :
      Member.QuotedAs member { member with columns, referencedColumns, component }

/-- An embedded type whose columns are written in other ways. -/
inductive Component.QuotedAs : Component → Component → Prop
  | intro {type : TypeExpr} {members others : List Member}
      (parts : List.Forall₂ Member.QuotedAs members others) :
      Component.QuotedAs ⟨type, members⟩ ⟨type, others⟩

end

/-- An entity whose columns are written in other ways. -/
inductive Entity.QuotedAs : Entity → Entity → Prop
  | intro {entity : Entity} {identifier : Option Member} {keyColumns : List (Option String)}
      {members : List Member} (identified : Option.Rel Member.QuotedAs entity.identifier identifier)
      (key : EntityAtlas.QuotedAs entity.keyColumns keyColumns)
      (declared : List.Forall₂ Member.QuotedAs entity.members members) :
      Entity.QuotedAs entity { entity with identifier, keyColumns, members }

/-- A catalogue whose columns are written in other ways. -/
def Catalogue.QuotedAs (catalogue other : Catalogue) : Prop :=
  List.Forall₂ Entity.QuotedAs catalogue.entities other.entities

theorem QuotedAs.unquoted {columns written : List (Option String)}
    (quoted : QuotedAs columns written) (bare : columns.map (Option.map unquote) = columns) :
    written.map (Option.map unquote) = columns := by
  induction quoted with
  | nil => rfl
  | cons first rest ih =>
      simp only [List.map_cons, List.cons.injEq] at bare ⊢
      refine ⟨?_, ih bare.2⟩
      cases first with
      | none => rfl
      | some among =>
          exact congrArg some (ColumnName.unquote_of_mem_writings (Option.some.inj bare.1) among)

mutual

theorem Component.QuotedAs.unquoted : {component other : Component} → component.QuotedAs other →
    component.mapColumns unquote = component → other.mapColumns unquote = component
  | _, _, .intro parts, bare => by
      simp only [Component.mapColumns, ComponentOf.mk.injEq, true_and] at bare ⊢
      exact unquotedAmong parts bare

theorem unquotedAmong : {members others : List Member} →
    List.Forall₂ Member.QuotedAs members others → mapColumnsAmong unquote members = members →
      mapColumnsAmong unquote others = members
  | _, _, .nil, _ => rfl
  | _, _, .cons first rest, bare => by
      simp only [mapColumnsAmong, List.cons.injEq] at bare ⊢
      exact ⟨first.unquoted bare.1, unquotedAmong rest bare.2⟩

theorem unquotedWithin : {component other : Option Component} →
    Option.Rel Component.QuotedAs component other →
      mapColumnsWithin unquote component = component → mapColumnsWithin unquote other = component
  | _, _, .none, _ => rfl
  | _, _, .some inner, bare => by
      simp only [mapColumnsWithin, Option.some.injEq] at bare ⊢
      exact inner.unquoted bare

theorem Member.QuotedAs.unquoted : {member other : Member} → member.QuotedAs other →
    member.mapColumns unquote = member → other.mapColumns unquote = member
  | ⟨_, _, _, _, _, _, _, _, _, _, _, _, _, _⟩, _, .intro own referenced embedded, bare => by
      simp only [Member.mapColumns, Member.mk.injEq, true_and, and_true] at bare ⊢
      exact ⟨own.unquoted bare.1, unquotedWithin embedded bare.2.1, referenced.unquoted bare.2.2⟩

end

theorem Entity.QuotedAs.unquoted : {entity other : Entity} → entity.QuotedAs other →
    entity.mapColumns unquote = entity → other.mapColumns unquote = entity
  | ⟨_, identifier, _, _, _, _, _, _, _, _⟩, _, .intro identified key declared, bare => by
      simp only [Entity.mapColumns, ← mapColumnsAmong_eq_map, Entity.mk.injEq, true_and,
        and_true] at bare ⊢
      refine ⟨?_, key.unquoted bare.2.1, unquotedAmong declared bare.2.2⟩
      cases identified with
      | none => rfl
      | some quoted =>
          exact congrArg some (quoted.unquoted (Option.some.inj bare.1))

theorem Catalogue.QuotedAs.unquoted {catalogue other : Catalogue}
    (quoted : catalogue.QuotedAs other) (bare : catalogue.mapColumns unquote = catalogue) :
    other.mapColumns unquote = catalogue := by
  obtain ⟨entities⟩ := catalogue
  obtain ⟨others⟩ := other
  simp only [Catalogue.QuotedAs, Catalogue.mapColumns, Catalogue.mk.injEq] at quoted bare ⊢
  induction quoted with
  | nil => rfl
  | cons first rest ih =>
      simp only [List.map_cons, List.cons.injEq] at bare ⊢
      exact ⟨first.unquoted bare.1, ih bare.2⟩

/-! ## Builds of quoted catalogues -/

/-- **Quotes cannot be seen.** Take a catalogue whose column names have no quotes, and write each of
them in some way, at each place anew. Both catalogues give the same edition under all options, or
the same refusal. What types take over from their superclasses is the same as well. -/
theorem build_quotedAs {catalogue other : Catalogue}
    (bare : catalogue.mapColumns unquote = catalogue) (quoted : catalogue.QuotedAs other)
    (options : BuildOptions) :
    build other options = build catalogue options ∧
      ∀ table, SurrogateTable.inherited other table = SurrogateTable.inherited catalogue table := by
  have unquoted := quoted.unquoted bare
  refine ⟨build_eq_of_unquoted (unquoted.trans bare.symm) options, fun table => ?_⟩
  simp only [SurrogateTable.inherited, ← unquoted, Catalogue.superclassKeys_mapColumns]

/-! ## A quoted shop -/

namespace Shop

/-- The shop with quotes around some of its columns. -/
def quotedCatalogue : Catalogue :=
  { entities :=
      [ customer,
        { order with members := [toOne "Customer" "Customer" "[customer_id]"] },
        { rushOrder with
          keyColumns := [some "\x22Id\x22"]
          members :=
            [ toOne "Customer" "Customer" "customer_id",
              toOne "BillTo" "Customer" "\x60customer_id\x60" ] } ] }

theorem quotedAs_number (name : String) {column written : String}
    (among : written ∈ ColumnName.writings column) :
    (number name column).QuotedAs (number name written) :=
  .intro (.cons (.some among) .nil) .nil .none

theorem quotedAs_toOne (name target : String) {column written : String}
    (among : written ∈ ColumnName.writings column) :
    (toOne name target column).QuotedAs (toOne name target written) :=
  .intro (.cons (.some among) .nil) .nil .none

theorem quotedAs_catalogue : catalogue.QuotedAs quotedCatalogue := by
  have identified :
      Option.Rel Member.QuotedAs (some (number "Id" "Id")) (some (number "Id" "Id")) :=
    .some (quotedAs_number "Id" (by decide))
  refine .cons (.intro identified (.cons (.some (by decide)) .nil) .nil)
    (.cons (.intro identified (.cons (.some (by decide)) .nil) ?_)
      (.cons (.intro identified (.cons (.some (by decide)) .nil) ?_) .nil))
  · exact .cons (quotedAs_toOne "Customer" "Customer" (by decide)) .nil
  · exact .cons (quotedAs_toOne "Customer" "Customer" (by decide))
      (.cons (quotedAs_toOne "BillTo" "Customer" (by decide)) .nil)

end Shop

/-- Quotes around columns of the shop make no difference, and the foreign key of an order is found
without them. -/
theorem build_quotedAs_catalogue : ∃ edition,
    build Shop.quotedCatalogue Sample.options = .ok edition ∧
    build Shop.catalogue Sample.options = .ok edition ∧
    (SurrogateTable.inherited Shop.quotedCatalogue edition.surrogates).ofKey Shop.order.key =
      (SurrogateTable.inherited Shop.catalogue edition.surrogates).ofKey Shop.order.key ∧
    edition.document.foreignKeys.lookup "Shop.Order.Customer" = some "customer_id" := by
  obtain ⟨edition, built, recorded⟩ := exists_edition_of_view
    (·.document.foreignKeys.lookup "Shop.Order.Customer")
    (by decide +kernel :
      (build Shop.catalogue Sample.options).toOption.map _ = some (some "customer_id"))
  have bare : Shop.catalogue.mapColumns unquote = Shop.catalogue := rfl
  obtain ⟨same, inherits⟩ := build_quotedAs bare Shop.quotedAs_catalogue Sample.options
  exact ⟨edition, same.trans built, built, by rw [inherits], recorded⟩

end EntityAtlas

import EntityAtlas.Catalogue
import EntityAtlas.Keyed

/-!
# Surrogates on live instances

After a build a source keeps the surrogates of each type, so that their values can be read on
instances. A subtype takes over the surrogates of its superclasses whose names it does not have
yet, the nearest superclass first.
-/

set_option autoImplicit false

namespace EntityAtlas

/-- Surrogates by type key. -/
abbrev SurrogateTable := List (String × List Surrogate)

/-- Surrogates with those of another list whose names are new among them. -/
def withNewSurrogates (own others : List Surrogate) : List Surrogate :=
  others.foldl
    (fun own surrogate => if own.any (·.name == surrogate.name) then own else own ++ [surrogate])
    own

/-- The value of a surrogate on an instance: the identifier of the instance that the association
leads to. It is null where nothing is related or where the identifier has no name. A surrogate
without an association has no value. -/
def Surrogate.valueOn? (surrogate : Surrogate) (holder : Json) : Option Json :=
  surrogate.association.map fun association =>
    match holder.find? association with
    | none | some .null => .null
    | some related => (surrogate.keyName.bind (related.find? ·)).getD .null

namespace SurrogateTable

/-- The surrogates of a type. -/
def ofKey (table : SurrogateTable) (key : String) : List Surrogate := (table.lookup key).getD []

/-- The table in which every type has also taken over the surrogates of its superclasses. -/
def inherited (catalogue : Catalogue) (table : SurrogateTable) : SurrogateTable :=
  table.map fun (key, own) =>
    (key, (catalogue.superclassKeys key).foldl
      (fun own superclass => withNewSurrogates own (table.ofKey superclass)) own)

/-- The surrogates of a type after it has taken over those of its superclasses. -/
theorem ofKey_inherited (catalogue : Catalogue) (table : SurrogateTable) (key : String) :
    (inherited catalogue table).ofKey key =
      ((table.lookup key).map fun own => (catalogue.superclassKeys key).foldl
        (fun own superclass => withNewSurrogates own (table.ofKey superclass)) own).getD [] := by
  rw [ofKey, inherited, Keyed.lookup_map fun key own => (catalogue.superclassKeys key).foldl
    (fun own superclass => withNewSurrogates own (table.ofKey superclass)) own]

/-- The names and values of surrogates on an instance, unless one of them has no value. Of two
surrogates with one name the later one counts. -/
def namedValues? (holder : Json) : List Surrogate → List (String × Json) →
    Option (List (String × Json))
  | [], values => some values
  | surrogate :: rest, values =>
    (surrogate.valueOn? holder).bind fun value =>
      namedValues? holder rest (Keyed.put surrogate.name value values)

/-- The names and values of the surrogates of an instance of a type. -/
def valuesOn? (table : SurrogateTable) (key : String) (holder : Json) :
    Option (List (String × Json)) :=
  namedValues? holder (table.ofKey key) []

end SurrogateTable

end EntityAtlas

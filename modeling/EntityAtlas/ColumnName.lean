import EntityAtlas.Ascending
import EntityAtlas.Text.Blank
import EntityAtlas.Text.Case

/-!
# Column names

A database writes the name of one column in several ways: in brackets, in double quotes or in
back quotes, and in any letter case. This module takes the quotes off, compares lists of column
names as sets of columns, and derives from columns the names that clients see: the name of a
member standing in for a column, and the name shared by the two ends of an association.
-/

set_option autoImplicit false

namespace EntityAtlas.ColumnName

open EntityAtlas.Text

/-! ## Quotes -/

/-- A name without one pair of quotes around it. -/
def unwrap (opening closing : Char) (name : List Char) : List Char :=
  match name with
  | [] => []
  | first :: rest =>
    if first = opening ∧ rest.getLast? = some closing then rest.dropLast else name

/-- A column name without its quotes: brackets, then double quotes, then back quotes, each at
most once. -/
def unquote (name : String) : String :=
  String.ofList
    (unwrap '\x60' '\x60' (unwrap '\x22' '\x22' (unwrap '[' ']' name.toList)))

/-- Column names without quotes, joined by a delimiter. -/
def joined (names : List String) (delimiter : String) : String :=
  delimiter.intercalate (names.map unquote)

/-! ## The same columns -/

/-- What a column name is compared by: the name without quotes, in lower case. -/
def folded (name : String) : String := String.ofList (lower (unquote name).toList)

/-- Folded column names in code point order. -/
def foldedAscending (names : List String) : List String :=
  ascending (fun left right => decide (left ≤ right)) (names.map folded)

/-- Whether two lists name the same columns, each equally often, in whatever order, letter case
and quotes. -/
def sameColumns (left right : List String) : Bool :=
  left.length == right.length && foldedAscending left == foldedAscending right

/-! ## Derived names -/

/-- The characters that separate the words of a name. -/
def isSeparator (char : Char) : Bool :=
  char == '_' || char == '-' || char == '.' || isBlank char

/-- The words of a name: the runs of characters that are no separators. -/
def words (name : List Char) : List (List Char) :=
  (name.splitOnP isSeparator).filter (!·.isEmpty)

/-- A word as part of a name in Pascal case. A word in capitals that is longer than one letter is
lowered but for its first letter. -/
def pascalWord (word : List Char) : List Char :=
  firstRaised (if isCapitals word && word.length > 1 then capitalized word else word)

/-- A name in Pascal case: its words without the separators, each with its first letter raised. -/
def pascal (name : String) : String :=
  String.ofList ((words name.toList).flatMap pascalWord)

/-- The word by which a column shows in the name of an association. -/
def associationWord (column : String) : String := pascal (unquote column)

/-- The name of an association between two types in the order given. -/
def associationLabel (first second : String) (columns : List String) : String :=
  "AN_" ++ first ++ "_" ++ second ++ "_" ++ joined (columns.map associationWord) "_"

/-- The name that both ends of an association between two types over some columns give it. The
type names stand in code point order, so it does not matter which end asks. -/
def associationName (oneType otherType : String) (columns : List String) : String :=
  if oneType < otherType then associationLabel oneType otherType columns
  else associationLabel otherType oneType columns

end EntityAtlas.ColumnName

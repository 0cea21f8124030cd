import EntityAtlas.ColumnName

/-!
# Names of associations

The two ends of a relationship name it each on its own. The types come in code point order, so it
does not matter which end asks (`associationName_comm`). The columns stay in the order in which they
are given, each as a word in Pascal case, and so the name tells exactly what the words say one after
the other (`associationName_eq_swap_iff`). Quotes leave the words alone. Order and letter case do
not, although neither matters where columns are compared.
-/

set_option autoImplicit false

namespace EntityAtlas.ColumnName

/-- The words of the columns as they stand in the name of an association. -/
def associationSuffix (columns : List String) : String :=
  joined (columns.map associationWord) "_"

/-- It does not matter in which order the types are given. -/
theorem associationName_comm (oneType otherType : String) (columns : List String) :
    associationName oneType otherType columns = associationName otherType oneType columns := by
  unfold associationName
  by_cases before : oneType < otherType
  · rw [if_pos before, if_neg (String.lt_asymm before)]
  · rw [if_neg before]
    by_cases after : otherType < oneType
    · rw [if_pos after]
    · obtain rfl := String.le_antisymm (String.not_lt.mp after) (String.not_lt.mp before)
      rw [if_neg after]

/-- Between types in a given order, the name tells the words of the columns. -/
theorem associationLabel_eq_iff (first second : String) (columns others : List String) :
    associationLabel first second columns = associationLabel first second others ↔
      associationSuffix columns = associationSuffix others := by
  rw [associationLabel, associationLabel, associationSuffix, associationSuffix]
  exact String.append_right_inj _

theorem associationName_eq_iff (oneType otherType : String) (columns others : List String) :
    associationName oneType otherType columns = associationName oneType otherType others ↔
      associationSuffix columns = associationSuffix others := by
  unfold associationName
  split <;> exact associationLabel_eq_iff ..

/-- Columns that differ in their quotes only are the same columns. -/
theorem sameColumns_of_unquote {columns others : List String}
    (same : columns.map unquote = others.map unquote) : sameColumns columns others = true := by
  have lengths : columns.length = others.length := by
    simpa using congrArg List.length same
  have readings : columns.map folded = others.map folded := by
    have alike := congrArg (List.map fun name => String.ofList (Text.lower name.toList)) same
    rwa [List.map_map, List.map_map] at alike
  simp [sameColumns, foldedAscending, lengths, readings]

/-- Columns that differ in their quotes only have the same words. -/
theorem associationSuffix_of_unquote {columns others : List String}
    (same : columns.map unquote = others.map unquote) :
    associationSuffix columns = associationSuffix others := by
  have words : ∀ names : List String,
      names.map associationWord = (names.map unquote).map pascal := fun names => by
    rw [List.map_map]
    rfl
  rw [associationSuffix, associationSuffix, words, words, same]

/-- **The name at either end.** The two ends give an association one name exactly if the words of
their columns read the same, and so they do wherever the columns come in one order and differ in
their quotes only. -/
theorem associationName_eq_swap_iff (oneType otherType : String) (columns others : List String) :
    (associationName oneType otherType columns = associationName otherType oneType others ↔
        associationSuffix columns = associationSuffix others) ∧
      (columns.map unquote = others.map unquote →
        sameColumns columns others = true ∧
          associationName oneType otherType columns =
            associationName otherType oneType others) := by
  have ends : associationName oneType otherType columns =
        associationName otherType oneType others ↔
      associationSuffix columns = associationSuffix others := by
    rw [associationName_comm otherType oneType others]
    exact associationName_eq_iff ..
  refine ⟨ends, fun same => ⟨sameColumns_of_unquote same, ?_⟩⟩
  exact ends.mpr (associationSuffix_of_unquote same)

/-- Quotes of any kind do not show in the name of an association over two columns: brackets and
double quotes at one end, back quotes and none at the other. -/
theorem associationName_eq_swap_quoted :
    sameColumns ["[order_id]", "\x22LineNo\x22"] ["\x60order_id\x60", "LineNo"] = true ∧
    associationName "Line" "Order" ["[order_id]", "\x22LineNo\x22"] =
      associationName "Order" "Line" ["\x60order_id\x60", "LineNo"] ∧
    associationName "Line" "Order" ["[order_id]", "\x22LineNo\x22"] =
      "AN_Line_Order_OrderId_LineNo" := by
  obtain ⟨same, named⟩ := (associationName_eq_swap_iff "Line" "Order"
    ["[order_id]", "\x22LineNo\x22"] ["\x60order_id\x60", "LineNo"]).2 (by decide +kernel)
  exact ⟨same, named, by decide +kernel⟩

/-- The same columns in another order, or in other letter case, make another name. -/
theorem associationName_ne_reordered :
    (sameColumns ["OrderId", "LineNo"] ["LineNo", "OrderId"] = true ∧
      associationName "Line" "Order" ["OrderId", "LineNo"] ≠
        associationName "Order" "Line" ["LineNo", "OrderId"]) ∧
      sameColumns ["customerId"] ["CUSTOMERID"] = true ∧
        associationName "Customer" "Order" ["customerId"] ≠
          associationName "Order" "Customer" ["CUSTOMERID"] := by
  decide +kernel

end EntityAtlas.ColumnName

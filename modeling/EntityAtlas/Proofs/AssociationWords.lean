import EntityAtlas.Proofs.AssociationNames
import EntityAtlas.Proofs.PascalCase
import Mathlib.Data.Sym.Sym2

/-!
# Associations told apart by name

The name of an association is a list of words joined by `_`: a mark, the two types, and a word for
each column. A separator may stand in the name of a column, but not in its word. Pascal case takes
separators out (`words_separated`), and no letter becomes `_` by a change of its case
(`underscore_not_mem_upperChar`, `underscore_not_mem_lowerAfter`). Splitting the name at `_` thus
gives the words back, and between types without `_` a name tells which types it joins and over which
words (`associationName_tellsApart`).
-/

set_option autoImplicit false

namespace EntityAtlas

namespace Text

/-! ## Letter case and underscores -/

/-- Whether no code point is moved onto a given one. -/
def Shift.avoids (shift : Shift) (target : Nat) : Bool :=
  let source : Int := target - shift.distance
  !(shift.first ≤ source && source ≤ shift.last && (source - shift.first) % shift.step == 0)

theorem Shift.moved_ne {shift : Shift} {target code : Nat} (avoids : shift.avoids target = true)
    (positive : 0 < target) (low : shift.first ≤ code) (high : code ≤ shift.last)
    (aligned : (code - shift.first) % shift.step = 0) :
    (code + shift.distance).toNat ≠ target := by
  intro moved
  have source : (target : Int) - shift.distance = code := by omega
  have step : ((code : Int) - shift.first) % shift.step = 0 := by
    rw [← Int.ofNat_sub low]
    exact_mod_cast aligned
  simp [Shift.avoids, source, low, high, step] at avoids

/-- A table none of whose shifts leads to a code point leads there from nowhere else. -/
theorem shifted_ne {table : List Shift} {target code : Nat}
    (avoids : table.all (·.avoids target) = true) (positive : 0 < target) (other : code ≠ target) :
    shifted code table ≠ target := by
  induction table with
  | nil => exact other
  | cons shift rest ih =>
      obtain ⟨here, later⟩ := Bool.and_eq_true_iff.mp avoids
      unfold shifted
      split
      next => exact other
      next low =>
        split
        next held =>
          simp only [Bool.and_eq_true, decide_eq_true_eq, beq_iff_eq] at held
          exact Shift.moved_ne here positive (Nat.not_lt.mp low) held.1 held.2
        next => exact ih later

theorem eq_underscore_of_ofNat {code : Nat} (same : Char.ofNat code = '_') : code = 0x5F := by
  by_cases valid : code.isValidChar
  · rw [Char.ofNat, dif_pos valid] at same
    calc code
        = (Char.ofNatAux code valid).toNat := rfl
      _ = 0x5F := congrArg Char.toNat same
  · rw [Char.ofNat, dif_neg valid] at same
    exact absurd same (by decide)

/-- A code point that a table keeps away from `_` makes no underscore. -/
theorem underscore_ne_shifted {table : List Shift} (avoids : table.all (·.avoids 0x5F) = true)
    {char : Char} (other : char ≠ '_') : '_' ≠ Char.ofNat (shifted char.toNat table) := by
  intro same
  refine shifted_ne avoids (by decide) (fun code => other ?_) (eq_underscore_of_ofNat same.symm)
  rw [← Char.ofNat_toNat char, code]

/-- No other character has an underscore in its upper case. -/
theorem underscore_not_mem_upperChar {char : Char} (other : char ≠ '_') :
    '_' ∉ upperChar char := by
  have expansions : upperExpansions.all (fun entry => !entry.2.contains 0x5F) = true := by
    decide +kernel
  unfold upperChar
  split
  next codes found =>
    intro among
    obtain ⟨code, inside, same⟩ := List.mem_map.mp among
    obtain ⟨before, after, table, -⟩ := List.lookup_eq_some_iff.mp found
    have listed : (char.toNat, codes) ∈ upperExpansions := by simp [table]
    have free := List.all_eq_true.mp expansions _ listed
    rw [eq_underscore_of_ofNat same] at inside
    simp [inside] at free
  next =>
    intro among
    exact underscore_ne_shifted (by decide +kernel) other (List.mem_singleton.mp among)

/-- No other character has an underscore in its lower case. -/
theorem underscore_not_mem_lowerChar {char : Char} (other : char ≠ '_') :
    '_' ∉ lowerChar char := by
  unfold lowerChar
  split
  next => decide
  next =>
    intro among
    exact underscore_ne_shifted (by decide +kernel) other (List.mem_singleton.mp among)

/-- A text without underscores has none in lower case. -/
theorem underscore_not_mem_lowerAfter {text : List Char} (free : '_' ∉ text) (afterCased : Bool) :
    '_' ∉ lowerAfter afterCased text := by
  induction text generalizing afterCased with
  | nil => exact List.not_mem_nil
  | cons char rest ih =>
      obtain ⟨other, later⟩ := List.ne_and_not_mem_of_not_mem_cons free
      rw [lowerAfter, List.mem_append, not_or]
      refine ⟨?_, ih later _⟩
      split
      next => split <;> decide
      next => exact underscore_not_mem_lowerChar (Ne.symm other)

end Text

namespace ColumnName

open Text

/-! ## Words of columns -/

theorem words_separated {name word : List Char} (among : word ∈ words name) :
    ∀ char ∈ word, isSeparator char = false := by
  intro char inside
  have kept : char ∈ name.filter (!isSeparator ·) :=
    flatten_words name ▸ List.mem_flatten.mpr ⟨word, among, inside⟩
  simpa using (List.mem_filter.mp kept).2

theorem underscore_not_mem_pascalWord {word : List Char} (free : '_' ∉ word) :
    '_' ∉ pascalWord word := by
  have raised : ∀ {text : List Char}, '_' ∉ text → '_' ∉ firstRaised text := by
    intro text free
    cases text with
    | nil => exact free
    | cons first rest =>
        obtain ⟨other, later⟩ := List.ne_and_not_mem_of_not_mem_cons free
        rw [firstRaised, List.mem_append, not_or]
        exact ⟨underscore_not_mem_upperChar (Ne.symm other), later⟩
  unfold pascalWord
  split
  next =>
    refine raised ?_
    cases word with
    | nil => exact free
    | cons first rest =>
        obtain ⟨other, later⟩ := List.ne_and_not_mem_of_not_mem_cons free
        exact List.not_mem_cons_of_ne_of_not_mem other (underscore_not_mem_lowerAfter later _)
  next => exact raised free

/-- **Pascal case takes all underscores out**, whatever a name is made of. -/
theorem underscore_not_mem_pascal (name : String) : '_' ∉ (pascal name).toList := by
  rw [pascal, String.toList_ofList]
  intro among
  obtain ⟨word, inside, char⟩ := List.mem_flatMap.mp among
  refine underscore_not_mem_pascalWord (fun there => ?_) char
  have separates := words_separated inside '_' there
  revert separates
  decide

theorem unquote_subset (name : String) : (unquote name).toList ⊆ name.toList := by
  rw [unquote, String.toList_ofList]
  exact fun char among => unwrap_subset _ _ _ (unwrap_subset _ _ _ (unwrap_subset _ _ _ among))

/-- The word of a column as it stands in the name of an association. -/
def shownWord (column : String) : String := unquote (associationWord column)

theorem underscore_not_mem_shownWord (column : String) : '_' ∉ (shownWord column).toList :=
  fun among => underscore_not_mem_pascal _ (unquote_subset _ among)

/-! ## Names as lists of words -/

/-- The words of the name of an association between two types in the order given. -/
def labelWords (first second : String) (columns : List String) : List String :=
  "AN" :: first :: second :: columns.map shownWord

/-- The name of an association is its words, joined by underscores. -/
theorem toList_associationLabel (first second : String) {columns : List String}
    (given : columns ≠ []) :
    (associationLabel first second columns).toList =
      ['_'].intercalate ((labelWords first second columns).map String.toList) := by
  obtain ⟨column, rest, rfl⟩ := List.exists_cons_of_ne_nil given
  have mark : "AN_".toList = "AN".toList ++ ['_'] := by decide +kernel
  have bar : "_".toList = ['_'] := by decide +kernel
  have shown :
      (column :: rest).map shownWord = ((column :: rest).map associationWord).map unquote :=
    (List.map_map ..).symm
  rw [associationLabel, joined, ← shown]
  simp only [String.toList_append, String.toList_intercalate, labelWords, List.map_cons,
    List.intercalate_cons_cons, List.append_assoc, mark, bar]

/-- Between types without underscores the name gives its words back. -/
theorem splitOn_associationLabel {first second : String} {columns : List String}
    (plain : ∀ name ∈ s(first, second), '_' ∉ name.toList) (given : columns ≠ []) :
    (associationLabel first second columns).toList.splitOn '_' =
      (labelWords first second columns).map String.toList := by
  rw [toList_associationLabel first second given]
  refine List.splitOn_intercalate '_' ?_ (by simp [labelWords])
  intro word among
  obtain ⟨text, inside, rfl⟩ := List.mem_map.mp among
  simp only [labelWords, List.mem_cons, List.mem_map] at inside
  rcases inside with rfl | rfl | rfl | ⟨column, -, rfl⟩
  · decide +kernel
  · exact plain text (Sym2.mem_mk_left ..)
  · exact plain text (Sym2.mem_mk_right ..)
  · exact underscore_not_mem_shownWord column

/-! ## Names between two types -/

/-- A name has its two types in one of the two orders. -/
theorem exists_label (oneType otherType : String) (columns : List String) :
    ∃ first second, s(oneType, otherType) = s(first, second) ∧
      associationName oneType otherType columns = associationLabel first second columns := by
  unfold associationName
  split
  next => exact ⟨oneType, otherType, rfl, rfl⟩
  next => exact ⟨otherType, oneType, Sym2.eq_swap, rfl⟩

/-- The words of the columns are all that a name says of them. -/
theorem associationSuffix_eq_intercalate (columns : List String) :
    associationSuffix columns = "_".intercalate (columns.map shownWord) := by
  rw [associationSuffix, joined, List.map_map]
  rfl

theorem associationName_congr {oneType otherType thisType thatType : String}
    {columns others : List String} (types : s(oneType, otherType) = s(thisType, thatType))
    (shown : columns.map shownWord = others.map shownWord) :
    associationName oneType otherType columns = associationName thisType thatType others := by
  have suffix : associationSuffix columns = associationSuffix others := by
    rw [associationSuffix_eq_intercalate, associationSuffix_eq_intercalate, shown]
  rcases Sym2.eq_iff.mp types with ⟨rfl, rfl⟩ | ⟨rfl, rfl⟩
  · exact (associationName_eq_iff ..).mpr suffix
  · rw [associationName_comm]
    exact (associationName_eq_iff ..).mpr suffix

section Plain

variable {oneType otherType thisType thatType : String} {columns others : List String}

/-- Between types without underscores a name tells the types and the words. -/
theorem types_and_words_of_name_eq (plain : ∀ name ∈ s(oneType, otherType), '_' ∉ name.toList)
    (plainOthers : ∀ name ∈ s(thisType, thatType), '_' ∉ name.toList) (given : columns ≠ [])
    (givenOthers : others ≠ [])
    (same : associationName oneType otherType columns = associationName thisType thatType others) :
    s(oneType, otherType) = s(thisType, thatType) ∧
      columns.map shownWord = others.map shownWord := by
  obtain ⟨first, second, types, label⟩ := exists_label oneType otherType columns
  obtain ⟨first', second', types', label'⟩ := exists_label thisType thatType others
  have texts : (labelWords first second columns).map String.toList =
      (labelWords first' second' others).map String.toList := by
    rw [← splitOn_associationLabel (types ▸ plain) given,
      ← splitOn_associationLabel (types' ▸ plainOthers) givenOthers, ← label, ← label', same]
  have words : labelWords first second columns = labelWords first' second' others :=
    List.map_injective_iff.mpr (fun _ _ => String.toList_inj.mp) texts
  simp only [labelWords, List.cons.injEq, true_and] at words
  obtain ⟨rfl, rfl, shown⟩ := words
  exact ⟨types.trans types'.symm, shown⟩

/-- **Associations told apart.** Between types without underscores, associations over some columns
have one name exactly if they join the same two types and the words of their columns are the same,
one after the other. So between two types other words make another name, and another number of
columns makes another name between any types. -/
theorem associationName_tellsApart (plain : ∀ name ∈ s(oneType, otherType), '_' ∉ name.toList)
    (plainOthers : ∀ name ∈ s(thisType, thatType), '_' ∉ name.toList) (given : columns ≠ [])
    (givenOthers : others ≠ []) :
    (associationName oneType otherType columns = associationName thisType thatType others ↔
      s(oneType, otherType) = s(thisType, thatType) ∧
        columns.map shownWord = others.map shownWord) ∧
    (columns.map shownWord ≠ others.map shownWord →
      associationName oneType otherType columns ≠ associationName oneType otherType others) ∧
    (columns.length ≠ others.length →
      associationName oneType otherType columns ≠ associationName thisType thatType others) := by
  have tells := types_and_words_of_name_eq plain plainOthers given givenOthers
  refine ⟨⟨tells, fun ⟨types, shown⟩ => associationName_congr types shown⟩, ?words, ?lengths⟩
  case words =>
    intro differ same
    exact differ (types_and_words_of_name_eq plain plain given givenOthers same).2
  case lengths =>
    intro differ same
    exact differ (by simpa using congrArg List.length (tells same).2)

end Plain

/-- The words of a column name with underscores are one word in the name of an association, and a
column of separators only has an empty word, which still counts. -/
theorem associationName_tellsApart_line :
    (∀ name ∈ s("Order", "Line"), '_' ∉ name.toList) ∧
    associationName "Order" "Line" ["[order_id]", "_"] = "AN_Line_Order_OrderId_" ∧
    associationName "Order" "Line" ["[order_id]", "_"] ≠
      associationName "Line" "Order" ["Order.Id"] := by
  have plain : ∀ name ∈ s("Order", "Line"), '_' ∉ name.toList := by
    intro name among
    rcases Sym2.mem_iff.mp among with rfl | rfl <;> decide +kernel
  exact ⟨plain, by decide +kernel,
    (associationName_tellsApart plain (Sym2.eq_swap ▸ plain) (by simp) (by simp)).2.2 (by decide)⟩

end ColumnName

end EntityAtlas

import EntityAtlas.Proofs.SameColumns

/-!
# Pascal case

A surrogate is named after its column in Pascal case. In ASCII this keeps the letters of the name,
but neither their case nor what separates its words (`toLower_pascal`). Columns of one word each
that have one name in Pascal case are therefore the same column (`sameColumns_of_pascal_eq`). Other
columns need not be.
-/

set_option autoImplicit false

namespace EntityAtlas.ColumnName

open Text

/-! ## Letter case in ASCII -/

/-- A text all of whose characters are ASCII. -/
def IsAscii (text : List Char) : Prop := ∀ char ∈ text, char.toNat < 128

/-- What holds of every ASCII code holds of every ASCII character. -/
theorem forall_of_ascii (holds : Char → Prop) (codes : ∀ code < 128, holds (Char.ofNat code))
    {char : Char} (ascii : char.toNat < 128) : holds char :=
  Char.ofNat_toNat char ▸ codes char.toNat ascii

theorem upperChar_of_ascii {char : Char} (ascii : char.toNat < 128) :
    upperChar char = [char.toUpper] :=
  forall_of_ascii (fun char => upperChar char = [char.toUpper]) (by decide +kernel) ascii

theorem lowerChar_of_ascii {char : Char} (ascii : char.toNat < 128) :
    lowerChar char = [char.toLower] ∧ char ≠ '\u03A3' :=
  forall_of_ascii (fun char => lowerChar char = [char.toLower] ∧ char ≠ '\u03A3')
    (by decide +kernel) ascii

theorem toLower_toUpper_of_ascii {char : Char} (ascii : char.toNat < 128) :
    char.toUpper.toLower = char.toLower ∧ char.toLower.toLower = char.toLower :=
  forall_of_ascii (fun char => char.toUpper.toLower = char.toLower ∧
    char.toLower.toLower = char.toLower) (by decide +kernel) ascii

/-- In ASCII the lower case of a character does not depend on its neighbours. -/
theorem lowerAfter_of_ascii {text : List Char} (ascii : IsAscii text) (afterCased : Bool) :
    lowerAfter afterCased text = text.map Char.toLower := by
  induction text generalizing afterCased with
  | nil => rfl
  | cons char rest ih =>
      obtain ⟨lowered, noSigma⟩ := lowerChar_of_ascii (ascii char List.mem_cons_self)
      rw [lowerAfter, if_neg noSigma, lowered,
        ih (fun other among => ascii other (List.mem_cons_of_mem _ among))]
      rfl

/-! ## Pascal case -/

/-- Raising and lowering the letters of a word keeps them apart from their case. -/
theorem toLower_pascalWord {word : List Char} (ascii : IsAscii word) :
    (pascalWord word).map Char.toLower = word.map Char.toLower := by
  cases word with
  | nil => simp [pascalWord, firstRaised, isCapitals]
  | cons first rest =>
      have start := ascii first List.mem_cons_self
      have tail : IsAscii rest := fun char among => ascii char (List.mem_cons_of_mem _ among)
      have raised : (first.toUpper).toLower = first.toLower := (toLower_toUpper_of_ascii start).1
      unfold pascalWord
      split
      · rw [capitalized, firstRaised, upperChar_of_ascii start, lowerAfter_of_ascii tail,
          List.map_append, List.map_map, List.map_cons, raised, List.map_nil, List.singleton_append,
          List.map_cons]
        congr 1
        exact List.map_congr_left fun char among => (toLower_toUpper_of_ascii (tail char among)).2
      · rw [firstRaised, upperChar_of_ascii start, List.map_append, List.map_cons, raised,
          List.map_nil, List.singleton_append, List.map_cons]

/-- The words of a name are the name without its separators. -/
theorem flatten_words (name : List Char) :
    (words name).flatten = name.filter (!isSeparator ·) := by
  rw [words, List.flatten_filter_not_isEmpty]
  induction name with
  | nil => rfl
  | cons char rest ih =>
      rw [List.splitOnP_cons_eq_if_modifyHead]
      cases separates : isSeparator char with
      | true =>
          simp only [separates, ↓reduceIte, List.flatten_cons, List.nil_append, ih,
            Bool.not_true, Bool.false_eq_true, not_false_eq_true, List.filter_cons_of_neg]
      | false =>
          obtain ⟨word, others, split⟩ :=
            List.exists_cons_of_ne_nil (List.splitOnP_ne_nil isSeparator rest)
          rw [split, List.flatten_cons] at ih
          rw [split, if_neg Bool.false_ne_true, List.modifyHead_cons, List.flatten_cons,
            List.cons_append, ih, List.filter_cons_of_pos (by simp [separates])]

/-- **What Pascal case keeps.** In ASCII the letters of a name, apart from separators and case. -/
theorem toLower_pascal {name : String} (ascii : IsAscii name.toList) :
    (pascal name).toList.map Char.toLower =
      (name.toList.filter (!isSeparator ·)).map Char.toLower := by
  have each : ∀ word ∈ words name.toList, IsAscii word := by
    intro word among char inside
    have kept : char ∈ name.toList.filter (!isSeparator ·) :=
      flatten_words name.toList ▸ List.mem_flatten.mpr ⟨word, among, inside⟩
    exact ascii char (List.mem_filter.mp kept).1
  calc (pascal name).toList.map Char.toLower
      = (words name.toList).flatMap fun word => (pascalWord word).map Char.toLower := by
        rw [pascal, String.toList_ofList, List.map_flatMap]
    _ = (words name.toList).flatMap (List.map Char.toLower) :=
        List.flatMap_congr fun word among => toLower_pascalWord (each word among)
    _ = ((words name.toList).flatten).map Char.toLower := by
        rw [List.flatMap, List.map_flatten]
    _ = _ := by rw [flatten_words]

/-! ## Columns without separators -/

/-- A column name of one word in ASCII. -/
structure IsPlainWord (column : String) : Prop where
  ascii : IsAscii column.toList
  whole : ∀ char ∈ column.toList, isSeparator char = false

theorem isPlainWord_iff_all {column : String} :
    (column.toList.all fun char => char.toNat < 128 && !isSeparator char) = true ↔
      IsPlainWord column := by
  simp only [List.all_eq_true, Bool.and_eq_true, decide_eq_true_eq, Bool.not_eq_true']
  exact ⟨fun all => ⟨fun char among => (all char among).1, fun char among => (all char among).2⟩,
    fun plain char among => ⟨plain.ascii char among, plain.whole char among⟩⟩

instance (column : String) : Decidable (IsPlainWord column) :=
  decidable_of_iff _ isPlainWord_iff_all

/-- The characters that stand around a column name in quotes. -/
def quotes : List Char := ['[', ']', '\x22', '\x60']

theorem toLower_eq_self_of_quote {char : Char} (ascii : char.toNat < 128)
    (quote : quotes.contains char || quotes.contains char.toLower) : char.toLower = char :=
  forall_of_ascii (fun char => (quotes.contains char || quotes.contains char.toLower) →
    char.toLower = char) (by decide +kernel) ascii quote

theorem toLower_eq_quote_iff {char quote : Char} (ascii : char.toNat < 128)
    (among : quote ∈ quotes) : char.toLower = quote ↔ char = quote := by
  constructor
  · rintro rfl
    exact (toLower_eq_self_of_quote ascii (by simp [among])).symm
  · rintro rfl
    exact toLower_eq_self_of_quote ascii (by simp [among])

/-- Quotes are not letters: they come off before the case is lowered as well as after. -/
theorem unwrap_map_toLower {opening closing : Char} {name : List Char} (ascii : IsAscii name)
    (opens : opening ∈ quotes) (closes : closing ∈ quotes) :
    unwrap opening closing (name.map Char.toLower) =
      (unwrap opening closing name).map Char.toLower := by
  cases name with
  | nil => rfl
  | cons first rest =>
      have started := toLower_eq_quote_iff (ascii first List.mem_cons_self) opens
      have ended : (rest.map Char.toLower).getLast? = some closing ↔
          rest.getLast? = some closing := by
        rw [List.getLast?_map, Option.map_eq_some_iff]
        constructor
        · rintro ⟨last, stands, same⟩
          have inside := List.mem_cons_of_mem first (List.mem_of_getLast? stands)
          rw [stands, (toLower_eq_quote_iff (ascii last inside) closes).mp same]
        · intro stands
          have inside := List.mem_cons_of_mem first (List.mem_of_getLast? stands)
          exact ⟨closing, stands, (toLower_eq_quote_iff (ascii closing inside) closes).mpr rfl⟩
      simp only [List.map_cons, unwrap, started, ended]
      split
      · rw [List.map_dropLast]
      · rfl

theorem unwrap_subset (opening closing : Char) (name : List Char) :
    unwrap opening closing name ⊆ name := by
  unfold unwrap
  split
  · exact List.Subset.refl _
  · split
    · exact fun char among => List.mem_cons_of_mem _ (List.dropLast_subset _ among)
    · exact List.Subset.refl _

/-- In ASCII what a column is compared by is its lower case without quotes. -/
theorem folded_of_ascii {column : String} (ascii : IsAscii column.toList) :
    folded column =
      String.ofList (unwrap '\x60' '\x60' (unwrap '\x22' '\x22'
        (unwrap '[' ']' (column.toList.map Char.toLower)))) := by
  have inner : IsAscii (unwrap '[' ']' column.toList) :=
    fun char among => ascii char (unwrap_subset _ _ _ among)
  have middle : IsAscii (unwrap '\x22' '\x22' (unwrap '[' ']' column.toList)) :=
    fun char among => inner char (unwrap_subset _ _ _ among)
  have outer : IsAscii (unquote column).toList := by
    rw [unquote, String.toList_ofList]
    exact fun char among => middle char (unwrap_subset _ _ _ among)
  rw [folded, lower, lowerAfter_of_ascii outer, unquote, String.toList_ofList,
    unwrap_map_toLower ascii (by decide) (by decide),
    unwrap_map_toLower inner (by decide) (by decide),
    unwrap_map_toLower middle (by decide) (by decide)]

/-- **Plain words.** Where columns have no separators, one name in Pascal case is one column. -/
theorem sameColumns_of_pascal_eq {column other : String} (plain : IsPlainWord column)
    (otherPlain : IsPlainWord other) (alike : pascal column = pascal other) :
    sameColumns [column] [other] = true := by
  have letters : ∀ {name : String}, IsPlainWord name →
      (pascal name).toList.map Char.toLower = name.toList.map Char.toLower := by
    intro name plain
    rw [toLower_pascal plain.ascii,
      List.filter_eq_self.mpr fun char among => by simp [plain.whole char among]]
  have lowered : column.toList.map Char.toLower = other.toList.map Char.toLower := by
    rw [← letters plain, alike, letters otherPlain]
  rw [sameColumns_iff_perm]
  simp [folded_of_ascii plain.ascii, folded_of_ascii otherPlain.ascii, lowered]

end EntityAtlas.ColumnName

import EntityAtlas.Plural.Phrase

/-!
# English plurals

The plural of a type name, which names its resource. Blanks alone separate words, so a word inside
a name in Camel case counts by its ending only. The plural of a word whose first letter alone is a
capital is written in the same way, and that of a word in capitals in capitals; the words are
compared by their places. A bar stands between alternatives, of which the first is taken. A name of
blanks has no plural.
-/

set_option autoImplicit false

namespace EntityAtlas.Plural

/-! ## Alternatives -/

/-- What stands before a bar. -/
def beforeBar (text : List Char) : List Char := text.takeWhile (· ≠ '|')

/-- How many words blanks make of a text, empty ones included. -/
def wordCount (text : List Char) : Nat := (text.splitOn ' ').length

/-- The first of the alternatives that bars separate. If the first two are not of equally many
words, the bars separate alternatives of single words. -/
def firstChoice (plural : List Char) : List Char :=
  match plural.splitOn '|' with
  | first :: second :: _ =>
    if wordCount first = wordCount second then first
    else [' '].intercalate ((plural.splitOn ' ').map beforeBar)
  | _ => plural

/-! ## Letter case -/

/-- A word with its first letter raised and the rest in lower case. -/
def asTitle (word : List Char) : List Char := Text.firstRaised (Text.capitalized word)

/-- A plural word in the letter case of its singular. The pronoun that is always a capital says
nothing about letter case. -/
def inCaseOf (singular plural : List Char) : List Char :=
  if singular = ['I'] then plural
  else
    let titled := if asTitle singular = singular then asTitle plural else plural
    if Text.upper singular = singular then Text.upper titled else titled

/-- The words of a plural, each in the letter case of the word in its place. A word without one in
its place stays. -/
def casedWords : List (List Char) → List (List Char) → List (List Char)
  | singular :: rest, plural :: words => inCaseOf singular plural :: casedWords rest words
  | _, words => words

/-- A plural keeps its number of words. -/
theorem length_casedWords (singulars words : List (List Char)) :
    (casedWords singulars words).length = words.length := by
  fun_induction casedWords singulars words with
  | case1 singular rest plural words ih => rw [List.length_cons, ih, List.length_cons]
  | case2 => rfl

/-! ## Names -/

/-- The plural of a noun, each word in the letter case that it has in the noun. -/
def ofNoun? (noun : List Char) : Option (List Char) :=
  (plural? noun).map fun plural =>
    [' '].intercalate (casedWords (noun.splitOn ' ') ((firstChoice plural).splitOn ' '))

/-- The plural of a name. Blanks at its ends stay, and what has more than one line stays as it
is. -/
def ofName? (name : String) : Option String :=
  let letters := name.toList
  let noun := (Text.trimBlanks name).toList
  if noun.isEmpty then
    if letters.all (· == '\n') then some name else none
  else if noun.contains '\n' then some name
  else
    let blanks := letters.takeWhile Text.isBlank
    (ofNoun? noun).map fun plural =>
      String.ofList (blanks ++ plural ++ letters.drop (blanks.length + noun.length))

/-- The plurals of names. A missing name stays missing. -/
def ofNames? (names : List (Option String)) : Option (List (Option String)) :=
  names.mapM fun
    | none => some none
    | some name => (ofName? name).map some

/-- The empty name stays empty. -/
theorem ofName?_empty : ofName? "" = some "" := rfl

end EntityAtlas.Plural

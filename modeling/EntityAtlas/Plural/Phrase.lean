import EntityAtlas.Plural.Rules

/-!
# Plurals of phrases

A noun may be a phrase in which not the last word takes the plural: attorney general, mother-in-law,
pair of scissors, metre per second. The shape of a noun says which parts of it take the plural and
what stands around them. A head that is a phrase itself has a shape in turn, and what is no phrase
is left to the rules (`plural?_of_simple`). A text of blanks has no shape, as it has no word.
-/

set_option autoImplicit false

namespace EntityAtlas.Plural

/-- How the plural of a noun is put together. -/
inductive Shape where
  /-- The plural is known. -/
  | fixed (plural : List Char)
  /-- A head takes the plural between texts that stay. -/
  | headed (before head after : List Char)
  /-- Two heads take the plural, and the link between them stays. -/
  | twofold (first link second : List Char)
  /-- The noun takes the plural as a whole, by the rules. -/
  | simple

/-! ## Words in order -/

/-- Words each with a blank behind it. -/
def leading (words : List (List Char)) : List Char := words.flatMap (· ++ [' '])

/-- Words each with a blank in front of it. -/
def trailing (words : List (List Char)) : List Char := words.flatMap (' ' :: ·)

/-- Prepositions that stand behind the head of a phrase. -/
def prepositions : List String :=
  ["about", "above", "across", "after", "among", "around", "at", "athwart", "before", "behind",
   "below", "beneath", "beside", "besides", "between", "betwixt", "beyond", "but", "by", "during",
   "except", "for", "from", "in", "into", "near", "of", "off", "on", "onto", "out", "over", "since",
   "till", "to", "under", "until", "unto", "upon", "with", "de", "du", "da"]

/-- Whether a word is a preposition. -/
def isPreposition (word : List Char) : Bool := prepositions.contains (String.ofList word)

/-- A list of words cut at its first preposition that has a word in front: the words before that
word, the word, the preposition, and the words behind. -/
structure PrepositionCut where
  before : List (List Char)
  head : List Char
  preposition : List Char
  after : List (List Char)

/-- Cuts words at their first preposition that has a word in front. -/
def PrepositionCut.ofWords? : List (List Char) → Option PrepositionCut
  | head :: preposition :: after =>
    if isPreposition preposition then some { before := [], head, preposition, after }
    else (ofWords? (preposition :: after)).map fun cut => { cut with before := head :: cut.before }
  | _ => none

/-- A cut leaves every word in its place. -/
theorem PrepositionCut.eq_of_ofWords? {words : List (List Char)} {cut : PrepositionCut}
    (made : ofWords? words = some cut) :
    words = cut.before ++ cut.head :: cut.preposition :: cut.after := by
  fun_induction ofWords? words generalizing cut with
  | case1 head preposition after held =>
    obtain rfl := Option.some.inj made
    rfl
  | case2 head preposition after apart ih =>
    obtain ⟨inner, found, rfl⟩ := Option.map_eq_some_iff.mp made
    rw [List.cons_append, ← ih found]
  | case3 => exact absurd made (by simp)

/-! ## Links -/

/-- The length of the link at the start of a text: a hyphen, or blanks. -/
def linkLength? : List Char → Option Nat
  | '-' :: _ => some 1
  | text =>
    match text.takeWhile Text.isBlank with
    | [] => none
    | blanks => some blanks.length

/-- Whether a text is a link with a spelling behind it. The text is in small letters. -/
def linksTo (spelling : String) (text : List Char) : Bool :=
  (linkLength? text).any fun length => spelling.toList.isPrefixOf (text.drop length)

/-- Whether a spelling stands somewhere in a text. -/
def occursIn (spelling : String) (text : List Char) : Bool :=
  (List.range text.length).any fun start => spelling.toList.isPrefixOf (text.drop start)

/-! ## Shapes -/

/-- A noun whose last word stays as it is. In a phrase of three words or more the plural may still
go to a word in front of a preposition. -/
def phraseShape? (noun : List Char) : Option Shape :=
  let words := Text.words noun
  if words.length < 3 then none
  else (PrepositionCut.ofWords? words).map fun cut =>
    .headed (leading cut.before) cut.head (trailing (cut.preposition :: cut.after))

/-- A noun that stays as it is. -/
def unchangedShape? (noun : List Char) : Option Shape :=
  if hasUnchangedWord noun then (phraseShape? noun).or (some (.fixed noun))
  else if isUnchanged noun then some (.fixed noun)
  else none

/-- The starts of ranks with general that take the plural at their end. -/
def compoundRanks : List String := ["major", "lieutenant", "brigadier", "adjutant"]

/-- The length of the title with general behind it, for a noun in small letters: as much as possible
of the first word. -/
def titleLength? (noun : List Char) : Option Nat :=
  if (compoundRanks.any fun rank => rank.toList.isPrefixOf noun) || occursIn "star" noun then none
  else
    ((List.range (noun.takeWhile (!Text.isBlank ·)).length).reverse.map (· + 1)).find?
      fun length => linksTo "general" (noun.drop length)

/-- The length of a head with a certain word behind it, for a noun in small letters. -/
def pairLength? (head follower : String) (noun : List Char) : Option Nat :=
  if head.toList.isPrefixOf noun && linksTo follower (noun.drop head.length) then some head.length
  else none

/-- A noun with an adjective behind its head. -/
def postfixedShape? (noun : List Char) : Option Shape :=
  let plain := noun.map Char.toLower
  let length? :=
    ((titleLength? plain).or (pairLength? "court" "martial" plain)).or
      (pairLength? "pound" "force" plain)
  length?.map fun length => .headed [] (noun.take length) (noun.drop length)

/-- The length of a preposition between two links at the start of a text, links included, and what
follows behind the article a and one more link. The text is in small letters. -/
def articleLink? (text : List Char) : Option (Nat × Nat) := do
  let before ← linkLength? text
  let word ← prepositions.find? fun word =>
    word.toList.isPrefixOf (text.drop before) &&
      (linkLength? (text.drop (before + word.length))).isSome
  let start := before + word.length
  let length := start + (← linkLength? (text.drop start))
  match text.drop length with
  | 'a' :: rest => return (length, length + 1 + (← linkLength? rest))
  | _ => none

/-- A noun with a preposition and an article between two heads. The article goes. -/
def articleShape? (noun : List Char) : Option Shape := do
  let lowered := Text.lower noun
  if occursIn " a " lowered || occursIn "-a-" lowered then
    let plain := noun.map Char.toLower
    let (start, link, skipped) ← (List.range noun.length).findSome? fun start =>
      (articleLink? (plain.drop start)).map fun lengths => (start, lengths)
    let rest := noun.drop start
    match rest.drop skipped with
    | [] => none
    | second => return .twofold (noun.take start) (rest.take link) second
  else none

/-- A unit per another unit. The last place counts at which one unit may end. -/
def unitShape? (noun : List Char) : Option Shape :=
  let lowered := Text.lower noun
  let divides (link : String) (rest : List Char) : Bool :=
    link.toList.isPrefixOf rest && link.length < rest.length
  let length? := ((List.range lowered.length).reverse.filter (0 < ·)).find? fun length =>
    divides " per " (lowered.drop length) || divides " a " (lowered.drop length)
  length?.map fun length => .headed [] (noun.take length) (noun.drop length)

/-- A temperature, which has degree as its last word but one. -/
def degreeShape? (noun : List Char) : Option Shape :=
  match Text.words noun with
  | first :: second :: rest =>
    if (first :: second :: rest).reverse[1]? = some "degree".toList then
      some (.headed [] first (trailing (second :: rest)))
    else none
  | _ => none

/-- Words joined by hyphens, of which one but the last is a preposition. All letters become small,
and only the hyphens beside the preposition stay. -/
def hyphenedShape? (noun : List Char) : Option Shape := do
  let cut ← PrepositionCut.ofWords? ((Text.lower noun).splitOn '-')
  if cut.after.isEmpty then none
  else
    return .headed (leading cut.before) cut.head
      ('-' :: cut.preposition ++ '-' :: [' '].intercalate cut.after)

/-- A preposition with a pronoun behind it. -/
def pronounShape? (noun : List Char) : Option Shape :=
  let lowered := Text.lower noun
  match Text.words lowered with
  | [preposition, pronoun] =>
    if isPreposition preposition && preposition.isPrefixOf lowered &&
        pronoun.isSuffixOf lowered then
      (objectPronouns.lookup (String.ofList pronoun)).map fun plural =>
        .fixed (lowered.take (lowered.length - pronoun.length) ++ plural.toList)
    else none
  | _ => none

/-- The kinds of phrases in the order in which they are looked for. -/
def shapes : List (List Char → Option Shape) :=
  [unchangedShape?, postfixedShape?, articleShape?, phraseShape?, unitShape?, degreeShape?,
   hyphenedShape?, pronounShape?]

/-- The shape of a noun, if it has a word. -/
def shape? (noun : List Char) : Option Shape :=
  if (Text.words noun).isEmpty then none
  else some ((shapes.findSome? (· noun)).getD .simple)

/-! ## Plurals -/

/-- The plural of a noun whose shape is found in at most so many steps, unless a head of it has no
word. The empty noun stays empty. -/
def pluralWithin? : Nat → List Char → Option (List Char)
  | _, [] => some []
  | 0, _ => none
  | steps + 1, noun => do
    match ← shape? noun with
    | .fixed plural => return plural
    | .headed before head after => return before ++ (← pluralWithin? steps head) ++ after
    | .twofold first link second =>
      return (← pluralWithin? steps first) ++ link ++ (← pluralWithin? steps second)
    | .simple => return inflected rules noun

/-- The plural of a noun. Heads are shorter than their nouns, so there are no more steps than
letters. -/
def plural? (noun : List Char) : Option (List Char) :=
  pluralWithin? ((Text.lower noun).length + 1) noun

/-- A noun that is no phrase has its plural from the rules. -/
theorem plural?_of_simple {noun : List Char} (simple : shape? noun = some .simple) :
    plural? noun = some (inflected rules noun) := by
  cases noun with
  | nil => exact nomatch simple
  | cons first rest =>
    rw [plural?, pluralWithin?, simple]
    · rfl
    · exact List.cons_ne_nil first rest

end EntityAtlas.Plural

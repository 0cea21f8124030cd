import EntityAtlas.Text.Blank
import EntityAtlas.Text.Case

/-!
# Rules of English plurals

A rule says which nouns it is for, how many letters it takes off their end, and what it adds. Of a
list of rules the first that fits a noun makes its plural; a noun that none fits takes an s
(`inflected_of_fits`, `inflected_of_not_fits`). A noun may be made of several words, of which the
last is the one that counts.
-/

set_option autoImplicit false

namespace EntityAtlas.Plural

/-- Which nouns a rule is for. -/
inductive Pattern where
  /-- Nouns with one last word, in whatever letter case. -/
  | word (spelling : String)
  /-- One noun without other words, in whatever letter case. -/
  | alone (spelling : String)
  /-- Nouns with one last word, in exactly this letter case. -/
  | name (spelling : String)
  /-- Nouns with a pair of words at their end, in whatever letter case. The noun is the pair, or it
  has its parts joined by hyphens and ends with the pair. -/
  | pair (spelling : String)
  /-- All nouns with an ending, in whatever letter case. -/
  | ending (spelling : String)
  /-- All nouns with an ending, in exactly this letter case. -/
  | nameEnding (spelling : String)
  /-- The nouns with an ending, in whatever letter case, that do not start with a small letter. -/
  | raisedEnding (spelling : String)

/-- Whether a noun does not start with a small letter. -/
def startsRaised : List Char → Bool
  | [] => false
  | first :: _ => Text.upperChar first == [first]

/-- The last word of a noun. -/
def lastWord (noun : List Char) : List Char := (Text.words noun).getLast?.getD []

/-- The last two of the parts that hyphens separate, with a blank between them. -/
def lastParts (noun : List Char) : List Char :=
  [' '].intercalate ((noun.splitOn '-').reverse.take 2).reverse

/-- Whether a pattern fits a noun; `lowered` is the noun in lower case. -/
def Pattern.fits (noun lowered : List Char) : Pattern → Bool
  | .word spelling => lastWord lowered == spelling.toList
  | .alone spelling => lowered == spelling.toList
  | .name spelling => lastWord noun == spelling.toList
  | .pair spelling => lastParts lowered == spelling.toList
  | .ending spelling => spelling.toList.isSuffixOf lowered
  | .nameEnding spelling => spelling.toList.isSuffixOf noun
  | .raisedEnding spelling => spelling.toList.isSuffixOf lowered && startsRaised noun

/-- A way to form plurals. -/
structure Rule where
  pattern : Pattern
  /-- How many letters are taken off. -/
  dropped : Nat := 0
  added : String

/-- The plural of a noun by a rule. -/
def Rule.apply (rule : Rule) (noun : List Char) : List Char :=
  noun.take (noun.length - rule.dropped) ++ rule.added.toList

/-- The plural of a noun by the first rule that fits it. -/
def inflected (rules : List Rule) (noun : List Char) : List Char :=
  match rules.find? (·.pattern.fits noun (Text.lower noun)) with
  | some rule => rule.apply noun
  | none => noun ++ ['s']

/-- The first rule decides if it fits. -/
theorem inflected_of_fits {rule : Rule} {noun : List Char}
    (fits : rule.pattern.fits noun (Text.lower noun) = true) (rules : List Rule) :
    inflected (rule :: rules) noun = rule.apply noun := by
  simp [inflected, fits]

/-- A rule that does not fit has no say. -/
theorem inflected_of_not_fits {rule : Rule} {noun : List Char}
    (apart : rule.pattern.fits noun (Text.lower noun) = false) (rules : List Rule) :
    inflected (rule :: rules) noun = inflected rules noun := by
  simp [inflected, apart]

end EntityAtlas.Plural

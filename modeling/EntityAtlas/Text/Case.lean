import EntityAtlas.Text.CaseTable

/-!
# Letter case

Upper and lower case of texts, in the full form in which one character may become several.
Lower case depends on the neighbours in one place: a capital sigma that ends a word becomes the
final small sigma. The letters that Lean calls upper or lower case are capital or small here too
(`isCapital_of_isUpper`, `isSmall_of_isLower`).
-/

set_option autoImplicit false

namespace EntityAtlas.Text

/-- Whether a character is a capital letter. -/
def isCapital (char : Char) : Bool := inRuns char.toNat capitalRuns

/-- Whether a character is a small letter, or a capital joined to a small letter. -/
def isSmall (char : Char) : Bool := inRuns char.toNat smallRuns

/-- The capitals of the Latin alphabet are capital letters. -/
theorem isCapital_of_isUpper {char : Char} (upper : char.isUpper = true) :
    isCapital char = true := by
  obtain ⟨low, high⟩ := of_decide_eq_true upper
  exact inRuns_cons low high (Nat.mod_one _) _

/-- The small letters of the Latin alphabet are small letters. -/
theorem isSmall_of_isLower {char : Char} (lower : char.isLower = true) :
    isSmall char = true := by
  obtain ⟨low, high⟩ := (Bool.and_eq_true _ _).mp lower
  exact inRuns_cons (of_decide_eq_true low) (of_decide_eq_true high) (Nat.mod_one _) _

/-- Whether the rule for a final sigma looks through a character. -/
def isIgnorable (char : Char) : Bool := inRuns char.toNat ignorableRuns

/-- Whether a character has letter case. -/
def isCased (char : Char) : Bool := isCapital char || isSmall char

/-- The upper case of one character. -/
def upperChar (char : Char) : List Char :=
  match upperExpansions.lookup char.toNat with
  | some codes => codes.map Char.ofNat
  | none => [Char.ofNat (shifted char.toNat upperShifts)]

/-- The lower case of one character away from the rule for a final sigma. The dotted capital I
keeps its dot as a mark of its own. -/
def lowerChar (char : Char) : List Char :=
  if char.toNat = 0x130 then ['i', '\u0307']
  else [Char.ofNat (shifted char.toNat lowerShifts)]

/-- Whether the first character that is not ignorable exists and has letter case. -/
def startsCased (text : List Char) : Bool :=
  match text.dropWhile isIgnorable with
  | [] => false
  | char :: _ => isCased char

/-- Whether the text before a character ends cased, once the character before it is `char` and
`afterCased` says the same of the text before that one. -/
def endsCased (afterCased : Bool) (char : Char) : Bool :=
  if isIgnorable char then afterCased else isCased char

/-- The lower case of a text that follows other text; `afterCased` says whether that other text
ends with a cased character, ignorable ones aside. -/
def lowerAfter (afterCased : Bool) : List Char → List Char
  | [] => []
  | char :: rest =>
    let lowered :=
      if char = '\u03A3' then
        [if afterCased && !startsCased rest then '\u03C2' else '\u03C3']
      else lowerChar char
    lowered ++ lowerAfter (endsCased afterCased char) rest

/-- The lower case of a text. -/
def lower (text : List Char) : List Char := lowerAfter false text

/-- The upper case of a text. -/
def upper (text : List Char) : List Char := text.flatMap upperChar

/-- Whether a text is in capitals: it has a capital letter and no small one. -/
def isCapitals (text : List Char) : Bool :=
  text.any isCapital && !text.any isSmall

/-- A word in capitals as a name: its first letter kept and the rest in lower case. -/
def capitalized : List Char → List Char
  | [] => []
  | first :: rest => first :: lowerAfter (endsCased false first) rest

/-- A word with its first letter raised. -/
def firstRaised : List Char → List Char
  | [] => []
  | first :: rest => upperChar first ++ rest

end EntityAtlas.Text

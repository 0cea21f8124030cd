import EntityAtlas.Plural.Rule

/-!
# The rules in order

Exceptions come before the rules that they are exceptions to: single words before the endings that
they share with others, and long endings before short ones. Words from Latin and Greek take their
foreign plural only where English has no other. What stays as it is stands apart from the
rules: it is looked for before a noun is taken for a phrase.
-/

set_option autoImplicit false

namespace EntityAtlas.Plural

/-! ## Groups of rules -/

/-- Rules that treat some spellings alike. -/
def forAll (pattern : String → Pattern) (spellings : List String) (dropped : Nat) (added : String) :
    List Rule :=
  spellings.map fun spelling => { pattern := pattern spelling, dropped, added }

/-- Rules that treat some words alike. -/
def forWords (spellings : List String) (dropped : Nat) (added : String) : List Rule :=
  forAll .word spellings dropped added

/-- Rules that treat some endings alike. -/
def forEndings (spellings : List String) (dropped : Nat) (added : String) : List Rule :=
  forAll .ending spellings dropped added

/-- Rules for words whose plural is a word of its own. -/
def forPairs (pattern : String → Pattern) (pairs : List (String × String)) : List Rule :=
  pairs.map fun (singular, plural) =>
    { pattern := pattern singular, dropped := singular.length, added := plural }

/-! ## Words that stay as they are -/

/-- Words whose plural is the word itself. -/
def unchangedWords : List String :=
  ["tuna", "salmon", "mackerel", "trout", "bream", "sea-bass", "carp", "cod", "flounder", "whiting",
   "moose", "graffiti", "djinn", "samuri", "offspring", "pence", "quid", "hertz", "breeches",
   "britches", "pajamas", "pyjamas", "clippers", "gallows", "hijinks", "headquarters", "pliers",
   "scissors", "testes", "herpes", "pincers", "shears", "proceedings", "trousers", "cantus",
   "coitus", "nexus", "contretemps", "corps", "debris", "siemens", "mumps", "diabetes",
   "jackanapes", "series", "species", "subspecies", "rabies", "chassis", "innings", "news", "mews",
   "haggis"]

/-- Names of peoples whose plural is the name itself. -/
def unchangedNames : List String :=
  ["Portuguese", "Amoyese", "Borghese", "Congoese", "Faroese", "Foochowese", "Genevese", "Genoese",
   "Gilbertese", "Hottentotese", "Kiplingese", "Kongoese", "Lucchese", "Maltese", "Nankingese",
   "Niasese", "Pekingese", "Piedmontese", "Pistoiese", "Sarawakese", "Shavese", "Vermontese",
   "Wenchowese", "Yengeese"]

/-- Endings of words whose plural is the word itself. -/
def unchangedEndings : List String :=
  ["butter", "cash", "furniture", "information", "equipment", "livestock", "baggage", "luggage",
   "cutlery", "jewelry", "machinery", "fish", "deer", "sheep", "nese", "rese", "lese", "mese",
   "pox", "craft", "ois", "measles"]

/-- Whether the last word of a noun stays as it is. -/
def hasUnchangedWord (noun : List Char) : Bool :=
  unchangedWords.contains (String.ofList (Text.lower (lastWord noun)))

/-- Whether a noun stays as it is for being a name or for its ending. -/
def isUnchanged (noun : List Char) : Bool :=
  unchangedNames.contains (String.ofList noun) ||
    unchangedEndings.any fun spelling => spelling.toList.isSuffixOf (Text.lower noun)

/-! ## Words with a plural of their own -/

/-- Pronouns that are spoken of, with their plurals. -/
def objectPronouns : List (String × String) :=
  [("me", "us"), ("myself", "ourselves"), ("you", "you"), ("yourself", "yourselves"),
   ("her", "them"), ("herself", "themselves"), ("him", "them"), ("himself", "themselves"),
   ("it", "them"), ("itself", "themselves"), ("them", "them"), ("themself", "themselves")]

/-- Pronouns that act or own, with their plurals. -/
def subjectPronouns : List (String × String) :=
  [("i", "we"), ("he", "they"), ("she", "they"), ("it", "they"), ("they", "they"),
   ("mine", "ours"), ("yours", "yours"), ("hers", "theirs"), ("his", "theirs"), ("its", "theirs"),
   ("theirs", "theirs")]

/-- Nouns with their plurals. -/
def irregularNouns : List (String × String) :=
  [("child", "children"), ("chili", "chilis"), ("brother", "brothers"), ("infinity", "infinities"),
   ("loaf", "loaves"), ("lore", "lores"), ("hoof", "hoofs"), ("beef", "beefs"),
   ("thief", "thiefs"), ("money", "monies"), ("mongoose", "mongooses"), ("ox", "oxen"),
   ("cow", "cows"), ("graffito", "graffiti"), ("octopus", "octopuses"), ("genie", "genies"),
   ("ganglion", "ganglions"), ("trilby", "trilbys"), ("turf", "turfs"), ("numen", "numina"),
   ("atman", "atmas"), ("occiput", "occiputs"), ("sabretooth", "sabretooths"),
   ("sabertooth", "sabertooths"), ("lowlife", "lowlifes"), ("flatfoot", "flatfoots"),
   ("tenderfoot", "tenderfoots"), ("romany", "romanies"), ("jerry", "jerries"), ("mary", "maries"),
   ("talouse", "talouses"), ("rom", "roma"), ("carmen", "carmina"), ("corpus", "corpuses"),
   ("opus", "opuses"), ("genus", "genera"), ("mythos", "mythoi"), ("penis", "penises"),
   ("testis", "testes"), ("atlas", "atlases"), ("yes", "yeses")]

/-- Names with their plurals. -/
def irregularNames : List (String × String) :=
  [("Romany", "Romanies"), ("Jerry", "Jerrys"), ("Mary", "Marys"), ("Rom", "Roma")]

/-- The rules for words with a plural of their own. A pronoun is one only where it stands alone;
there it acts if it may. -/
def irregularRules : List Rule :=
  forPairs .alone subjectPronouns ++ forPairs .alone objectPronouns ++
    forPairs .name irregularNames ++
    forPairs .word irregularNouns ++
    forPairs .pair [("prima donna", "prima donnas")]

/-! ## Families -/

/-- Endings of words in man that take an s. -/
def plainWordsInMan : List String :=
  ["ataman", "caiman", "cayman", "ceriman", "desman", "dolman", "farman", "harman", "hetman",
   "human", "leman", "ottoman", "shaman", "talisman"]

/-- Endings of names in man that take an s. -/
def plainNamesInMan : List String :=
  ["Alabaman", "Bahaman", "Burman", "German", "Hiroshiman", "Liman", "Nakayaman", "Norman",
   "Oklahoman", "Panaman", "Roman", "Selman", "Sonaman", "Tacoman", "Yakiman", "Yokohaman", "Yuman"]

/-- The rules for families of words that change their vowel, and for the words that only look like
them. -/
def vowelRules : List Rule :=
  forEndings ["quy"] 1 "ies" ++ forEndings ["person"] 4 "ople" ++
    forEndings plainWordsInMan 0 "s" ++
    forAll .nameEnding plainNamesInMan 0 "s" ++
    forEndings ["man"] 3 "men" ++ forEndings ["mouse"] 5 "mice" ++
    forAll .alone ["louse", "booklouse", "grapelouse", "woodlouse"] 5 "lice" ++
    forEndings ["louse"] 0 "s" ++ forEndings ["goose"] 5 "geese" ++
    forEndings ["tooth"] 5 "teeth" ++ forEndings ["foot"] 4 "feet" ++
    forEndings ["taco"] 5 "tacos" ++ forAll .alone ["die"] 3 "dice"

/-- The rules for words that keep the plural of the language they come from. -/
def foreignRules : List Rule :=
  forEndings ["ceps"] 0 "" ++ forEndings ["zoon"] 2 "a" ++
    forEndings ["cis", "sis", "xis"] 2 "es" ++
    forEndings ["czech", "eunuch", "stomach"] 0 "s" ++
    forEndings ["codex", "murex", "silex", "radix", "helix"] 2 "ices" ++
    forEndings
      ["bacterium", "agendum", "desideratum", "erratum", "stratum", "datum", "ovum", "extremum",
       "candelabrum"] 2 "a" ++
    forEndings
      ["alumnus", "alveolus", "bacillus", "bronchus", "locus", "nucleus", "stimulus", "meniscus",
       "sarcophagus"] 2 "i" ++
    forEndings
      ["criterion", "perihelion", "aphelion", "phenomenon", "prolegomenon", "noumenon", "organon",
       "asyndeton", "hyperbaton"] 2 "a" ++
    forEndings ["alumna", "alga", "vertebra", "persona", "vita"] 0 "e"

/-! ## Endings -/

/-- Words in s that are no plurals. -/
def singularWords : List String :=
  ["acropolis", "aegis", "alias", "asbestos", "bathos", "bias", "bronchitis", "bursitis", "caddis",
   "cannabis", "canvas", "chaos", "cosmos", "dais", "digitalis", "epidermis", "ethos", "eyas",
   "gas", "glottis", "hubris", "ibis", "lens", "mantis", "marquis", "metropolis", "pathos",
   "pelvis", "polis", "rhinoceros", "sassafras", "trellis", "ephemeris", "iris", "clitoris",
   "chrysalis", "epididymis"]

/-- The rules for words that end in a hissing sound. -/
def sibilantRules : List Rule :=
  forWords singularWords 0 "es" ++ forEndings ["ss", "us", "itis"] 0 "es" ++
    forAll .raisedEnding ["es"] 0 "es" ++
    forEndings ["quartz", "topaz", "zz"] 0 "es" ++ forEndings ["z"] 0 "zes" ++
    forEndings ["ch", "sh", "x"] 0 "es"

/-- The rules for an f that becomes a v. -/
def voicedRules : List Rule :=
  forEndings ["elf", "alf", "olf"] 1 "ves" ++ forEndings ["deaf"] 0 "s" ++
    forEndings ["eaf"] 1 "ves" ++ forEndings ["nife", "life", "wife"] 2 "ves" ++
    forEndings ["arf"] 1 "ves"

/-- The rules for a final y, which stays after a vowel. -/
def finalYRules : List Rule :=
  forEndings ["ay", "ey", "iy", "oy", "uy"] 0 "s" ++ forAll .alone ["y"] 0 "s" ++
    forEndings ["y"] 1 "ies"

/-- Endings of words in o that take an s alone. -/
def plainEndingsInO : List String :=
  ["aficionado", "aggro", "albino", "allegro", "ammo", "archipelago", "armadillo", "auto",
   "avocado", "bimbo", "bingo", "bolero", "bongo", "burro", "canto", "cappuccino", "casino",
   "cello", "cilantro", "cochito", "coco", "commando", "concertino", "contango", "credo",
   "crescendo", "cyano", "demo", "ditto", "dynamo", "embryo", "espresso", "euro", "falsetto",
   "fiasco", "flamenco", "furioso", "generalissimo", "ghetto", "gigolo", "gizmo", "gringo", "guano",
   "gumbo", "gyro", "hairdo", "hippo", "impetigo", "inferno", "info", "intermezzo", "intertrigo",
   "jumbo", "junto", "kilo", "libero", "libido", "libretto", "lido", "limbo", "limo", "lineno",
   "lingo", "lino", "livedo", "loco", "logo", "lumbago", "macho", "macro", "mafioso", "magneto",
   "magnifico", "manifesto", "medico", "memo", "metro", "micro", "mono", "myo", "neutrino",
   "octavo", "oregano", "panto", "pedalo", "photo", "pimento", "pinto", "pleco", "pogo", "polo",
   "poncho", "pro", "psycho", "pueblo", "quarto", "repo", "rhino", "risotto", "rococo", "rondo",
   "saddo", "sago", "salvo", "scherzando", "scherzo", "silo", "sirocco", "sombrero", "staccato",
   "sterno", "stucco", "stylo", "sumo", "techno", "terrazzo", "testudo", "timpano", "tiro",
   "tobacco", "torero", "torso", "tremolo", "typo", "tyro", "ufo", "vaquero", "vermicello", "verso",
   "vibrato", "violoncello", "weirdo", "yo-yo", "zero", "solo", "soprano", "basso", "alto",
   "contralto", "tempo", "piano", "virtuoso"]

/-- The rules for a final o. -/
def finalORules : List Rule :=
  forWords ["ado", "oto"] 0 "s" ++ forEndings plainEndingsInO 0 "s" ++
    forEndings ["ao", "eo", "io", "oo", "uo"] 0 "s" ++ forEndings ["o"] 0 "es"

/-- All rules in order. -/
def rules : List Rule :=
  irregularRules ++ vowelRules ++ foreignRules ++ sibilantRules ++ voicedRules ++
    finalYRules ++ finalORules

end EntityAtlas.Plural

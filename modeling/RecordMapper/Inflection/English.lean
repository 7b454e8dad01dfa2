import RecordMapper.Inflection.Rule

/-! # English nouns

The rules by which a noun is put into the plural and back into the singular: pairs that follow no
rule, nouns without a plural form, and two lists of rules for endings in which later rules go before
earlier ones.
-/

namespace RecordMapper.Inflection

open Text

/-- Singular and plural of the words that follow no rule. Where a word occurs twice the later pair
counts. -/
def irregularPairs : List (String × String) := [
  ("I", "we"), ("me", "us"), ("he", "they"), ("she", "they"), ("them", "them"),
  ("myself", "ourselves"), ("yourself", "yourselves"), ("itself", "themselves"),
  ("herself", "themselves"), ("himself", "themselves"), ("themself", "themselves"), ("is", "are"),
  ("was", "were"), ("has", "have"), ("this", "these"), ("that", "those"), ("my", "our"),
  ("its", "their"), ("his", "their"), ("her", "their"), ("echo", "echoes"), ("dingo", "dingoes"),
  ("volcano", "volcanoes"), ("tornado", "tornadoes"), ("torpedo", "torpedoes"),
  ("genus", "genera"), ("viscus", "viscera"), ("stigma", "stigmata"), ("stoma", "stomata"),
  ("dogma", "dogmata"), ("lemma", "lemmata"), ("schema", "schemata"), ("anathema", "anathemata"),
  ("ox", "oxen"), ("axe", "axes"), ("die", "dice"), ("yes", "yeses"), ("foot", "feet"),
  ("eave", "eaves"), ("goose", "geese"), ("tooth", "teeth"), ("quiz", "quizzes"),
  ("human", "humans"), ("proof", "proofs"), ("carve", "carves"), ("valve", "valves"),
  ("looey", "looies"), ("thief", "thieves"), ("groove", "grooves"), ("pickaxe", "pickaxes"),
  ("passerby", "passersby"), ("canvas", "canvases")]

/-- Words without a plural form. -/
def uncountableWords : List String := [
  "adulthood", "advice", "agenda", "aid", "aircraft", "alcohol", "ammo", "analytics", "anime",
  "athletics", "audio", "bison", "blood", "bream", "buffalo", "butter", "carp", "cash", "chassis",
  "chess", "clothing", "cod", "commerce", "cooperation", "corps", "debris", "diabetes",
  "digestion", "elk", "energy", "equipment", "excretion", "expertise", "firmware", "flounder",
  "fun", "gallows", "garbage", "graffiti", "hardware", "headquarters", "health", "herpes",
  "highjinks", "homework", "housework", "information", "jeans", "justice", "kudos", "labour",
  "literature", "machinery", "mackerel", "mail", "media", "mews", "moose", "music", "mud", "manga",
  "news", "only", "personnel", "pike", "plankton", "pliers", "police", "pollution", "premises",
  "rain", "research", "rice", "salmon", "scissors", "series", "sewage", "shambles", "shrimp",
  "software", "staff", "swine", "tennis", "traffic", "transportation", "trout", "tuna", "wealth",
  "welfare", "whiting", "wildebeest", "wildlife", "you"]

/-- Endings of words without a plural form. -/
def uncountableRules : List Rule := [
  .keep (.lit "pok" ++ .oneOf "eé" ++ .lit "mon"),
  .keep (.noneOf "aeiou" ++ .lit "ese"),
  .keep (.lit "deer"),
  .keep (.lit "fish"),
  .keep (.lit "measles"),
  .keep (.lit "o" ++ .oneOf "iu" ++ .lit "s"),
  .keep (.lit "pox"),
  .keep (.lit "sheep")]

/-- Stems that end in `us` and `i`. -/
def usStems : List String :=
  ["alumn", "syllab", "vir", "radi", "nucle", "fung", "cact", "stimul", "termin", "bacill", "foc",
    "uter", "loc", "strat"]

/-- Stems that end in `on` and `a`. -/
def onStems : List String :=
  ["apheli", "hyperbat", "periheli", "asyndet", "noumen", "phenomen", "criteri", "organ",
    "prolegomen", "hedr", "automat"]

/-- Whether a letter lies outside ASCII in both cases. -/
def isForeign (c : Char) : Bool := 128 ≤ (Pattern.caseKey c).toNat

/-- Rules that form the plural. -/
def pluralRules : List Rule := [
  .ending (.optional (.lit "s")) [.text "s"],
  .ending (.one isForeign) [.group 0],
  .ending (.group (.noneOf "aeiou" ++ .lit "ese")) [.group 1],
  .ending (.group (.anyLit ["ax", "test"]) ++ .lit "is") [.group 1, .text "es"],
  .ending (.group (.anyOf [.lit "alias", .noneOf "aou" ++ .lit "us",
    .lit "t" ++ .oneOf "lm" ++ .lit "as", .lit "gas", .lit "ris"])) [.group 1, .text "es"],
  .ending (.group (.lit "e" ++ .oneOf "mn" ++ .lit "u") ++ .optional (.lit "s"))
    [.group 1, .text "s"],
  .ending (.group (.anyOf [.noneOf "l" ++ .lit "ias", .oneOf "aeiou" ++ .lit "las",
    .oneOf "ejzr" ++ .lit "as", .oneOf "iu" ++ .lit "am"])) [.group 1],
  .ending (.group (.anyLit usStems) ++ .anyLit ["us", "i"]) [.group 1, .text "i"],
  .ending (.group (.anyLit ["alumn", "alg", "vertebr"]) ++ .anyLit ["a", "ae"])
    [.group 1, .text "ae"],
  .ending (.group (.anyLit ["seraph", "cherub"]) ++ .optional (.lit "im")) [.group 1, .text "im"],
  .ending (.group (.anyLit ["her", "at", "gr"]) ++ .lit "o") [.group 1, .text "oes"],
  .ending (.group (.anyLit ["agend", "addend", "millenni", "dat", "extrem", "bacteri", "desiderat",
    "strat", "candelabr", "errat", "ov", "symposi", "curricul", "automat", "quor"]) ++
    .anyLit ["a", "um"]) [.group 1, .text "a"],
  .ending (.group (.anyLit onStems) ++ .anyLit ["a", "on"]) [.group 1, .text "a"],
  .ending (.lit "sis") [.text "ses"],
  .ending (.anyOf [.group (.anyLit ["kni", "wi", "li"]) ++ .lit "fe",
    .group (.anyLit ["ar", "l", "ea", "eo", "oa", "hoo"]) ++ .lit "f"])
    [.group 1, .group 2, .text "ves"],
  .ending (.group (.anyOf [.noneOf "aeiouy", .lit "qu"]) ++ .lit "y") [.group 1, .text "ies"],
  .ending (.group (.noneOf "ch" ++ .oneOf "ieo" ++ .oneOf "ln") ++ .lit "ey")
    [.group 1, .text "ies"],
  .ending (.group (.anyLit ["x", "ch", "ss", "sh", "zz"])) [.group 1, .text "es"],
  .ending (.group (.anyLit ["matr", "cod", "mur", "sil", "vert", "ind", "append"]) ++
    .anyLit ["ix", "ex"]) [.group 1, .text "ices"],
  .ending (.wordEdge ++ .group (.anyOf [.optional (.lit "tit") ++ .lit "m", .lit "l"]) ++
    .anyLit ["ice", "ouse"]) [.group 1, .text "ice"],
  .ending (.group (.lit "pe") ++ .anyLit ["rson", "ople"]) [.group 1, .text "ople"],
  .ending (.group (.lit "child") ++ .optional (.lit "ren")) [.group 1, .text "ren"],
  .ending (.lit "eaux") [.group 0],
  .ending (.lit "m" ++ .oneOf "ae" ++ .lit "n") [.text "men"],
  .ending (.textStart ++ .lit "thou") [.text "you"]]

/-- Rules that form the singular. -/
def singularRules : List Rule := [
  .ending (.lit "s") [],
  .ending (.group (.lit "ss")) [.group 1],
  .ending (.group (.anyOf [.lit "wi", .lit "kni",
    .anyOf [.lit "after", .lit "half", .lit "high", .lit "low", .lit "mid", .lit "non",
      .lit "night", .one fun c => !isWordCharacter c, .textStart] ++ .lit "li"]) ++ .lit "ves")
    [.group 1, .text "fe"],
  .ending (.group (.anyOf [.lit "ar", .anyOf [.lit "wo", .oneOf "ae"] ++ .lit "l",
    .oneOf "eo" ++ .oneOf "ao"]) ++ .lit "ves") [.group 1, .text "f"],
  .ending (.lit "ies") [.text "y"],
  .ending (.group (.anyLit ["dg", "ss", "ois", "lk", "ok", "wn", "mb", "th", "ch", "ec", "oal",
    "is", "ck", "ix", "sser", "ts", "wb"]) ++ .lit "ies") [.group 1, .text "ie"],
  .ending (.wordEdge ++ .group (.anyOf [.lit "l",
    .optional (.anyLit ["neck", "cross", "hog", "aun"]) ++ .lit "t", .lit "coll", .lit "faer",
    .lit "food", .lit "gen", .lit "goon", .lit "group", .lit "hipp", .lit "junk", .lit "vegg",
    .optional (.lit "pork") ++ .lit "p", .lit "charl", .lit "calor", .lit "cut"]) ++ .lit "ies")
    [.group 1, .text "ie"],
  .ending (.wordEdge ++ .group (.anyLit ["mon", "smil"]) ++ .lit "ies") [.group 1, .text "ey"],
  .ending (.wordEdge ++ .group (.anyOf [.optional (.lit "tit") ++ .lit "m", .lit "l"]) ++
    .lit "ice") [.group 1, .text "ouse"],
  .ending (.group (.anyLit ["seraph", "cherub"]) ++ .lit "im") [.group 1],
  .ending (.group (.anyOf [.lit "x", .lit "ch", .lit "ss", .lit "sh", .lit "zz", .lit "tto",
    .lit "go", .lit "cho", .lit "alias", .noneOf "aou" ++ .lit "us",
    .lit "t" ++ .oneOf "lm" ++ .lit "as", .lit "gas", .anyLit ["her", "at", "gr"] ++ .lit "o", .oneOf "aeiou" ++ .lit "ris"]) ++
    .optional (.lit "es")) [.group 1],
  .ending (.group (.anyLit ["analy", "diagno", "parenthe", "progno", "synop", "the", "empha", "cri",
    "ne"]) ++ .anyLit ["sis", "ses"]) [.group 1, .text "sis"],
  .ending (.group (.anyOf [.lit "movie", .lit "twelve", .lit "abuse",
    .lit "e" ++ .oneOf "mn" ++ .lit "u"]) ++ .lit "s") [.group 1],
  .ending (.group (.lit "test") ++ .anyLit ["is", "es"]) [.group 1, .text "is"],
  .ending (.group (.anyLit usStems) ++ .anyLit ["us", "i"]) [.group 1, .text "us"],
  .ending (.group (.anyLit ["agend", "addend", "millenni", "dat", "extrem", "bacteri", "desiderat",
    "strat", "candelabr", "errat", "ov", "symposi", "curricul", "quor"]) ++ .lit "a")
    [.group 1, .text "um"],
  .ending (.group (.anyLit onStems) ++ .lit "a") [.group 1, .text "on"],
  .ending (.group (.anyLit ["alumn", "alg", "vertebr"]) ++ .lit "ae") [.group 1, .text "a"],
  .ending (.group (.anyLit ["cod", "mur", "sil", "vert", "ind"]) ++ .lit "ices")
    [.group 1, .text "ex"],
  .ending (.group (.anyLit ["matr", "append"]) ++ .lit "ices") [.group 1, .text "ix"],
  .ending (.group (.lit "pe") ++ .group (.anyLit ["rson", "ople"])) [.group 1, .text "rson"],
  .ending (.group (.lit "child") ++ .lit "ren") [.group 1],
  .ending (.group (.lit "eau") ++ .optional (.lit "x")) [.group 1],
  .ending (.lit "men") [.text "man"]]

/-! ## Forming the plural and the singular -/

/-- The plural of an irregular singular. -/
def irregularPlural? (word : String) : Option String :=
  (irregularPairs.reverse.find? fun pair => pair.1 == word).map Prod.snd

/-- The singular of an irregular plural. -/
def irregularSingular? (word : String) : Option String :=
  (irregularPairs.reverse.find? fun pair => pair.2 == word).map Prod.fst

/-- Applies rules to a word; an empty word and an uncountable one stay. -/
def applyRules (rules : List Rule) (word : String) : String :=
  if word.isEmpty || uncountableWords.contains word then word
  else String.ofList (Rule.applyLast (rules ++ uncountableRules) word.toList)

/-- The plural of a lower-case word. A word that is an irregular plural already stays. -/
def pluralize (word : String) : String :=
  if (irregularSingular? word).isSome then word
  else match irregularPlural? word with
    | some form => form.toLower
    | none => applyRules pluralRules word

/-- The singular of a lower-case word. A word that is an irregular singular already stays. -/
def singularize (word : String) : String :=
  if (irregularPlural? word).isSome then word
  else match irregularSingular? word with
    | some form => form.toLower
    | none => applyRules singularRules word

end RecordMapper.Inflection

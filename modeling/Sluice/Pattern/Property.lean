import Sluice.Pattern.CharSet

/-!
# Properties by name

A property is named without regard to case, blanks, hyphens and underscores, and a leading `is` is
passed over.  A name alone is sought among the properties, then among the general categories, then
among the scripts.
-/

set_option autoImplicit false

namespace Sluice

namespace Pattern

def plainName (name : List Char) : String :=
  let lower := name.map Char.toLower
  let hasIs := lower.take 2 = ['i', 's']
  let letters := (if hasIs then lower.drop 2 else lower).filter fun c =>
    c != ' ' && c != '_' && c != '-' && decide (c.toNat < 128)
  if hasIs ∧ letters = ['c'] then "isc" else String.ofList letters

/-- Names of general categories, each with the categories that it is made of. -/
def categoryNames : List (List String × List String) := [
  (["l", "letter"], ["Lu", "Ll", "Lt", "Lm", "Lo"]),
  (["lu", "uppercaseletter"], ["Lu"]), (["ll", "lowercaseletter"], ["Ll"]),
  (["lt", "titlecaseletter"], ["Lt"]), (["lc", "casedletter"], ["Lu", "Ll", "Lt"]),
  (["lm", "modifierletter"], ["Lm"]), (["lo", "otherletter"], ["Lo"]),
  (["m", "mark", "combiningmark"], ["Mn", "Mc", "Me"]),
  (["mn", "nonspacingmark"], ["Mn"]), (["mc", "spacingmark"], ["Mc"]),
  (["me", "enclosingmark"], ["Me"]),
  (["n", "number"], ["Nd", "Nl", "No"]), (["nd", "decimalnumber", "digit"], ["Nd"]),
  (["nl", "letternumber"], ["Nl"]), (["no", "othernumber"], ["No"]),
  (["p", "punctuation", "punct"], ["Pc", "Pd", "Ps", "Pe", "Pi", "Pf", "Po"]),
  (["pc", "connectorpunctuation"], ["Pc"]), (["pd", "dashpunctuation"], ["Pd"]),
  (["ps", "openpunctuation"], ["Ps"]), (["pe", "closepunctuation"], ["Pe"]),
  (["pi", "initialpunctuation"], ["Pi"]), (["pf", "finalpunctuation"], ["Pf"]),
  (["po", "otherpunctuation"], ["Po"]),
  (["s", "symbol"], ["Sm", "Sc", "Sk", "So"]), (["sm", "mathsymbol"], ["Sm"]),
  (["sc", "currencysymbol"], ["Sc"]), (["sk", "modifiersymbol"], ["Sk"]),
  (["so", "othersymbol"], ["So"]),
  (["z", "separator"], ["Zs", "Zl", "Zp"]), (["zs", "spaceseparator"], ["Zs"]),
  (["zl", "lineseparator"], ["Zl"]), (["zp", "paragraphseparator"], ["Zp"]),
  (["c", "other"], ["Cc", "Cf", "Co", "Cn"]), (["cc", "control", "cntrl"], ["Cc"]),
  (["cf", "format"], ["Cf"]), (["co", "privateuse"], ["Co"]), (["cn", "unassigned"], ["Cn"])]

def scriptNames : List (String × String) := [
  ("arab", "arabic"), ("armn", "armenian"), ("beng", "bengali"), ("bopo", "bopomofo"),
  ("brai", "braille"), ("cans", "canadianaboriginal"), ("cher", "cherokee"), ("copt", "coptic"),
  ("qaac", "coptic"), ("cyrl", "cyrillic"), ("deva", "devanagari"), ("egyp", "egyptianhieroglyphs"),
  ("ethi", "ethiopic"), ("geor", "georgian"), ("goth", "gothic"), ("grek", "greek"),
  ("gujr", "gujarati"), ("guru", "gurmukhi"), ("hang", "hangul"), ("hani", "han"),
  ("hebr", "hebrew"), ("hira", "hiragana"), ("kana", "katakana"), ("khmr", "khmer"),
  ("knda", "kannada"), ("laoo", "lao"), ("latn", "latin"), ("mlym", "malayalam"),
  ("mong", "mongolian"), ("mymr", "myanmar"), ("ogam", "ogham"), ("orya", "oriya"),
  ("runr", "runic"), ("sinh", "sinhala"), ("syrc", "syriac"), ("taml", "tamil"), ("telu", "telugu"),
  ("thaa", "thaana"), ("tibt", "tibetan"), ("yiii", "yi"), ("zyyy", "common"),
  ("zinh", "inherited"), ("qaai", "inherited")]

/-- Names of properties that stand for the names of their tables. -/
def propertyNames : List (String × String) := [
  ("ahex", "asciihexdigit"), ("hex", "hexdigit"), ("epres", "emojipresentation"),
  ("extpict", "extendedpictographic"), ("ideo", "ideographic"), ("qmark", "quotationmark"),
  ("dia", "diacritic"), ("uideo", "unifiedideograph")]

def tableOf? (tables : List (String × List String)) (name : String) : Option CharSet :=
  (tables.lookup name).map fun lines => .table (RangeTable.ofLines lines)

def categories (names : List String) : CharSet :=
  .unionOf (names.filterMap (tableOf? categoryLines))

def category? (name : String) : Option CharSet :=
  if name = "any" then some .any
  else if name = "ascii" then some (.range 0 0x7F)
  else if name = "assigned" then some (.complement (categories ["Cn"]))
  else (categoryNames.find? (·.1.contains name)).map fun entry => categories entry.2

def script? (name : String) : Option CharSet :=
  tableOf? scriptLines ((scriptNames.lookup name).getD name)

/-- A category together with the code points that a property adds to it. -/
def extended (names : List String) (extra : String) : CharSet :=
  .union (categories names) ((tableOf? propertyLines extra).getD .none)

def property? (name : String) : Option CharSet :=
  if name = "alphabetic" ∨ name = "alpha" then
    some (extended ["Lu", "Ll", "Lt", "Lm", "Lo", "Nl"] "otheralphabetic")
  else if name = "lowercase" ∨ name = "lower" then some (extended ["Ll"] "otherlowercase")
  else if name = "uppercase" ∨ name = "upper" then some (extended ["Lu"] "otheruppercase")
  else if name = "whitespace" ∨ name = "space" ∨ name = "wspace" then some .blank
  else tableOf? propertyLines ((propertyNames.lookup name).getD name)

def namedSet? (name : List Char) : Option CharSet :=
  let name := plainName name
  let byProperty := if name = "cf" ∨ name = "sc" ∨ name = "lc" then none else property? name
  byProperty <|> category? name <|> script? name

def valueSet? (property value : List Char) : Option CharSet :=
  let property := plainName property
  let value := plainName value
  if property = "gc" ∨ property = "generalcategory" then category? value
  else if property = "sc" ∨ property = "script" ∨ property = "scx" ∨
      property = "scriptextensions" then script? value
  else none

end Pattern

end Sluice

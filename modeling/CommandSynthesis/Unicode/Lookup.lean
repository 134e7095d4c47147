import CommandSynthesis.Unicode.Age
import CommandSynthesis.Unicode.Break
import CommandSynthesis.Unicode.ScriptExtensions

set_option autoImplicit false

/-!
# Finding sets of characters

The code points with a property, given by its name alone or by its name and a value. Names are
compared loosely: case, blanks, hyphens and underscores do not count.
-/

namespace CommandSynthesis.Unicode

inductive LookupError where
  | unknownProperty
  | unknownValue
  deriving DecidableEq, Repr

/-- A name in the form in which names are compared: ASCII characters in lower case, without blanks,
hyphens and underscores, and without `is` in front unless `isc` is all of it. -/
def normalName (name : String) : String :=
  let chars := name.toList
  let marked := (chars.take 2).map Char.toLower = ['i', 's']
  let kept := ((if marked then chars.drop 2 else chars).map Char.toLower).filter fun c =>
    c ≠ ' ' && c ≠ '-' && c ≠ '_' && c.toNat < 0x80
  if marked ∧ kept = ['c'] then "isc" else String.ofList kept

/-- The properties with values that are sets, under their names. -/
def valuedProperties : List (List String × (String → Option CodeRanges)) :=
  [
    (["gc", "generalcategory"], Category.find?),
    (["sc", "script"], Script.find?),
    (["scx", "scriptextensions"], ScriptExtensions.find?),
    (["age"], Age.find?),
    (["gcb", "graphemeclusterbreak"], GraphemeBreak.find?),
    (["wb", "wordbreak"], WordBreak.find?),
    (["sb", "sentencebreak"], SentenceBreak.find?)]

/-- The names of the properties of the standard of which no sets are known here. -/
def otherProperties : List String :=
  [
    "bc", "bidiclass", "bidimirroringglyph", "bidipairedbracket", "bidipairedbrackettype", "blk",
    "block", "bmg", "bpb", "bpt", "canonicalcombiningclass", "casefolding", "ccc", "ce", "cf",
    "changeswhennfkccasefolded", "cjkaccountingnumeric", "cjkcompatibilityvariant", "cjkiicore",
    "cjkirggsource", "cjkirghsource", "cjkirgjsource", "cjkirgkpsource", "cjkirgksource",
    "cjkirgmsource", "cjkirgssource", "cjkirgtsource", "cjkirguksource", "cjkirgusource",
    "cjkirgvsource", "cjkothernumeric", "cjkprimarynumeric", "cjkrsunicode", "compex",
    "compositionexclusion", "cwkcf", "decompositionmapping", "decompositiontype", "dm", "dt",
    "ea", "eastasianwidth", "equideo", "equivalentunifiedideograph", "expandsonnfc",
    "expandsonnfd", "expandsonnfkc", "expandsonnfkd", "fcnfkc", "fcnfkcclosure",
    "fullcompositionexclusion", "hangulsyllabletype", "hst", "incb", "indicconjunctbreak",
    "indicpositionalcategory", "indicsyllabiccategory", "inpc", "insc", "isc", "jamoshortname",
    "jg", "joininggroup", "joiningtype", "jsn", "jt", "kaccountingnumeric",
    "kcompatibilityvariant", "kehcat", "kehdesc", "kehhg", "kehifao", "kehjsesh", "kehnomirror",
    "kehnorotate", "kiicore", "kirggsource", "kirghsource", "kirgjsource", "kirgkpsource",
    "kirgksource", "kirgmsource", "kirgssource", "kirgtsource", "kirguksource", "kirgusource",
    "kirgvsource", "kothernumeric", "kprimarynumeric", "krsunicode", "lb", "lc", "linebreak",
    "lowercasemapping", "na", "na1", "name", "namealias", "nfcqc", "nfcquickcheck", "nfdqc",
    "nfdquickcheck", "nfkccasefold", "nfkccf", "nfkcqc", "nfkcquickcheck", "nfkcscf",
    "nfkcsimplecasefold", "nfkdqc", "nfkdquickcheck", "nt", "numerictype", "numericvalue", "nv",
    "ocomment", "scf", "sfc", "simplecasefolding", "simplelowercasemapping",
    "simpletitlecasemapping", "simpleuppercasemapping", "slc", "stc", "suc", "tc",
    "titlecasemapping", "uc", "unicode1name", "unicoderadicalstroke", "uppercasemapping", "urs",
    "verticalorientation", "vo", "xonfc", "xonfd", "xonfkc", "xonfkd"]

/-- Whether a name is that of a property. -/
def isPropertyName (name : String) : Bool :=
  Property.isName name || (valuedProperties.any fun entry => entry.1.contains name)
    || otherProperties.contains name

/-- Names that stand for a category and not for the property of the same name. -/
def categoriesFirst : List String :=
  ["cf", "lc", "sc"]

/-- The code points with a property that is given by its name alone: a property that holds or does
not, a category or a script. -/
def namedRanges (name : String) : Except LookupError CodeRanges :=
  let name := normalName name
  if !categoriesFirst.contains name && isPropertyName name then
    (Property.find? name).elim (.error .unknownProperty) .ok
  else
    match (Category.find? name).orElse fun _ => Script.find? name with
    | some ranges => .ok ranges
    | none =>
      if Category.characterless.contains name || Script.characterless.contains name then
        .error .unknownValue
      else .error .unknownProperty

/-- The code points for which a property has a value. -/
def valuedRanges (property value : String) : Except LookupError CodeRanges :=
  let property := normalName property
  match valuedProperties.find? fun entry => entry.1.contains property with
  | some (_, find?) => (find? (normalName value)).elim (.error .unknownValue) .ok
  | none => .error (if isPropertyName property then .unknownValue else .unknownProperty)

end CommandSynthesis.Unicode

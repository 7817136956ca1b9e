import TokenGrammar.Unicode.Age
import TokenGrammar.Unicode.ScriptExtension
import TokenGrammar.Unicode.Segmentation

/-! # Properties by name

The names and values of properties that patterns can ask for. Case, spaces, dashes, underscores and
a leading `is` make no difference.

* `Unicode.looseName`: the form in which names are compared.
* `Unicode.CharSet.ofName`: the characters that a single name stands for.
* `Unicode.CharSet.ofValue`: the characters with a value of a property.
* `Unicode.NameFault`: why a name stands for nothing. -/

namespace TokenGrammar.Unicode

/-- The characters of a name that count, in lower case. -/
def foldName (name : List Char) : List Char :=
  (name.filter fun c => isAscii c && c != ' ' && c != '_' && c != '-').map Char.toLower

/-- The form in which names are compared: without a leading `is`, except for the one name that
would then be another, and without case and separators. -/
def looseName (name : List Char) : List Char :=
  match name with
  | first :: second :: rest =>
      if first.toLower = 'i' ∧ second.toLower = 's' then
        let short := foldName rest
        if short = ['c'] then ['i', 's', 'c'] else short
      else foldName name
  | _ => foldName name

/-- The properties that have values. -/
inductive ValuedProperty where
  /-- The general category. -/
  | category
  /-- The script. -/
  | script
  /-- The scripts that use the character. -/
  | scriptExtensions
  /-- The version that brought the character. -/
  | age
  /-- The role at the boundaries of graphemes. -/
  | graphemeBreak
  /-- The role at the boundaries of words. -/
  | wordBreak
  /-- The role at the boundaries of sentences. -/
  | sentenceBreak
  deriving DecidableEq

/-- The properties that have values, by name. -/
def valuedProperties : List (List String × ValuedProperty) :=
  [(["gc", "generalcategory"], .category),
    (["sc", "script"], .script),
    (["scx", "scriptextensions"], .scriptExtensions),
    (["age"], .age),
    (["gcb", "graphemeclusterbreak"], .graphemeBreak),
    (["wb", "wordbreak"], .wordBreak),
    (["sb", "sentencebreak"], .sentenceBreak)]

/-- The names of further properties, whose characters are not listed here. -/
def unlistedProperties : List String :=
  ["bc", "bidiclass", "bidimirroringglyph", "bidipairedbracket", "bidipairedbrackettype", "blk",
   "block", "bmg", "bpb", "bpt", "canonicalcombiningclass", "casefolding", "ccc", "ce", "cf",
   "changeswhennfkccasefolded", "cjkaccountingnumeric", "cjkcompatibilityvariant", "cjkiicore",
   "cjkirggsource", "cjkirghsource", "cjkirgjsource", "cjkirgkpsource", "cjkirgksource",
   "cjkirgmsource", "cjkirgssource", "cjkirgtsource", "cjkirguksource", "cjkirgusource",
   "cjkirgvsource", "cjkothernumeric", "cjkprimarynumeric", "cjkrsunicode", "compex",
   "compositionexclusion", "cwkcf", "decompositionmapping", "decompositiontype", "dm", "dt", "ea",
   "eastasianwidth", "equideo", "equivalentunifiedideograph", "expandsonnfc", "expandsonnfd",
   "expandsonnfkc", "expandsonnfkd", "fcnfkc", "fcnfkcclosure", "fullcompositionexclusion",
   "hangulsyllabletype", "hst", "incb", "indicconjunctbreak", "indicpositionalcategory",
   "indicsyllabiccategory", "inpc", "insc", "isc", "jamoshortname", "jg", "joininggroup",
   "joiningtype", "jsn", "jt", "kaccountingnumeric", "kcompatibilityvariant", "kehcat", "kehdesc",
   "kehhg", "kehifao", "kehjsesh", "kehnomirror", "kehnorotate", "kiicore", "kirggsource",
   "kirghsource", "kirgjsource", "kirgkpsource", "kirgksource", "kirgmsource", "kirgssource",
   "kirgtsource", "kirguksource", "kirgusource", "kirgvsource", "kothernumeric", "kprimarynumeric",
   "krsunicode", "lb", "lc", "linebreak", "lowercasemapping", "na", "na1", "name", "namealias",
   "nfcqc", "nfcquickcheck", "nfdqc", "nfdquickcheck", "nfkccasefold", "nfkccf", "nfkcqc",
   "nfkcquickcheck", "nfkcscf", "nfkcsimplecasefold", "nfkdqc", "nfkdquickcheck", "nt",
   "numerictype", "numericvalue", "nv", "ocomment", "scf", "sfc", "simplecasefolding",
   "simplelowercasemapping", "simpletitlecasemapping", "simpleuppercasemapping", "slc", "stc",
   "suc", "tc", "titlecasemapping", "uc", "unicode1name", "unicoderadicalstroke",
   "uppercasemapping", "urs", "verticalorientation", "vo", "xonfc", "xonfd", "xonfkc", "xonfkd"]

/-- The names of general categories without characters. -/
def emptyCategories : List String :=
  ["cs", "surrogate"]

/-- The names of scripts without characters. -/
def emptyScripts : List String :=
  ["hrkt", "katakanaorhiragana", "zzzz", "unknown"]

/-- The names of properties that, on their own, rather stand for a general category. -/
def categoriesFirst : List String :=
  ["cf", "sc", "lc"]

/-- Why a name stands for no set of characters. -/
inductive NameFault where
  /-- There is no such property, or it is none that a character has or has not. -/
  | unknownProperty
  /-- The property has no such value, or no character has that value. -/
  | unknownValue
  deriving DecidableEq

/-- What goes with a name in a list of things with their names. -/
def findNamed? {α : Type} (name : String) (entries : List (List String × α)) : Option α :=
  (entries.find? (·.1.contains name)).map (·.2)

/-- The characters with a value of a property, if there is such a value. -/
def ValuedProperty.value? (property : ValuedProperty) (value : String) : Option CharSet :=
  match property with
  | .category => findNamed? value GeneralCategory.named
  | .script => findNamed? value scripts
  | .scriptExtensions => (scripts.find? (·.1.contains value)).map usedBy
  | .age => assignedBy? value
  | .graphemeBreak => findNamed? value graphemeBreaks
  | .wordBreak => findNamed? value wordBreaks
  | .sentenceBreak => findNamed? value sentenceBreaks

/-- The characters of the general category or else the script that a name stands for. -/
def categoryOrScript (name : String) : Except NameFault CharSet :=
  match (findNamed? name GeneralCategory.named).or (findNamed? name scripts) with
  | some set => .ok set
  | none =>
      if emptyCategories.contains name || emptyScripts.contains name then .error .unknownValue
      else .error .unknownProperty

namespace CharSet

/-- The characters that a name on its own, in loose form, stands for: those with a property, or
else those of a category or script. -/
def ofName (name : String) : Except NameFault CharSet :=
  if categoriesFirst.contains name then categoryOrScript name
  else
    match findNamed? name BinaryProperty.named, findNamed? name valuedProperties with
    | some set, _ => .ok set
    | none, some _ => .error .unknownProperty
    | none, none =>
        if unlistedProperties.contains name then .error .unknownProperty
        else categoryOrScript name

/-- The characters with a value of a property, both names in loose form. Properties that a
character has or has not have no values. -/
def ofValue (name value : String) : Except NameFault CharSet :=
  match findNamed? name valuedProperties with
  | some property =>
      match property.value? value with
      | some set => .ok set
      | none => .error .unknownValue
  | none =>
      if unlistedProperties.contains name || (findNamed? name BinaryProperty.named).isSome then
        .error .unknownValue
      else .error .unknownProperty

end CharSet

end TokenGrammar.Unicode

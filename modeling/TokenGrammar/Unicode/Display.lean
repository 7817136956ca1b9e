import TokenGrammar.Unicode.Property

/-! # Names and messages

Which characters names can be made of, and which can be shown as they stand. Here the characters
that Unicode 17 added count too; classes of characters know those of Unicode 16 alone.

* `Unicode.isNameAlphabetic`, `Unicode.isNameNumeric`: letters and numbers of names.
* `Unicode.isVisible`: what a message can show as it stands. -/

namespace TokenGrammar.Unicode

/-- The characters that Unicode 17 added. -/
def newest : CharSet :=
  .ofLines
    ["88F C5C CDC 1ACF-1ADD 1AE0-1AEB 20C1 2B96 A7CE-A7CF A7D2 A7D4 A7F1 FBC3-FBD2 FD90-FD91",
     "FDC8-FDCE 10940-10959 10EC5-10EC7 10ED0-10ED8 10EFA-10EFB 11B60-11B67 11DB0-11DDB",
     "11DE0-11DE9 16EA0-16EB8 16EBB-16ED3 16FF2-16FF6 187F8-187FF 18D09-18D1E 18D80-18DF2",
     "1CCFA-1CCFC 1CEBA-1CED0 1CEE0-1CEF0 1E6C0-1E6DE 1E6E0-1E6F5 1E6FE-1E6FF 1F6D8 1F777-1F77A",
     "1F8D0-1F8D8 1FA54-1FA57 1FA8A 1FA8E 1FAC8 1FACD 1FAEA 1FAEF 1FBFA 2B73A-2B73F 2CEA2-2CEAD",
     "323B0-33479"]

/-- The alphabetic characters among them. -/
def newestAlphabetic : CharSet :=
  .ofLines
    ["88F C5C CDC A7CE-A7CF A7D2 A7D4 A7F1 10940-10959 10EC5-10EC7 10EFA-10EFB 11B60-11B67",
     "11DB0-11DDB 16EA0-16EB8 16EBB-16ED3 16FF2-16FF6 187F8-187FF 18D09-18D1E 18D80-18DF2",
     "1E6C0-1E6DE 1E6E0-1E6F5 1E6FE-1E6FF 2B73A-2B73F 2CEA2-2CEAD 323B0-33479"]

/-- The numbers among them. -/
def newestNumeric : CharSet :=
  .ofLines
    ["11DE0-11DE9 16FF4-16FF6"]

/-- The ones among them that extend the grapheme before. -/
def newestExtending : CharSet :=
  .ofLines
    ["1ACF-1ADD 1AE0-1AEB 10EFA-10EFB 11B60 11B62-11B64 11B66 1E6E3 1E6E6 1E6EE-1E6EF 1E6F5"]

/-- The alphabetic characters of names. -/
def nameAlphabetic : CharSet :=
  alphabetic.union newestAlphabetic

/-- The numbers of names. -/
def nameNumeric : CharSet :=
  GeneralCategory.number.union newestNumeric

/-- Whether a character is alphabetic in names. About ASCII characters the set is not asked. -/
def isNameAlphabetic (c : Char) : Bool :=
  if isAscii c then c.isAlpha else nameAlphabetic.contains c

/-- Whether a character is a number in names. -/
def isNameNumeric (c : Char) : Bool :=
  if isAscii c then c.isDigit else nameNumeric.contains c

/-- Controls, separators, and code points for private use or without a meaning. -/
def unprintable : CharSet :=
  (CharSet.unionAll
    [GeneralCategory.other, GeneralCategory.separator]).difference newest

/-- Characters that are shown with the one before them. The marks of half-width Katakana are not,
though they extend a grapheme. -/
def attaching : CharSet :=
  (graphemeExtend.union newestExtending).difference (.between 0xFF9E 0xFF9F)

/-- Letters without a shape, which fill the place of another. -/
def fillers : CharSet :=
  .ofRanges [(0x115F, 0x1160), (0x3164, 0x3164), (0xFFA0, 0xFFA0)]

/-- What cannot be shown as it stands. -/
def hidden : CharSet :=
  .unionAll [unprintable, attaching, fillers]

/-- Whether a character can be shown as it stands. -/
def isVisible (c : Char) : Bool :=
  if isAscii c then 32 ≤ c.toNat && c.toNat < 127 else !hidden.contains c

end TokenGrammar.Unicode

import TokenGrammar.Unicode.BinaryProperty
import TokenGrammar.Unicode.Script

/-! # Roles at boundaries

What characters do to the boundaries of graphemes, words and sentences, as of Unicode 16.

* `Unicode.graphemeBreaks`, `Unicode.wordBreaks`, `Unicode.sentenceBreaks`: the roles with their
  names in loose form. -/

namespace TokenGrammar.Unicode

namespace Segmentation

open GeneralCategory BinaryProperty

/-- The carriage return. -/
def carriageReturn : CharSet :=
  .single '\r'

/-- The line feed. -/
def lineFeed : CharSet :=
  .single '\n'

/-- The joiner of graphemes. -/
def joiner : CharSet :=
  .between 0x200D 0x200D

/-- Tags, which are format controls that attach. -/
def tags : CharSet :=
  .between 0xE0020 0xE007F

/-! ## Graphemes -/

/-- Controls, line and paragraph separators, and ignorable code points without a meaning. -/
def graphemeControl : CharSet :=
  (CharSet.unionAll
    [control, lineSeparator, paragraphSeparator, format,
     unassigned.intersection defaultIgnorableCodePoint]).difference
      (.unionAll
        [carriageReturn, lineFeed, joinControl, prependedConcatenationMark, tags])

/-- Marks that attach to the grapheme before them. -/
def graphemeExtension : CharSet :=
  graphemeExtend.union emojiModifier

/-- Marks with width that stand on their own. -/
def freeMarks : CharSet :=
  .ofLines
    ["102B-102C 1038 1062-1064 1067-106D 1083 1087-108C 108F 109A-109C 1A61 1A63-1A64 AA7B AA7D",
     "11720-11721"]

/-- Marks with width that stay with the grapheme before them. -/
def graphemeSpacing : CharSet :=
  ((spacingMark.difference graphemeExtend).difference freeMarks).union
    (.ofRanges [(0xE33, 0xE33), (0xEB3, 0xEB3)])

/-- Characters that stay with the grapheme after them. -/
def graphemePrepending : CharSet :=
  .ofLines
    ["600-605 6DD 70F 890-891 8E2 D4E 110BD 110CD 111C2-111C3 113D1 1193F 11941 11A3A 11A84-11A89",
     "11D46 11F02"]

/-- Initial consonants of Hangul syllables. -/
def hangulLeading : CharSet :=
  .ofLines
    ["1100-115F A960-A97C"]

/-- Vowels of Hangul syllables. -/
def hangulVowel : CharSet :=
  .ofLines
    ["1160-11A7 D7B0-D7C6 16D63 16D67-16D6A"]

/-- Final consonants of Hangul syllables. -/
def hangulTrailing : CharSet :=
  .ofLines
    ["11A8-11FF D7CB-D7FB"]

/-- Hangul syllables without a final consonant: every twenty-eighth one. -/
def hangulOpen : CharSet :=
  .ofRanges ((List.range 399).map fun n : Nat => (0xAC00 + 28 * n, 0xAC00 + 28 * n))

/-- Hangul syllables with a final consonant. -/
def hangulClosed : CharSet :=
  (CharSet.between 0xAC00 0xD7A3).difference hangulOpen

/-! ## Words -/

/-- Signs that span the digits after them. -/
def numberSigns : CharSet :=
  .ofRanges
    [(0x600, 0x605), (0x6DD, 0x6DD), (0x890, 0x891), (0x8E2, 0x8E2), (0x110BD, 0x110BD),
     (0x110CD, 0x110CD)]

/-- Marks and modifiers, which stay with the character before. -/
def wordExtension : CharSet :=
  .unionAll [graphemeExtend, spacingMark, emojiModifier]

/-- Format controls that words pass over. -/
def wordFormat : CharSet :=
  format.difference
    (.unionAll
      [numberSigns, .between 0x70F 0x70F, .between 0x200B 0x200D, tags])

/-- Digits, and signs that go with them. -/
def wordNumeric : CharSet :=
  .unionAll
    [decimalNumber, numberSigns, .between 0x66B 0x66B, .between 0x19DA 0x19DA]

/-- Characters of Katakana words. -/
def wordKatakana : CharSet :=
  .ofLines
    ["3031-3035 309B-309C 30A0-30FA 30FC-30FF 31F0-31FF 32D0-32FE 3300-3357 FF66-FF9D 1AFF0-1AFF3",
     "1AFF5-1AFFB 1AFFD-1AFFE 1B000 1B120-1B122 1B155 1B164-1B167"]

/-- Hebrew letters. -/
def hebrewLetter : CharSet :=
  .ofLines
    ["5D0-5EA 5EF-5F2 FB1D FB1F-FB28 FB2A-FB36 FB38-FB3C FB3E FB40-FB41 FB43-FB44 FB46-FB4F"]

/-- Signs that count as letters of words. -/
def wordLetterSigns : CharSet :=
  .ofLines
    ["2C2-2C5 2D2-2D7 2DE-2DF 2E5-2EB 2ED 2EF-2FF 55A-55C 55E 58A 5F3 70F A708-A716 A720-A721",
     "A789-A78A AB5B"]

/-- Letters of scripts that write words without spaces, of the southeast of Asia. -/
def complexLetters : CharSet :=
  .ofLines
    ["1000-102A 103F 1050-1055 105A-105D 1061 1065-1066 106E-1070 1075-1081 108E 1780-17B3 17D7",
     "17DC 1950-196D 1970-1974 1980-19AB 19B0-19C9 1A20-1A54 1AA7 A9E0-A9E4 A9E6-A9EF A9FA-A9FE",
     "AA60-AA76 AA7A AA7E-AAAF AAB1 AAB5-AAB6 AAB9-AABD AAC0 AAC2 AADB-AADD 11700-1171A",
     "11740-11746"]

/-- The members of scripts that write words without spaces. -/
def unspaced : CharSet :=
  .unionAll
    ((scripts.filter fun (names, _) => ["hira", "thai", "laoo"].any names.contains).map (·.2))

/-- Letters of words. -/
def wordLetter : CharSet :=
  ((CharSet.unionAll [alphabetic, wordLetterSigns]).difference
    (.unionAll
      [ideographic, wordKatakana, hebrewLetter, wordExtension, unspaced, complexLetters]))

/-! ## Sentences -/

/-- Marks and joiners, which stay with the character before. -/
def sentenceExtension : CharSet :=
  .unionAll [graphemeExtend, spacingMark, joiner]

/-- Format controls that sentences pass over. -/
def sentenceFormat : CharSet :=
  format.difference (.unionAll [numberSigns, joinControl, tags])

/-- Georgian letters, whose case says nothing about sentences. -/
def georgian : CharSet :=
  .ofRanges [(0x10D0, 0x10FA), (0x10FD, 0x10FF), (0x1C90, 0x1CBA), (0x1CBD, 0x1CBF)]

/-- Lower-case letters of sentences. -/
def sentenceLower : CharSet :=
  lowercase.difference (georgian.union (.between 0x345 0x345))

/-- Upper-case letters of sentences. -/
def sentenceUpper : CharSet :=
  (uppercase.union titlecaseLetter).difference georgian

/-- Letters of sentences without case. -/
def sentenceLetter : CharSet :=
  (CharSet.unionAll [alphabetic, .between 0x5F3 0x5F3]).difference
    (.unionAll [sentenceLower, sentenceUpper, sentenceExtension])

/-- Digits, and signs that go with them. -/
def sentenceNumeric : CharSet :=
  wordNumeric.union (.between 0x66B 0x66C)

/-- Quotation marks that are neither opening nor closing. -/
def plainQuotes : CharSet :=
  .ofLines
    ["22 27 275B-2760 2E00-2E01 2E06-2E08 2E0B 1F676-1F678"]

/-- Brackets and quotation marks. -/
def sentenceClose : CharSet :=
  .unionAll
    [openPunctuation, closePunctuation, initialPunctuation, finalPunctuation, plainQuotes]

/-- Full stops, which may also end abbreviations. -/
def fullStops : CharSet :=
  .ofLines
    ["2E 2024 FE52 FF0E"]

/-- Punctuation that ends sentences and nothing else. -/
def sentenceEnd : CharSet :=
  sentenceTerminal.difference fullStops

/-- Punctuation within sentences. -/
def sentenceContinuation : CharSet :=
  .ofLines
    ["2C-2D 3A-3B 37E 55D 60C-60D 7F8 1802 1808 2013-2014 3001 FE10-FE11 FE13-FE14 FE31-FE32",
     "FE50-FE51 FE54-FE55 FE58 FE63 FF0C-FF0D FF1A-FF1B FF64"]

/-- Spaces of sentences. -/
def sentenceSpace : CharSet :=
  .ofLines
    ["9 B-C 20 A0 1680 2000-200A 202F 205F 3000"]

end Segmentation

open Segmentation

/-- The roles at the boundaries of graphemes, by name. -/
def graphemeBreaks : List (List String × CharSet) :=
  [(["cr"], carriageReturn),
    (["cn", "control"], graphemeControl),
    (["ex", "extend"], graphemeExtension),
    (["l"], hangulLeading),
    (["lf"], lineFeed),
    (["lv"], hangulOpen),
    (["lvt"], hangulClosed),
    (["pp", "prepend"], graphemePrepending),
    (["ri", "regionalindicator"], BinaryProperty.regionalIndicator),
    (["sm", "spacingmark"], graphemeSpacing),
    (["t"], hangulTrailing),
    (["v"], hangulVowel),
    (["zwj"], joiner)]

/-- The roles at the boundaries of words, by name. -/
def wordBreaks : List (List String × CharSet) :=
  [(["le", "aletter"], wordLetter),
    (["cr"], carriageReturn),
    (["dq", "doublequote"], .ofLines ["22"]),
    (["extend"], wordExtension),
    (["ex", "extendnumlet"], .ofLines ["5F 202F 203F-2040 2054 FE33-FE34 FE4D-FE4F FF3F"]),
    (["fo", "format"], wordFormat),
    (["hl", "hebrewletter"], hebrewLetter),
    (["ka", "katakana"], wordKatakana),
    (["lf"], lineFeed),
    (["ml", "midletter"], .ofLines ["3A B7 387 55F 5F4 2027 FE13 FE55 FF1A"]),
    (["mn", "midnum"], .ofLines ["2C 3B 37E 589 60C-60D 66C 7F8 2044 FE50 FE54 FF0C FF1B"]),
    (["mb", "midnumlet"], .ofLines ["2E 2018-2019 2024 FE52 FF07 FF0E"]),
    (["nl", "newline"], .ofLines ["B-C 85 2028-2029"]),
    (["nu", "numeric"], wordNumeric),
    (["ri", "regionalindicator"], BinaryProperty.regionalIndicator),
    (["sq", "singlequote"], .ofLines ["27"]),
    (["wsegspace"], .ofLines ["20 1680 2000-2006 2008-200A 205F 3000"]),
    (["zwj"], joiner)]

/-- The roles at the boundaries of sentences, by name. -/
def sentenceBreaks : List (List String × CharSet) :=
  [(["at", "aterm"], fullStops),
    (["cr"], carriageReturn),
    (["cl", "close"], sentenceClose),
    (["ex", "extend"], sentenceExtension),
    (["fo", "format"], sentenceFormat),
    (["lf"], lineFeed),
    (["lo", "lower"], sentenceLower),
    (["nu", "numeric"], sentenceNumeric),
    (["le", "oletter"], sentenceLetter),
    (["sc", "scontinue"], sentenceContinuation),
    (["st", "sterm"], sentenceEnd),
    (["se", "sep"], .ofLines ["85 2028-2029"]),
    (["sp"], sentenceSpace),
    (["up", "upper"], sentenceUpper)]

end TokenGrammar.Unicode

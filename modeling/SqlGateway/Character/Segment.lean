import SqlGateway.Character.Property
import SqlGateway.Character.Script

/-! Where text may be divided: the classes of characters that tell where
clusters, words and sentences begin and end. -/

namespace SqlGateway.CharSet

/-! ### Shared classes -/

/-- The carriage return. -/
def carriageReturn : CharSet := single '\r'

/-- The line feed. -/
def lineFeed : CharSet := single '\n'

/-- The joiner of emoji. -/
def zeroWidthJoiner : CharSet := .ofTable ["200D"]

/-- Signs that stand before a number. -/
def numberSigns : CharSet := .ofTable ["600-605 6DD 890-891 8E2 110BD 110CD"]

/-! ### Clusters -/

/-- Extending characters of clusters. -/
def clusterExtend : CharSet := (graphemeExtend.union emojiModifiers).diff zeroWidthJoiner

/-- Controls. -/
def clusterControl : CharSet :=
  (unions [Category.setOf [.lineSeparator, .paragraphSeparator, .control, .format],
    Category.unassigned.set.inter defaultIgnorable]).diff <|
    unions [carriageReturn, lineFeed, joinControls, prependedMarks, clusterExtend]

/-- Spacing marks. -/
def clusterSpacingMark : CharSet :=
  (Category.spacingMark.set.union (.ofTable ["E33 EB3"])).diff <|
    clusterExtend.union <| .ofTable
      ["102B-102C 1038 1062-1064 1067-106D 1083 1087-108C 108F 109A-109C 1A61 1A63-1A64 AA7B AA7D",
       "11720-11721"]

/-- Syllables of a leading consonant and a vowel. -/
def openSyllables : CharSet := .ofTable ["AC00-D788/1C"]

/-- The classes of clusters by their names. -/
def graphemeBreaks : List (List String × CharSet) := [
  (["cr"], carriageReturn),
  (["lf"], lineFeed),
  (["control", "cn"], clusterControl),
  (["extend", "ex"], clusterExtend),
  (["prepend", "pp"],
    .ofTable
      ["600-605 6DD 70F 890-891 8E2 D4E 110BD 110CD 111C2-111C3 113D1 1193F 11941 11A3A",
       "11A84-11A89 11D46 11F02"]),
  (["spacingmark", "sm"], clusterSpacingMark),
  (["regionalindicator", "ri"], regionalIndicators),
  (["zwj"], zeroWidthJoiner),
  (["l"], .ofTable ["1100-115F A960-A97C"]),
  (["v"], .ofTable ["1160-11A7 D7B0-D7C6 16D63 16D67-16D6A"]),
  (["t"], .ofTable ["11A8-11FF D7CB-D7FB"]),
  (["lv"], openSyllables),
  (["lvt"], (ofTable ["AC00-D7A3"]).diff openSyllables)]

/-! ### Words -/

/-- Extending characters of words. -/
def wordExtend : CharSet :=
  (unions [graphemeExtend, Category.spacingMark.set, emojiModifiers]).diff zeroWidthJoiner

/-- The characters of a script by its short name. -/
def scriptSet (code : String) : CharSet :=
  .unions ((Script.all.filter (·.code == code)).map Script.set)

/-- Characters of Katakana in words. -/
def wordKatakana : CharSet :=
  (scriptSet "kana").union (.ofTable ["3031-3035 309B-309C 30A0 30FC FF70"])

/-- Hebrew letters. -/
def hebrewLetters : CharSet := (scriptSet "hebr").inter Category.otherLetter.set

/-- Letters of scripts that put no blanks between words. -/
def unspacedLetters : CharSet :=
  (unions
    (["thai", "laoo", "mymr", "khmr", "tale", "talu", "lana", "tavt", "ahom"].map scriptSet)).inter
    (unions [Category.setOf Category.letters, Category.setOf Category.marks,
      Category.letterNumber.set])

/-- Other letters of words. -/
def wordLetters : CharSet :=
  (alphabetic.union (.ofTable
    ["2C2-2C5 2D2-2D7 2DE-2DF 2E5-2EB 2ED 2EF-2FF 55A-55C 55E 58A 5F3 70F A708-A716 A720-A721",
     "A789-A78A AB5B"])).diff <|
    unions [ideographs, wordKatakana, hebrewLetters, unspacedLetters, scriptSet "hira", wordExtend]

/-- Numbers in words. -/
def wordNumeric : CharSet := unions [decimalDigits, .ofTable ["66B"], numberSigns]

/-- Format characters in words. -/
def wordFormat : CharSet :=
  Category.format.set.diff <|
    unions [.ofTable ["200B-200D"], wordExtend, wordNumeric, wordLetters]

/-- The classes of words by their names. -/
def wordBreaks : List (List String × CharSet) := [
  (["cr"], carriageReturn),
  (["lf"], lineFeed),
  (["newline", "nl"], .ofTable ["B-C 85 2028-2029"]),
  (["zwj"], zeroWidthJoiner),
  (["regionalindicator", "ri"], regionalIndicators),
  (["extend"], wordExtend),
  (["katakana", "ka"], wordKatakana),
  (["hebrewletter", "hl"], hebrewLetters),
  (["aletter", "le"], wordLetters),
  (["numeric", "nu"], wordNumeric),
  (["format", "fo"], wordFormat),
  (["doublequote", "dq"], single '"'),
  (["singlequote", "sq"], single '\''),
  (["midletter", "ml"], .ofTable ["3A B7 387 55F 5F4 2027 FE13 FE55 FF1A"]),
  (["midnum", "mn"],
    .ofTable ["2C 3B 37E 589 60C-60D 66C 7F8 2044 FE10 FE14 FE50 FE54 FF0C FF1B"]),
  (["midnumlet", "mb"], .ofTable ["2E 2018-2019 2024 FE52 FF07 FF0E"]),
  (["extendnumlet", "ex"], .ofTable ["5F 202F 203F-2040 2054 FE33-FE34 FE4D-FE4F FF3F"]),
  (["wsegspace"], .ofTable ["20 1680 2000-2006 2008-200A 205F 3000"])]

/-! ### Sentences -/

/-- Extending characters of sentences. -/
def sentenceExtend : CharSet := unions [graphemeExtend, Category.spacingMark.set, zeroWidthJoiner]

/-- Separators of paragraphs. -/
def sentenceSeparator : CharSet := .ofTable ["85 2028-2029"]

/-- Small letters of sentences. -/
def sentenceLower : CharSet :=
  lowercase.diff (graphemeExtend.union (.ofTable ["10D0-10FA 10FD-10FF"]))

/-- Capital letters of sentences. -/
def sentenceUpper : CharSet :=
  (Category.titlecaseLetter.set.union uppercase).diff (.ofTable ["1C90-1CBA 1CBD-1CBF"])

/-- Full stops, which may also stand within a sentence. -/
def fullStops : CharSet := .ofTable ["2E 2024 FE52 FF0E"]

/-- The classes of sentences by their names. -/
def sentenceBreaks : List (List String × CharSet) := [
  (["cr"], carriageReturn),
  (["lf"], lineFeed),
  (["sep", "se"], sentenceSeparator),
  (["extend", "ex"], sentenceExtend),
  (["format", "fo"],
    Category.format.set.diff (unions [joinControls, sentenceExtend, numberSigns])),
  (["sp"], whiteSpace.diff (unions [sentenceSeparator, carriageReturn, lineFeed])),
  (["lower", "lo"], sentenceLower),
  (["upper", "up"], sentenceUpper),
  (["oletter", "le"],
    (alphabetic.union (.ofTable ["5F3"])).diff
      (unions [sentenceLower, sentenceUpper, sentenceExtend])),
  (["numeric", "nu"], unions [decimalDigits, .ofTable ["66B-66C"], numberSigns]),
  (["aterm", "at"], fullStops),
  (["sterm", "st"], sentenceTerminals.diff fullStops),
  (["close", "cl"],
    unions [Category.setOf [.openPunctuation, .closePunctuation, .initialPunctuation,
      .finalPunctuation], .ofTable
        ["22 27 275B-2760 276E-276F 2E00-2E01 2E06-2E08 2E0B 1F676-1F678"]]),
  (["scontinue", "sc"],
    .ofTable
      ["2C-2D 3A-3B 37E 55D 60C-60D 7F8 1802 1808 2013-2014 3001 FE10-FE11 FE13-FE14 FE31-FE32",
       "FE50-FE51 FE54-FE55 FE58 FE63 FF0C-FF0D FF1A-FF1B FF64"])]

end SqlGateway.CharSet

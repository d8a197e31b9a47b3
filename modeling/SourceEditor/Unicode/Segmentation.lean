/-
  SourceEditor/Unicode/Segmentation.lean
  ======================================
  **Where a text may be divided**, version 16 of the standard: the classes of characters by which
  the limits of grapheme clusters, words and sentences are found.  Characters of no class have no
  name here.
-/
import SourceEditor.Unicode.ScriptExtension
import SourceEditor.Unicode.Usage

namespace SourceEditor.Unicode

/-- The tags, which spell a word that is not shown. -/
def tags : CharSet := .range 0xE0020 0xE007F

/-- The carriage return. -/
def carriageReturn : CharSet := .singleton '\r'

/-- The line feed. -/
def lineFeed : CharSet := .singleton '\n'

/-- The zero width joiner. -/
def zeroWidthJoiner : CharSet := .singleton (.ofNat 0x200D)

/-! ### Grapheme clusters -/

/-- What stands by itself between grapheme clusters. -/
def clusterControl : CharSet :=
  (categories [.lineSeparator, .paragraphSeparator, .control, .format] ∪
    unassigned.inter defaultIgnorable).diff
    (carriageReturn ∪ lineFeed ∪ joinControl ∪ prependedConcatenationMark ∪ tags)

/-- What extends a grapheme cluster. -/
def clusterExtend : CharSet := graphemeExtend ∪ emojiModifier

/-- What starts a grapheme cluster that goes on with the next character. -/
def clusterPrepend : CharSet :=
  prependedConcatenationMark ∪
    .ofTable ["D4E 111C2-111C3 113D1 1193F 11941 11A3A 11A84-11A89 11D46 11F02"]

/-- The spacing marks that belong to a grapheme cluster. -/
def clusterSpacingMark : CharSet :=
  (Category.spacingMark.chars ∪ .ofTable ["E33 EB3"]).diff
    (clusterExtend ∪ .ofTable [
      "102B-102C 1038 1062-1064 1067-106D 1083 1087-108C 108F 109A-109C 1A61 1A63-1A64 AA7B AA7D",
      "11720-11721"])

/-- The Hangul syllables that end in a vowel: every 28th of all. -/
def openSyllable : CharSet := .ofTable ["AC00-D788/1C"]

/-- The Hangul syllables that end in a consonant. -/
def closedSyllable : CharSet := (CharSet.range 0xAC00 0xD7A3).diff openSyllable

/-- The class of grapheme cluster limits with this name. -/
def clusterBreakNamed? : String → Option CharSet
  | "cn" | "control" => some clusterControl
  | "cr" => some carriageReturn
  | "ex" | "extend" => some clusterExtend
  | "l" => some (.ofTable ["1100-115F A960-A97C"])
  | "lf" => some lineFeed
  | "lv" => some openSyllable
  | "lvt" => some closedSyllable
  | "pp" | "prepend" => some clusterPrepend
  | "ri" | "regionalindicator" => some regionalIndicator
  | "sm" | "spacingmark" => some clusterSpacingMark
  | "t" => some (.ofTable ["11A8-11FF D7CB-D7FB"])
  | "v" => some (.ofTable ["1160-11A7 D7B0-D7C6 16D63 16D67-16D6A"])
  | "zwj" => some zeroWidthJoiner
  | _ => none

/-! ### Words -/

/-- The characters of the scripts with these names. -/
def scriptsNamed (names : List String) : CharSet := .unions (names.filterMap scriptNamed?)

/-- What goes on with a word without changing it. -/
def wordExtend : CharSet :=
  (graphemeExtend ∪ Category.spacingMark.chars ∪ emojiModifier).diff zeroWidthJoiner

/-- The Hebrew letters, which go together with quotation marks. -/
def hebrewLetter : CharSet := (scriptsNamed ["hebr"]).inter Category.otherLetter.chars

/-- The Katakana, which go together with each other. -/
def wordKatakana : CharSet :=
  scriptsNamed ["kana"] ∪ .ofTable ["3031-3035 309B-309C 30A0 30FC FF70"]

/-- The scripts that are written without a mark between words. -/
def unspacedScripts : CharSet :=
  scriptsNamed ["thai", "laoo", "mymr", "khmr", "tale", "talu", "lana", "tavt", "ahom"]

/-- The letters of words that are written with spaces between them. -/
def wordLetter : CharSet :=
  alphabetic.diff (ideographic ∪ wordKatakana ∪ scriptsNamed ["hira"] ∪ wordExtend ∪ hebrewLetter ∪
    unspacedScripts) ∪ .ofTable [
      "2C2-2C5 2D2-2D7 2DE-2DF 2E5-2EB 2ED 2EF-2FF 55A-55C 55E 58A 5F3 70F A708-A716 A720-A721",
      "A789-A78A AB5B"]

/-- The marks that may stand between two letters or between two digits. -/
def middleOfWordOrNumber : CharSet := .ofTable ["2E 2018-2019 2024 FE52 FF07 FF0E"]

/-- The marks that may stand between two letters. -/
def middleOfWord : CharSet := .ofTable ["3A B7 387 55F 5F4 2027 FE13 FE55 FF1A"]

/-- The marks that may stand between two digits. -/
def middleOfNumber : CharSet :=
  .ofTable ["2C 3B 37E 589 60C-60D 66C 7F8 2044 FE50 FE54 FF0C FF1B"]

/-- The digits and marks of numbers in words. -/
def wordNumeric : CharSet :=
  Category.decimalNumber.chars ∪ .ofTable ["600-605 66B 6DD 890-891 8E2 19DA 110BD 110CD"]

/-- The class of word limits with this name. -/
def wordBreakNamed? : String → Option CharSet
  | "cr" => some carriageReturn
  | "dq" | "doublequote" => some (.singleton '"')
  | "ex" | "extendnumlet" => some (Category.connectorPunctuation.chars ∪ .range 0x202F 0x202F)
  | "extend" => some wordExtend
  | "fo" | "format" => some (Category.format.chars.diff
      (.range 0x200B 0x200D ∪ prependedConcatenationMark ∪ tags))
  | "hl" | "hebrewletter" => some hebrewLetter
  | "ka" | "katakana" => some wordKatakana
  | "le" | "aletter" => some wordLetter
  | "lf" => some lineFeed
  | "mb" | "midnumlet" => some middleOfWordOrNumber
  | "ml" | "midletter" => some middleOfWord
  | "mn" | "midnum" => some middleOfNumber
  | "nl" | "newline" => some (.ofTable ["B-C 85 2028-2029"])
  | "nu" | "numeric" => some wordNumeric
  | "ri" | "regionalindicator" => some regionalIndicator
  | "sq" | "singlequote" => some (.singleton '\'')
  | "wsegspace" => some (.ofTable ["20 1680 2000-2006 2008-200A 205F 3000"])
  | "zwj" => some zeroWidthJoiner
  | _ => none

/-! ### Sentences -/

/-- The full stops, which may end a sentence or an abbreviation. -/
def fullStop : CharSet := .ofTable ["2E 2024 FE52 FF0E"]

/-- What goes on with a sentence without changing it. -/
def sentenceExtend : CharSet :=
  graphemeExtend ∪ Category.spacingMark.chars ∪ zeroWidthJoiner

/-- The lower case letters of sentences. -/
def sentenceLower : CharSet :=
  lowercase.diff (graphemeExtend ∪ .ofTable ["10D0-10FA 10FD-10FF"])

/-- The upper case letters of sentences. -/
def sentenceUpper : CharSet :=
  (uppercase ∪ Category.titlecaseLetter.chars).diff (.ofTable ["1C90-1CBA 1CBD-1CBF"])

/-- The digits and marks of numbers in sentences. -/
def sentenceNumeric : CharSet :=
  Category.decimalNumber.chars ∪ .ofTable ["600-605 66B-66C 6DD 890-891 8E2 19DA 110BD 110CD"]

/-- The marks that close or open a part of a sentence. -/
def sentenceClose : CharSet :=
  (categories [.openPunctuation, .closePunctuation] ∪ quotationMark ∪
    .ofTable ["275B-2760 2E00-2E0D 2E1C-2E1D 2E20-2E21 1F676-1F678"]).diff
    (.ofTable ["FF02 FF07"])

/-- The class of sentence limits with this name. -/
def sentenceBreakNamed? : String → Option CharSet
  | "at" | "aterm" => some fullStop
  | "cl" | "close" => some sentenceClose
  | "cr" => some carriageReturn
  | "ex" | "extend" => some sentenceExtend
  | "fo" | "format" => some (Category.format.chars.diff
      (joinControl ∪ tags ∪ prependedConcatenationMark.diff (.range 0x70F 0x70F)))
  | "le" | "oletter" => some (alphabetic.diff (sentenceLower ∪ sentenceUpper ∪ sentenceExtend) ∪
      .range 0x5F3 0x5F3)
  | "lf" => some lineFeed
  | "lo" | "lower" => some sentenceLower
  | "nu" | "numeric" => some sentenceNumeric
  | "sc" | "scontinue" => some (.ofTable [
      "2C-2D 3A-3B 37E 55D 60C-60D 7F8 1802 1808 2013-2014 3001 FE10-FE11 FE13-FE14 FE31-FE32",
      "FE50-FE51 FE54-FE55 FE58 FE63 FF0C-FF0D FF1A-FF1B FF64"])
  | "se" | "sep" => some (.ofTable ["85 2028-2029"])
  | "sp" => some (.ofTable ["9 B-C 20 A0 1680 2000-200A 202F 205F 3000"])
  | "st" | "sterm" => some (sentenceTerminal.diff fullStop)
  | "up" | "upper" => some sentenceUpper
  | _ => none

end SourceEditor.Unicode

import FilterSynthesis.Unicode.Property
import FilterSynthesis.Unicode.Script

namespace FilterSynthesis.Unicode.Break

open Category Property

def ofScript (name : String) : CharSet := ((Script.named? name).map Script.chars).getD .empty

def joiner : CharSet := .ofTable "200D"

def clusterExtend : CharSet := graphemeExtend ∪ emojiModifier

def clusterPrepend : CharSet :=
  prependedConcatenationMark ∪
    .ofTable "D4E 111C2-111C3 113D1 1193F 11941 11A3A 11A84-11A89 11D46 11F02"

def clusterControl : CharSet :=
  (charsOf [.lineSeparator, .paragraphSeparator, .control, .format] ∪
      (defaultIgnorable \ assigned)) \
    (.ofTable "A D 200C-200D" ∪ prependedConcatenationMark ∪ graphemeExtend)

def clusterSpacingMark : CharSet :=
  (chars .spacingMark ∪ .ofTable "E33 EB3") \
    (clusterExtend ∪ .ofTable
      "102B-102C 1038 1062-1064 1067-106D 1083 1087-108C 108F 109A-109C 1A61 1A63-1A64 AA7B AA7D
       11720-11721")

/-- Syllables of two letters: the first of each row of 28. -/
def pairSyllables : CharSet := .ofTable "AC00-D788/1C"

def cluster? : String → Option CharSet
  | "cn" | "control" => some clusterControl
  | "cr" => some (.single '\r')
  | "ex" | "extend" => some clusterExtend
  | "l" => some (.ofTable "1100-115F A960-A97C")
  | "lf" => some (.single '\n')
  | "lv" => some pairSyllables
  | "lvt" => some (.ofTable "AC00-D7A3" \ pairSyllables)
  | "pp" | "prepend" => some clusterPrepend
  | "ri" | "regionalindicator" => some regionalIndicator
  | "sm" | "spacingmark" => some clusterSpacingMark
  | "t" => some (.ofTable "11A8-11FF D7CB-D7FB")
  | "v" => some (.ofTable "1160-11A7 D7B0-D7C6 16D63 16D67-16D6A")
  | "zwj" => some joiner
  | _ => none

def wordExtend : CharSet := (graphemeExtend ∪ chars .spacingMark ∪ emojiModifier) \ joiner

def wordKatakana : CharSet := ofScript "kana" ∪ .ofTable "3031-3035 309B-309C 30A0 30FC FF70"

def wordHebrewLetter : CharSet := (ofScript "hebr").intersection (chars .otherLetter)

def unspacedLetters : CharSet :=
  .ofTable
    "E01-E3A E40-E4E E81-E82 E84 E86-E8A E8C-EA3 EA5 EA7-EBD EC0-EC4 EC6 EC8-ECE EDC-EDF 1000-103F
     1050-108F 109A-109F 1780-17D3 17D7 17DC-17DD 1950-196D 1970-1974 1980-19AB 19B0-19C9 19DA
     19DE-19DF 1A20-1A5E 1A60-1A7C 1AA0-1AAD A9E0-A9EF A9FA-A9FE AA60-AAC2 AADB-AADF 11700-1171A
     1171D-1172B 1173A-1173B 1173F-11746"

def wordLetter : CharSet :=
  (alphabetic ∪ .ofTable
      "2C2-2C5 2D2-2D7 2DE-2DF 2E5-2EB 2ED 2EF-2FF 55A-55C 55E 58A 5F3 70F A708-A716 A720-A721
       A789-A78A AB5B") \
    (ideographic ∪ wordKatakana ∪ unspacedLetters ∪ ofScript "hira" ∪ wordExtend ∪
      wordHebrewLetter)

def numeric : CharSet :=
  chars .decimalNumber ∪ .ofTable "66B" ∪ (prependedConcatenationMark \ .ofTable "70F")

def word? : String → Option CharSet
  | "cr" => some (.single '\r')
  | "dq" | "doublequote" => some (.single '"')
  | "ex" | "extendnumlet" => some (chars .connectorPunctuation ∪ .ofTable "202F")
  | "extend" => some wordExtend
  | "fo" | "format" => some
      (chars .format \ (.ofTable "200B" ∪ joiner ∪ wordExtend ∪ clusterPrepend))
  | "hl" | "hebrewletter" => some wordHebrewLetter
  | "ka" | "katakana" => some wordKatakana
  | "le" | "aletter" => some wordLetter
  | "lf" => some (.single '\n')
  | "mb" | "midnumlet" => some (.ofTable "2E 2018-2019 2024 FE52 FF07 FF0E")
  | "ml" | "midletter" => some (.ofTable "3A B7 387 55F 5F4 2027 FE13 FE55 FF1A")
  | "mn" | "midnum" => some
      (.ofTable "2C 3B 37E 589 60C-60D 66C 7F8 2044 FE10 FE14 FE50 FE54 FF0C FF1B")
  | "nl" | "newline" => some (.ofTable "B-C 85 2028-2029")
  | "nu" | "numeric" => some numeric
  | "ri" | "regionalindicator" => some regionalIndicator
  | "sq" | "singlequote" => some (.single '\'')
  | "wsegspace" => some (chars .spaceSeparator \ .ofTable "A0 2007 202F")
  | "zwj" => some joiner
  | _ => none

def sentenceExtend : CharSet := graphemeExtend ∪ chars .spacingMark ∪ joiner

def sentenceBreaks : CharSet := .ofTable "85 2028-2029"

def sentenceLower : CharSet :=
  lowercase \ (graphemeExtend ∪ .ofTable "10D0-10FA 10FD-10FF")

def sentenceUpper : CharSet :=
  (uppercase ∪ chars .titlecaseLetter) \ .ofTable "1C90-1CBA 1CBD-1CBF"

def sentenceStops : CharSet := .ofTable "2E 2024 FE52 FF0E"

def sentence? : String → Option CharSet
  | "at" | "aterm" => some sentenceStops
  | "cl" | "close" => some
      ((charsOf [.openPunctuation, .closePunctuation, .initialPunctuation, .finalPunctuation] ∪
          .ofTable "22 27 275B-2760 2E00-2E01 2E06-2E08 2E0B 1F676-1F678") \
        (sentenceStops ∪ sentenceTerminal))
  | "cr" => some (.single '\r')
  | "ex" | "extend" => some sentenceExtend
  | "fo" | "format" => some
      (chars .format \ (sentenceExtend ∪ prependedConcatenationMark))
  | "le" | "oletter" => some
      ((alphabetic ∪ .ofTable "5F3") \ (sentenceLower ∪ sentenceUpper ∪ sentenceExtend))
  | "lf" => some (.single '\n')
  | "lo" | "lower" => some sentenceLower
  | "nu" | "numeric" => some numeric
  | "sc" | "scontinue" => some (.ofTable
      "2C-2D 3A-3B 37E 55D 60C-60D 7F8 1802 1808 2013-2014 3001 FE10-FE11 FE13-FE14 FE31-FE32
       FE50-FE51 FE54-FE55 FE58 FE63 FF0C-FF0D FF1A-FF1B FF64")
  | "se" | "sep" => some sentenceBreaks
  | "sp" => some (whitespace \ (sentenceBreaks ∪ .ofTable "A D"))
  | "st" | "sterm" => some (sentenceTerminal \ sentenceStops)
  | "up" | "upper" => some sentenceUpper
  | _ => none

end FilterSynthesis.Unicode.Break

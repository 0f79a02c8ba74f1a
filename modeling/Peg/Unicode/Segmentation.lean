import Peg.Unicode.Property
import Peg.Unicode.Script

/-!
# Text segmentation

The classes by which text is divided into graphemes, words and sentences. Each follows from
categories, scripts and properties, with the exceptions named here.
-/

namespace Peg.Unicode

/-- The syllables made of a leading consonant and a vowel, without a trailing consonant. -/
def openSyllables : CharSet :=
  ⟨(List.range 399).map fun i => (0xAC00 + 28 * i, 0xAC00 + 28 * i)⟩

def syllables : CharSet := .range 0xAC00 0xD7A3

/-! ### Graphemes -/

/-- Letters that are displayed before the syllable that follows them. -/
def prependedLetter : CharSet :=
  .ofTable "D4E 111C2-111C3 113D1 1193F 11941 11A3A 11A84-11A89 11D46 11F02"

/-- Spacing marks that still begin a grapheme of their own. -/
def detachedSpacingMark : CharSet := .ofTable
  "102B-102C 1038 1062-1064 1067-106D 1083 1087-108C 108F 109A-109C 1A61 1A63-1A64 AA7B AA7D
  11720-11721"

/-- The members of a grapheme cluster break class, by the class's normalized name. -/
def graphemeClass? (name : String) : Option CharSet :=
  let extend := graphemeExtend.union emojiModifier
  let joiner := CharSet.singleton 0x200D
  let prepend := prependedConcatenationMark.union prependedLetter
  let lineEnds := CharSet.ofTable "A D"
  if name = "cn" ∨ name = "control" then
    some <| ((Category.union [.control, .format, .lineSeparator, .paragraphSeparator]).union
        (defaultIgnorable.inter Category.unassigned.members)).diff
      ((lineEnds.union joiner).union (prepend.union extend))
  else if name = "cr" then some (.singleton 0xD)
  else if name = "lf" then some (.singleton 0xA)
  else if name = "ex" ∨ name = "extend" then some extend
  else if name = "l" then some (.ofTable "1100-115F A960-A97C")
  else if name = "v" then some (.ofTable "1160-11A7 D7B0-D7C6 16D63 16D67-16D6A")
  else if name = "t" then some (.ofTable "11A8-11FF D7CB-D7FB")
  else if name = "lv" then some openSyllables
  else if name = "lvt" then some (syllables.diff openSyllables)
  else if name = "pp" ∨ name = "prepend" then some prepend
  else if name = "ri" ∨ name = "regionalindicator" then some regionalIndicator
  else if name = "sm" ∨ name = "spacingmark" then
    some <| (Category.spacingMark.members.diff (extend.union detachedSpacingMark)).union
      (.ofTable "E33 EB3")
  else if name = "zwj" then some joiner
  else none

/-! ### Words -/

/-- Letters of scripts that are written without spaces between words. -/
def wordlessScriptLetter : CharSet := .ofTable
  "E01-E3A E40-E4E E81-E82 E84 E86-E8A E8C-EA3 EA5 EA7-EBD EC0-EC4 EC6 EC8-ECE EDC-EDF 1000-103F
  1050-108F 109A-109F 1780-17D3 17D7 17DC-17DD 1950-196D 1970-1974 1980-19AB 19B0-19C9 19DA
  19DE-19DF 1A20-1A5E 1A60-1A7C 1AA0-1AAD A9E0-A9EF A9FA-A9FE AA60-AAC2 AADB-AADF 11700-1171A
  1171D-1172B 1173A-1173B 1173F-11746"

/-- Symbols and marks that count as letters inside words. -/
def letterLikeSymbol : CharSet := .ofTable
  "2C2-2C5 2D2-2D7 2DE-2DF 2E5-2EB 2ED 2EF-2FF 55A-55C 55E 58A 5F3 A708-A716 A720-A721 A789-A78A
  AB5B"

/-- The marks that are written in front of the number they belong to. -/
def numberMark : CharSet := prependedConcatenationMark.diff (.singleton 0x70F)

/-- The members of a script, by its code. -/
def scriptMembers (code : String) : CharSet :=
  ((scripts.find? (·.code = code)).map Script.members).getD .empty

/-- The members of a word break class, by the class's normalized name. -/
def wordClass? (name : String) : Option CharSet :=
  let extend := (graphemeExtend.union Category.spacingMark.members).union emojiModifier
  let katakana := (scriptMembers "Kana").union
    (.ofTable "3031-3035 309B-309C 30A0 30FC FF70")
  let hebrew := (scriptMembers "Hebr").inter Category.otherLetter.members
  if name = "cr" then some (.singleton 0xD)
  else if name = "lf" then some (.singleton 0xA)
  else if name = "nl" ∨ name = "newline" then some (.ofTable "B-C 85 2028-2029")
  else if name = "dq" ∨ name = "doublequote" then some (.singleton 0x22)
  else if name = "sq" ∨ name = "singlequote" then some (.singleton 0x27)
  else if name = "extend" then some extend
  else if name = "fo" ∨ name = "format" then
    some <| (Category.format.members.diff (.range 0x200B 0x200D)).diff
      (extend.union prependedConcatenationMark)
  else if name = "ka" ∨ name = "katakana" then some katakana
  else if name = "hl" ∨ name = "hebrewletter" then some hebrew
  else if name = "le" ∨ name = "aletter" then
    let wordless := wordlessScriptLetter.union (scriptMembers "Hira")
    some <| ((alphabetic.union letterLikeSymbol).insert 0x70F).diff
      (((ideographic.union katakana).union wordless).union (extend.union hebrew))
  else if name = "ml" ∨ name = "midletter" then
    some (.ofTable "3A B7 387 55F 5F4 2027 FE13 FE55 FF1A")
  else if name = "mn" ∨ name = "midnum" then
    some (.ofTable "2C 3B 37E 589 60C-60D 66C 7F8 2044 FE10 FE14 FE50 FE54 FF0C FF1B")
  else if name = "mb" ∨ name = "midnumlet" then some (.ofTable "2E 2018-2019 2024 FE52 FF07 FF0E")
  else if name = "nu" ∨ name = "numeric" then some ((digit.insert 0x66B).union numberMark)
  else if name = "ex" ∨ name = "extendnumlet" then
    some (.ofTable "5F 202F 203F-2040 2054 FE33-FE34 FE4D-FE4F FF3F")
  else if name = "ri" ∨ name = "regionalindicator" then some regionalIndicator
  else if name = "wsegspace" then
    some (.ofTable "20 1680 2000-2006 2008-200A 205F 3000")
  else if name = "zwj" then some (.singleton 0x200D)
  else none

/-! ### Sentences -/

/-- The members of a sentence break class, by the class's normalized name. -/
def sentenceClass? (name : String) : Option CharSet :=
  let extend := (graphemeExtend.insert 0x200D).union Category.spacingMark.members
  let separator := CharSet.ofTable "85 2028-2029"
  let lower := (lowercase.diff graphemeExtend).diff (.ofTable "10D0-10FA 10FD-10FF")
  let upper := (uppercase.union Category.titlecaseLetter.members).diff
    (.ofTable "1C90-1CBA 1CBD-1CBF")
  let fullStop := CharSet.ofTable "2E 2024 FE52 FF0E"
  let terminator := sentenceTerminal.diff fullStop
  if name = "cr" then some (.singleton 0xD)
  else if name = "lf" then some (.singleton 0xA)
  else if name = "ex" ∨ name = "extend" then some extend
  else if name = "se" ∨ name = "sep" then some separator
  else if name = "fo" ∨ name = "format" then
    some <| (Category.format.members.diff (.range 0x200C 0x200D)).diff
      (extend.union prependedConcatenationMark)
  else if name = "sp" then some (whiteSpace.diff (separator.union (.ofTable "A D")))
  else if name = "lo" ∨ name = "lower" then some lower
  else if name = "up" ∨ name = "upper" then some upper
  else if name = "le" ∨ name = "oletter" then
    some <| ((alphabetic.insert 0x5F3).insert 0x70F).diff ((lower.union upper).union extend)
  else if name = "nu" ∨ name = "numeric" then
    some ((digit.union (.range 0x66B 0x66C)).union numberMark)
  else if name = "at" ∨ name = "aterm" then some fullStop
  else if name = "st" ∨ name = "sterm" then some terminator
  else if name = "sc" ∨ name = "scontinue" then
    some (.ofTable "2C-2D 3A 55D 60C-60D 7F8 1802 1808 2013-2014 3001 FE10-FE11 FE13 FE31-FE32
      FE50-FE51 FE55 FE58 FE63 FF0C-FF0D FF1A FF64")
  else if name = "cl" ∨ name = "close" then
    some <| (((Category.union [.openPunctuation, .closePunctuation, .initialPunctuation,
          .finalPunctuation]).union quotationMark).union
        (.ofTable "275B-2760 2E00-2E01 2E06-2E08 2E0B 1F676-1F678")).diff
      ((fullStop.union terminator).union (.ofTable "5F3 FF02 FF07"))
  else none

end Peg.Unicode

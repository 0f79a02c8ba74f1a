import Peg.Unicode.Table
import Peg.Unicode.Category

/-!
# Derived character properties

Properties of scalar values that follow from general categories and from the contributory sets of
`Peg.Unicode.Table`, and the classes of characters that the rest of the library asks for: letters
and digits, characters of a word, and characters that print as themselves.
-/

namespace Peg.Unicode

/-! ### Letters and case -/

def alphabetic : CharSet :=
  (Category.union (.letterNumber :: Category.letters)).union otherAlphabetic

def lowercase : CharSet := Category.lowercaseLetter.members.union otherLowercase

def uppercase : CharSet := Category.uppercaseLetter.members.union otherUppercase

def cased : CharSet := (lowercase.union uppercase).union Category.titlecaseLetter.members

def caseIgnorable : CharSet :=
  (Category.union [.nonspacingMark, .enclosingMark, .format, .modifierLetter,
    .modifierSymbol]).union caseIgnorablePunctuation

def changesWhenTitlecased : CharSet :=
  (changesWhenUppercased.diff uppercasedOnly).union titlecasedOnly

def changesWhenCasefolded : CharSet :=
  (changesWhenLowercased.diff lowercasedOnly).union casefoldedOnly

def changesWhenCasemapped : CharSet :=
  (changesWhenLowercased.union changesWhenUppercased).union changesWhenTitlecased

/-! ### Identifiers -/

def idStart : CharSet :=
  ((Category.union (.letterNumber :: Category.letters)).union otherIdStart).diff
    (patternSyntax.union patternWhiteSpace)

def idContinue : CharSet :=
  ((idStart.union (Category.union [.nonspacingMark, .spacingMark, .decimalNumber,
    .connectorPunctuation])).union otherIdContinue).diff (patternSyntax.union patternWhiteSpace)

def xidStart : CharSet := idStart.diff xidExcluded

def xidContinue : CharSet := idContinue.diff xidContinueExcluded

def idCompatMathContinue : CharSet := idCompatMathStart.union otherIdCompatMathContinue

/-! ### Graphemes and symbols -/

def math : CharSet := Category.mathSymbol.members.union otherMath

def graphemeExtend : CharSet :=
  (Category.union [.nonspacingMark, .enclosingMark]).union otherGraphemeExtend

def graphemeBase : CharSet :=
  CharSet.scalars.diff ((Category.union [.control, .format, .privateUse, .unassigned,
    .lineSeparator, .paragraphSeparator]).union graphemeExtend)

/-- Format characters of annotations, and the controls that build hieroglyphic quadrats. -/
def visibleFormat : CharSet := (CharSet.range 0xFFF9 0xFFFB).union (.range 0x13430 0x13440)

def defaultIgnorable : CharSet :=
  ((otherDefaultIgnorable.union Category.format.members).union variationSelector).diff
    ((whiteSpace.union visibleFormat).union prependedConcatenationMark)

/-! ### Classes used for tokens and for quoting -/

/-- Letters, and numbers of every kind. -/
def alphanumeric : CharSet := alphabetic.union (Category.union Category.numbers)

/-- What a word is made of: letters, marks, decimal digits, connectors and joiners. -/
def word : CharSet :=
  (alphabetic.union (Category.union (.decimalNumber :: .connectorPunctuation ::
    Category.marks))).union joinControl

def digit : CharSet := Category.decimalNumber.members

/-- Values that have no visible form of their own: controls, format characters, unassigned and
private values, every separator other than the space, and whatever may be ignored in display. -/
def unprintable : CharSet :=
  ((Category.union (Category.separators ++ Category.others)).union defaultIgnorable).diff
    (.singleton 0x20)

end Peg.Unicode

namespace Char

open Peg.Unicode

/-- Whether the character is a letter or a number; the first 128 characters need no table. -/
def isAlphabeticOrNumeric (c : Char) : Bool :=
  if c.toNat < 0x80 then c.isAlphanum else alphanumeric.contains c.toNat

def isLetter (c : Char) : Bool :=
  if c.toNat < 0x80 then c.isAlpha else alphabetic.contains c.toNat

/-- Whether the character may occur in a word. -/
def isWordCharacter (c : Char) : Bool :=
  if c.toNat < 0x80 then c.isAlphanum || c == '_' else word.contains c.toNat

/-- Whether the character attaches to the one before it when text is displayed. The two halfwidth
sound marks extend a grapheme, but take a column of their own. -/
def isAttached (c : Char) : Bool :=
  if c.toNat < 0x80 then false
  else c != '\uff9e' && c != '\uff9f' && graphemeExtend.contains c.toNat

/-- Whether the character prints as itself. -/
def isPrintable (c : Char) : Bool :=
  if c.toNat < 0x80 then 0x20 ≤ c.toNat && c.toNat < 0x7F else !unprintable.contains c.toNat

end Char

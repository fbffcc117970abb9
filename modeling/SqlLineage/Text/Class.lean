import SqlLineage.Text.LetterTable
import SqlLineage.Text.AlphabeticTable
import SqlLineage.Text.NumberTable
import SqlLineage.Text.MarkTable

/-!
# Character classes

The classes of characters that the scanners of this library distinguish, for all of Unicode. Each
class answers for ASCII without a table, so that statements about ASCII text need no table either.

No claim is made about code points that later versions of the standard assign.
-/

namespace SqlLineage

namespace Text

/-- A rule for ASCII and a list of ranges for the rest. -/
def classify (ascii : Char → Bool) (ranges : List CodeRange) (c : Char) : Bool :=
  if c.toNat < 128 then ascii c else inRanges ranges c

/-- Whitespace: the property White_Space. -/
def isBlank (c : Char) : Bool :=
  classify (fun c => c == ' ' || ('\t' ≤ c && c ≤ '\r'))
    [⟨133, 133, 1⟩, ⟨160, 160, 1⟩, ⟨5760, 5760, 1⟩, ⟨8192, 8202, 1⟩, ⟨8232, 8233, 1⟩,
      ⟨8239, 8239, 1⟩, ⟨8287, 8287, 1⟩, ⟨12288, 12288, 1⟩] c

/-- Letters: general category L. -/
def isLetter : Char → Bool :=
  classify Char.isAlpha letterRanges

/-- Alphabetic characters: letters, letter numbers and the marks that count as alphabetic. -/
def isAlphabetic (c : Char) : Bool :=
  isLetter c || classify (fun _ => false) otherAlphabeticRanges c

/-- Numbers: general category N. -/
def isNumber : Char → Bool :=
  classify Char.isDigit numberRanges

/-- Decimal digits: general category Nd. -/
def isDecimal : Char → Bool :=
  classify Char.isDigit decimalRanges

/-- Alphabetic characters and numbers. -/
def isAlphanumeric (c : Char) : Bool :=
  isAlphabetic c || isNumber c

/-- Combining marks: general category M. -/
def isMark : Char → Bool :=
  classify (fun _ => false) markRanges

/-- Connector punctuation: general category Pc. -/
def isConnector : Char → Bool :=
  classify (· == '_') connectorRanges

/-- Word characters: alphabetic characters, decimal digits, marks, connectors and the two join
controls. -/
def isWordChar (c : Char) : Bool :=
  isAlphabetic c || isDecimal c || isConnector c || isMark c ||
    c == '\u200c' || c == '\u200d'

/-- A character that may stand in a number written in base ten. -/
def isAsciiDigit (c : Char) : Bool :=
  '0' ≤ c && c ≤ '9'

/-- A character that may stand in a number written in base sixteen. -/
def isAsciiHexDigit (c : Char) : Bool :=
  isAsciiDigit c || ('a' ≤ c && c ≤ 'f') || ('A' ≤ c && c ≤ 'F')

/-- The letters `a` to `z` in either case. -/
def isAsciiLetter (c : Char) : Bool :=
  ('a' ≤ c && c ≤ 'z') || ('A' ≤ c && c ≤ 'Z')

end Text

end SqlLineage

import SqlLineage.Text.Case
import SqlLineage.Text.CategoryTable
import SqlLineage.Text.Class
import SqlLineage.Text.ScriptTable

/-!
# Sets of characters

The sets that a regular expression can name, and what is in them. Properties of characters go by the
names that the Unicode standard gives them, where case, blanks, hyphens and underscores do not count.
-/

namespace SqlLineage

namespace Regex

/-- A set of characters. -/
inductive CharSet
  /-- No character. -/
  | none
  /-- The characters between two, both included. -/
  | range (first last : Char)
  /-- The characters of code ranges. -/
  | among (ranges : List Text.CodeRange)
  /-- Blanks. -/
  | blank
  /-- Characters of words. -/
  | word
  /-- Decimal digits. -/
  | digit
  /-- Letters. -/
  | letter
  /-- Alphabetic characters. -/
  | alphabetic
  /-- Marks. -/
  | mark
  /-- Numbers. -/
  | number
  /-- What is in one set or another. -/
  | union (a b : CharSet)
  /-- What is in both sets. -/
  | inter (a b : CharSet)
  /-- What is not in a set. -/
  | compl (a : CharSet)
  /-- What differs from a member in case only. -/
  | anyCase (a : CharSet)
  /-- What differs from a member in the case of an ASCII letter only. -/
  | anyAsciiCase (a : CharSet)

namespace CharSet

/-- Whether a character is in a set. -/
def contains : CharSet → Char → Bool
  | none, _ => false
  | range first last, c => first ≤ c && c ≤ last
  | among ranges, c => Text.inRanges ranges c
  | blank, c => Text.isBlank c
  | word, c => Text.isWordChar c
  | digit, c => Text.isDecimal c
  | letter, c => Text.isLetter c
  | alphabetic, c => Text.isAlphabetic c
  | mark, c => Text.isMark c
  | number, c => Text.isNumber c
  | union a b, c => a.contains c || b.contains c
  | inter a b, c => a.contains c && b.contains c
  | compl a, c => !a.contains c
  | anyCase a, c => (Text.caseVariants c).any a.contains
  | anyAsciiCase a, c => a.contains c || a.contains c.toLower || a.contains c.toUpper

/-- What is in the first set and not in the second. -/
def diff (a b : CharSet) : CharSet :=
  inter a (compl b)

/-- What is in one of the sets only. -/
def symmDiff (a b : CharSet) : CharSet :=
  union (diff a b) (diff b a)

/-- All characters. -/
def all : CharSet :=
  compl none

/-- The set, or what is not in it. -/
def negateIf (negated : Bool) (a : CharSet) : CharSet :=
  if negated then compl a else a

/-- One character. -/
def single (c : Char) : CharSet :=
  range c c

/-- The union of sets. -/
def unions (sets : List CharSet) : CharSet :=
  sets.foldr union none

/-- The characters of a list. -/
def ofList (cs : List Char) : CharSet :=
  unions (cs.map single)

/-- The ASCII digits. -/
def asciiDigit : CharSet :=
  range '0' '9'

/-- The ASCII letters. -/
def asciiLetter : CharSet :=
  union (range 'a' 'z') (range 'A' 'Z')

/-- The ASCII characters of words. -/
def asciiWord : CharSet :=
  unions [asciiLetter, asciiDigit, single '_']

/-- The ASCII blanks. -/
def asciiBlank : CharSet :=
  union (single ' ') (range '\t' '\r')

/-- The ASCII class with a name. -/
def ofAsciiName? : String → Option CharSet
  | "alnum" => some (union asciiLetter asciiDigit)
  | "alpha" => some asciiLetter
  | "ascii" => some (range '\x00' '\x7f')
  | "blank" => some (ofList [' ', '\t'])
  | "cntrl" => some (union (range '\x00' '\x1f') (single '\x7f'))
  | "digit" => some asciiDigit
  | "graph" => some (range '!' '~')
  | "lower" => some (range 'a' 'z')
  | "print" => some (range ' ' '~')
  | "punct" => some (unions [range '!' '/', range ':' '@', range '[' '\x60', range '\x7b' '~'])
  | "space" => some asciiBlank
  | "upper" => some (range 'A' 'Z')
  | "word" => some asciiWord
  | "xdigit" => some (unions [asciiDigit, range 'a' 'f', range 'A' 'F'])
  | _ => Option.none

/-- The letters of one case or another. -/
def casedLetter : CharSet :=
  unions [among Text.uppercaseRanges, among Text.lowercaseRanges, among Text.titlecaseRanges]

/-- The general category with a name. -/
def ofCategory? : String → Option CharSet
  | "l" | "letter" => some letter
  | "lu" | "uppercaseletter" => some (among Text.uppercaseRanges)
  | "ll" | "lowercaseletter" => some (among Text.lowercaseRanges)
  | "lt" | "titlecaseletter" => some (among Text.titlecaseRanges)
  | "lc" | "casedletter" => some casedLetter
  | "lm" | "modifierletter" => some (among Text.modifierLetterRanges)
  | "lo" | "otherletter" =>
    some (diff letter (union casedLetter (among Text.modifierLetterRanges)))
  | "m" | "mark" | "combiningmark" => some mark
  | "n" | "number" => some number
  | "nd" | "decimalnumber" | "digit" => some digit
  | "nl" | "letternumber" => some (among Text.letterNumberRanges)
  | "no" | "othernumber" => some (diff number (union digit (among Text.letterNumberRanges)))
  | "p" | "punctuation" | "punct" => some (among Text.punctuationRanges)
  | "pc" | "connectorpunctuation" => some (among Text.connectorRanges)
  | "s" | "symbol" => some (among Text.symbolRanges)
  | "z" | "separator" => some (among Text.separatorRanges)
  | "zs" | "spaceseparator" => some (among Text.spaceSeparatorRanges)
  | "any" => some all
  | "ascii" => some (range '\x00' '\x7f')
  | _ => Option.none

/-- The script with a name. -/
def ofScript? : String → Option CharSet
  | "latin" | "latn" => some (among Text.latinRanges)
  | "greek" | "grek" => some (among Text.greekRanges)
  | "cyrillic" | "cyrl" => some (among Text.cyrillicRanges)
  | "han" | "hani" => some (among Text.hanRanges)
  | "hiragana" | "hira" => some (among Text.hiraganaRanges)
  | "katakana" | "kana" => some (among Text.katakanaRanges)
  | "arabic" | "arab" => some (among Text.arabicRanges)
  | "hebrew" | "hebr" => some (among Text.hebrewRanges)
  | _ => Option.none

/-- The property with a name that is neither a category nor a script. -/
def ofProperty? : String → Option CharSet
  | "alphabetic" | "alpha" => some alphabetic
  | "whitespace" | "space" | "wspace" => some blank
  | _ => Option.none

/-- A name without what does not count in it. -/
def normalizeName (name : List Char) : String :=
  let lowered := (name.filter fun c =>
    c.toNat < 128 && !(c == ' ' || c == '_' || c == '-')).map Char.toLower
  String.ofList (if "is".toList.isPrefixOf lowered && lowered != "isc".toList then
    lowered.drop 2 else lowered)

/-- The set that a name stands for. -/
def ofName? (name : List Char) : Option CharSet :=
  let name := normalizeName name
  (ofCategory? name).orElse fun _ => (ofScript? name).orElse fun _ => ofProperty? name

end CharSet

end Regex

end SqlLineage

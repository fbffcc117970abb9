import SqlLineage.Text.CaseTable
import SqlLineage.Text.CasedTable

/-!
# Upper and lower case

Lowercasing follows the full mappings of the standard: the dotted capital I becomes two characters,
and a capital sigma at the end of a word becomes the final sigma. Keywords are compared after
uppercasing; only the characters whose uppercase form is ASCII can matter there, so the others are
kept.
-/

namespace SqlLineage

namespace Text

/-- The code point that the first applicable mapping gives, or the character itself. -/
def mapCase (mappings : List CaseRange) (c : Char) : Char :=
  match mappings.findSome? fun range => range.map? c.toNat with
  | some code => Char.ofNat code
  | none => c

/-- The simple lowercase form of a character. -/
def lowerChar (c : Char) : Char :=
  if c.toNat < 128 then c.toLower else mapCase lowercaseMappings c

/-- The simple case folding of a character: two characters that differ in case only fold alike. -/
def foldChar (c : Char) : Char :=
  if c.toNat < 128 then c.toLower else mapCase foldMappings c

/-- All characters that fold like a character. -/
def caseVariants (c : Char) : List Char :=
  let folded := foldChar c
  folded :: foldMappings.filterMap fun range =>
    let code := range.source.first + (folded.toNat - range.target)
    if range.map? code = some folded.toNat then some (Char.ofNat code) else none

/-- Whether the first character that is not case-ignorable is cased. -/
def meetsCased (cs : List Char) : Bool :=
  match cs.dropWhile (inRanges caseIgnorableRanges) with
  | [] => false
  | c :: _ => inRanges casedRanges c

/-- The lowercase form of the text `cs`, where `before` is the text in front of it, reversed. -/
def lowerFrom (before : List Char) : List Char → List Char
  | [] => []
  | 'İ' :: rest => 'i' :: '\u0307' :: lowerFrom ('İ' :: before) rest
  | 'Σ' :: rest =>
    (if meetsCased before && !meetsCased rest then 'ς' else 'σ') :: lowerFrom ('Σ' :: before) rest
  | c :: rest => lowerChar c :: lowerFrom (c :: before) rest

/-- The lowercase form of a text. -/
def lower (text : String) : String :=
  String.ofList (lowerFrom [] text.toList)

/-- The uppercase form of a character where that form is ASCII; other characters are kept. -/
def upperAsciiChar (c : Char) : List Char :=
  if c.toNat < 128 then [c.toUpper]
  else
    match c with
    | 'ß' => ['S', 'S']
    | 'ı' => ['I']
    | 'ſ' => ['S']
    | 'ﬀ' => ['F', 'F']
    | 'ﬁ' => ['F', 'I']
    | 'ﬂ' => ['F', 'L']
    | 'ﬃ' => ['F', 'F', 'I']
    | 'ﬄ' => ['F', 'F', 'L']
    | 'ﬅ' => ['S', 'T']
    | 'ﬆ' => ['S', 'T']
    | _ => [c]

/-- The uppercase form of a text as far as it is ASCII. -/
def upperAscii (text : String) : String :=
  String.ofList (text.toList.flatMap upperAsciiChar)

/-- Whether two texts are equal up to the case of the letters `a` to `z`. -/
def eqIgnoreAsciiCase (a b : String) : Bool :=
  a.toList.map Char.toLower == b.toList.map Char.toLower

end Text

end SqlLineage

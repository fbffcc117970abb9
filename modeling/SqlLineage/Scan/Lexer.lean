import SqlLineage.Scan.Token
import SqlLineage.Text.Bytes
import SqlLineage.Text.Class

/-!
# Splitting a text into tokens

The scan never fails: what has no closing delimiter reaches to the end of the text, and a character
that means nothing is a token of its own. The first character of a token and the characters behind
it decide what the token is and how many more characters it covers.
-/

namespace SqlLineage

namespace Scan

/-- Whether a character begins a word. -/
def beginsWord (c : Char) : Bool :=
  Text.isAlphabetic c || c == '_'

/-- Whether a character continues a word. -/
def continuesWord (c : Char) : Bool :=
  Text.isAlphanumeric c || c == '_' || c == '$'

/-- How many characters at the beginning of a text satisfy `p`. -/
def runLength (p : Char → Bool) (cs : List Char) : Nat :=
  (cs.takeWhile p).length

/-- How many characters behind an opening delimiter belong to its token: all up to the first
`closer` that is not doubled. -/
def delimitedLength (closer : Char) : List Char → Nat
  | [] => 0
  | [_] => 1
  | c :: d :: cs =>
    if c = closer then
      if d = closer then delimitedLength closer cs + 2 else 1
    else delimitedLength closer (d :: cs) + 1

/-- How many characters behind the opening of a block comment belong to it. -/
def commentLength : List Char → Nat
  | [] => 0
  | [_] => 1
  | c :: d :: cs =>
    if c = '*' ∧ d = '/' then 2 else commentLength (d :: cs) + 1

/-- How many characters behind the first one of a comment are on its line. -/
def lineLength (cs : List Char) : Nat :=
  runLength (· != '\n') cs

/-- Whether a word goes on. -/
def wordFollows (cs : List Char) : Bool :=
  cs.head?.any continuesWord

/-- The kind of a token that is a single character. -/
def singleKind : Char → Kind
  | ',' => .comma
  | '.' => .dot
  | ';' => .semicolon
  | '(' => .lparen
  | ')' => .rparen
  | _ => .symbol

/-- What a token is that begins with `c`, and how many of the characters `cs` behind it belong to
it. -/
def measure (c : Char) (cs : List Char) : Kind × Nat :=
  if c = '\'' then (.stringLiteral, delimitedLength '\'' cs)
  else if c = '"' then (.quotedIdent, delimitedLength '"' cs)
  else if c = '\x60' then (.quotedIdent, delimitedLength '\x60' cs)
  else if c = '[' then (.quotedIdent, delimitedLength ']' cs)
  else if c = '-' ∧ cs.head? = some '-' then (.lineComment, lineLength cs)
  else if c = '/' ∧ cs.head? = some '*' then (.blockComment, commentLength cs.tail + 1)
  else if (c = '#' ∨ c = '@') ∧ wordFollows cs then (.word, runLength continuesWord cs)
  else if c = '#' then (.lineComment, lineLength cs)
  else if beginsWord c then (.word, runLength continuesWord cs)
  else if Text.isAsciiDigit c then
    (.number, runLength (fun c => Text.isAsciiDigit c || c == '.') cs)
  else (singleKind c, 0)

/-- The tokens of characters in front of which `offset` bytes stand. -/
def tokensFrom (offset : Nat) (text : List Char) : List Token :=
  match text with
  | [] => []
  | c :: cs =>
    if Text.isBlank c then tokensFrom (offset + c.utf8Size) cs
    else
      let (kind, length) := measure c cs
      let literal := c :: cs.take length
      ⟨kind, String.ofList literal, offset⟩ ::
        tokensFrom (offset + Text.byteLength literal) (cs.drop length)
termination_by text.length
decreasing_by
  all_goals simp; try omega

/-- The tokens of a text. -/
def tokens (text : String) : List Token :=
  tokensFrom 0 text.toList

/-- The tokens of a text without comments. -/
def codeTokens (text : String) : List Token :=
  (tokens text).filter fun token => !token.isComment

end Scan

end SqlLineage

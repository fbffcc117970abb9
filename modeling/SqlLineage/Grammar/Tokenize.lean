import SqlLineage.Grammar.Reader
import SqlLineage.Grammar.Dialect

/-!
# From text to tokens

The text is cut into tokens from left to right; what the first characters are decides which kind of
token comes next. Blanks and comments are no tokens, but the first of them in front of a token stays
with it. The only failures are pieces of quoted text and comments that do not end, and code points
that do not exist.
-/

namespace SqlLineage

namespace Grammar

/-- Why a text cannot be cut into tokens. -/
inductive TokenFault
  | unterminatedText
  | unclosedName (closing : Char)
  | missingNestedName (opening : Char)
  | unterminatedComment
  | unterminatedDollarText
  | unterminatedDollarFence
  | unterminatedEscapes
  | unterminatedUnicode
  | endInCodePoint
  | badHexDigit (c : Char)
  | badCodePoint (code : Nat)
deriving DecidableEq, Repr

namespace TokenFault

/-- The lowercase hexadecimal digits of a number. -/
def hexDigits (n : Nat) : String :=
  String.ofList (Nat.toDigits 16 n)

/-- The wording of a failure. -/
def message : TokenFault → String
  | unterminatedText => "Unterminated string literal"
  | unclosedName closing => "Expected close delimiter '" ++ String.singleton closing ++
    "' before EOF."
  | missingNestedName opening => "Expected nested delimiter '" ++ String.singleton opening ++
    "' before EOF."
  | unterminatedComment => "Unexpected EOF while in a multi-line comment"
  | unterminatedDollarText => "Unterminated dollar-quoted string"
  | unterminatedDollarFence => "Unterminated dollar-quoted, expected $"
  | unterminatedEscapes => "Unterminated encoded string literal"
  | unterminatedUnicode => "Unterminated unicode encoded string literal"
  | endInCodePoint => "Unexpected EOF while parsing hex digit in escaped unicode string."
  | badHexDigit c => "Invalid hex digit in escaped unicode string: " ++ String.singleton c
  | badCodePoint code => "Invalid unicode character: " ++ hexDigits code

end TokenFault

/-- A failure and where it was noticed. -/
abbrev Tokenized (α : Type) := Except (TokenFault × Position) α

namespace Tokenize

/-- Fails with `fault` at `position`. -/
def fail {α : Type} (fault : TokenFault) (position : Position) : Tokenized α :=
  .error (fault, position)

/-! ## Quoted text -/

/-- What the character behind a backslash stands for in a string. -/
def escaped : Char → Char
  | '0' => '\x00'
  | 'a' => '\x07'
  | 'b' => '\x08'
  | 'f' => '\x0c'
  | 'n' => '\n'
  | 'r' => '\r'
  | 't' => '\t'
  | 'Z' => '\x1a'
  | c => c

/-- How a piece of quoted text is read. -/
structure TextRule where
  /-- The quote. -/
  quote : Char
  /-- Whether three quotes end the text instead of one. -/
  triple : Bool
  /-- Whether a backslash escapes. -/
  backslash : Bool
  /-- Whether an escaped wildcard keeps its backslash. -/
  keepsWildcards : Bool

/-- Reads the rest of a quoted text. `taken` holds what was read, reversed, and `run` counts the
quotes that end it. -/
def quotedText (rule : TextRule) (start : Position) (taken : List Char) (run : Nat)
    (position : Position) : List Char → Tokenized (String × Reader)
  | [] => fail .unterminatedText start
  | [c] =>
    if c = rule.quote && (!rule.triple || run == 2) then
      let text := if rule.triple then taken.drop 2 else taken
      .ok (String.ofList text.reverse, ⟨[], Reader.step c position⟩)
    else fail .unterminatedText start
  | c :: d :: cs =>
    let behind := Reader.step c position
    if c = rule.quote && (!rule.triple || run == 2) then
      if rule.triple then .ok (String.ofList (taken.drop 2).reverse, ⟨d :: cs, behind⟩)
      else if d = rule.quote then
        quotedText rule start (c :: taken) 0 (Reader.step d behind) cs
      else .ok (String.ofList taken.reverse, ⟨d :: cs, behind⟩)
    else if c = '\\' && rule.backslash then
      let kept := rule.keepsWildcards && (d == '%' || d == '_')
      let taken := if kept then d :: c :: taken else escaped d :: taken
      quotedText rule start taken 0 (Reader.step d behind) cs
    else quotedText rule start (c :: taken) (if c = rule.quote then run + 1 else 0) behind (d :: cs)

/-- Reads a text behind its opening quote, which stands at the reader. -/
def singleQuoted (dialect : Dialect) (backslash : Bool) (reader : Reader) :
    Tokenized (String × Reader) :=
  match reader.rest with
  | [] => fail .unterminatedText reader.position
  | quote :: _ =>
    let inner := reader.skip
    quotedText ⟨quote, false, backslash, dialect.keepsEscapedWildcards⟩ reader.position [] 0
      inner.position inner.rest

/-- Reads a text between single or triple quotes; two quotes alone are the empty text. -/
def tripleQuoted (dialect : Dialect) (kind : TextKind) (backslash : Bool)
    (reader : Reader) : Tokenized (Token × Reader) :=
  match reader.rest with
  | [] => fail .unterminatedText reader.position
  | quote :: rest =>
    let rule := fun triple => TextRule.mk quote triple backslash dialect.keepsEscapedWildcards
    match rest with
    | a :: b :: _ =>
      if a = quote && b = quote then do
        let inner := reader.skip.skip.skip
        let (text, reader) ←
          quotedText (rule true) inner.position [] 0 inner.position inner.rest
        return (.tripleText kind text, reader)
      else if a = quote then .ok (.text kind "", reader.skip.skip)
      else do
        let inner := reader.skip
        let (text, reader) ←
          quotedText (rule false) inner.position [] 0 inner.position inner.rest
        return (.text kind text, reader)
    | [a] =>
      if a = quote then .ok (.text kind "", reader.skip.skip)
      else fail .unterminatedText reader.skip.position
    | [] => fail .unterminatedText reader.skip.position

/-- Reads a text between single quotes, or between triple quotes if the dialect knows them. -/
def maybeTripleQuoted (dialect : Dialect) (kind : TextKind) (backslash : Bool)
    (reader : Reader) : Tokenized (Token × Reader) :=
  if dialect.hasTripleQuotes then tripleQuoted dialect kind backslash reader
  else do
    let (text, reader) ← singleQuoted dialect backslash reader
    return (.text kind text, reader)

/-- Reads a quoted name behind its opening quote; a doubled closing quote stands for one. -/
def nameText (closing : Char) (taken : List Char) (position : Position) :
    List Char → Option (String × Reader)
  | [] => none
  | [c] =>
    if c = closing then some (String.ofList taken.reverse, ⟨[], Reader.step c position⟩) else none
  | c :: d :: cs =>
    let behind := Reader.step c position
    if c = closing then
      if d = closing then nameText closing (c :: taken) (Reader.step d behind) cs
      else some (String.ofList taken.reverse, ⟨d :: cs, behind⟩)
    else nameText closing (c :: taken) behind (d :: cs)

/-- Reads a name whose quote stands at the reader. -/
def quotedName (opening : Char) (reader : Reader) : Tokenized (String × Reader) :=
  let inner := reader.skip
  match nameText (Word.closing opening) [] inner.position inner.rest with
  | some result => .ok result
  | none => fail (.unclosedName (Word.closing opening)) reader.position

/-- What a bracket opens in a dialect whose bracketed names may hold a quoted name: nothing, a bare
name, or a name in quotes. -/
def nestedQuote? (dialect : Dialect) (reader : Reader) : Option (Option Char) :=
  match reader.rest with
  | '[' :: cs =>
    match (cs.dropWhile Text.isBlank).head? with
    | some '"' => some (some '"')
    | some c => if dialect.beginsWord c then some none else none
    | none => none
  | _ => none

/-- Reads a bracketed name that may hold a quoted name. -/
def nestedName (nested : Option Char) (reader : Reader) : Tokenized (Token × Reader) :=
  match nested with
  | none => do
    let (name, reader) ← quotedName '[' reader
    return (.word (Word.quoted name '['), reader)
  | some quote => do
    let start := reader.position
    let (_, inner) := reader.skip.span Text.isBlank
    if !inner.sees quote then fail (.missingNestedName quote) start
    else
      let (name, inner) ← quotedName quote inner
      let (_, inner) := inner.span Text.isBlank
      if !inner.sees ']' then fail (.unclosedName ']') start
      else
        let text := String.singleton quote ++ name ++ String.singleton quote
        return (.word (Word.quoted text '['), inner.skip)

/-! ## Texts with escapes -/

/-- The value of a digit in base `base`. -/
def digitValue? (base : Nat) (c : Char) : Option Nat :=
  let value :=
    if '0' ≤ c && c ≤ '9' then some (c.toNat - 48)
    else if 'a' ≤ c && c ≤ 'f' then some (c.toNat - 87)
    else if 'A' ≤ c && c ≤ 'F' then some (c.toNat - 55)
    else none
  value.filter (· < base)

/-- The number that digits denote in base `base`. -/
def numberOf? (base : Nat) (digits : List Char) : Option Nat :=
  digits.foldlM (fun n c => (digitValue? base c).map (n * base + ·)) 0

/-- The number that digits behind an optional plus sign denote in base `base`. -/
def signedNumberOf? (base : Nat) : List Char → Option Nat
  | '+' :: digits => numberOf? base digits
  | digits => numberOf? base digits

/-- The character of a code point, if there is one. -/
def charOf? (code : Nat) : Option Char :=
  if code.isValidChar then some (Char.ofNat code) else none

/-- At most `limit` digits from the front. -/
def takeDigits (base limit : Nat) (cs : List Char) : List Char :=
  (cs.take limit).takeWhile fun c => (digitValue? base c).isSome

/-- Moves a position over characters. -/
def movedOver (position : Position) (cs : List Char) : Position :=
  cs.foldl (fun position c => Reader.step c position) position

/-- The character that an escape denotes, behind its backslash, and the characters it takes. -/
def escapeSequence? : List Char → Option (Char × Nat)
  | [] => none
  | c :: cs =>
    let small := fun (n : Nat) (used : Nat) =>
      let n := n % 256
      if n ≤ 127 then (charOf? n).map (·, used) else none
    let fixed := fun (count : Nat) =>
      let code := cs.take count
      if code.length = count then
        (signedNumberOf? 16 code).bind fun n => (charOf? n).map (·, count + 1)
      else none
    let found :=
      match c with
      | 'b' => some ('\x08', 1)
      | 'f' => some ('\x0c', 1)
      | 'n' => some ('\n', 1)
      | 'r' => some ('\r', 1)
      | 't' => some ('\t', 1)
      | 'u' => fixed 4
      | 'U' => fixed 8
      | 'x' =>
        let digits := takeDigits 16 2 cs
        if digits.isEmpty then some ('x', 1)
        else (numberOf? 16 digits).bind fun n => small n (digits.length + 1)
      | c =>
        if (digitValue? 8 c).isSome then
          let digits := c :: takeDigits 8 2 cs
          (numberOf? 8 digits).bind fun n => small n digits.length
        else some (c, 1)
    found.filter fun result => result.1 != '\x00'

/-- Reads the rest of a text with escapes; `fuel` bounds the number of characters. -/
def escapedText (fuel : Nat) (taken : List Char) (position : Position) (cs : List Char) :
    Option (String × Reader) :=
  match fuel, cs with
  | 0, _ => none
  | _, [] => none
  | fuel + 1, c :: cs =>
    let behind := Reader.step c position
    if c = '\'' then
      match cs with
      | '\'' :: cs => escapedText fuel ('\'' :: taken) (Reader.step c behind) cs
      | cs => some (String.ofList taken.reverse, ⟨cs, behind⟩)
    else if c = '\\' then
      match escapeSequence? cs with
      | none => none
      | some (found, used) =>
        escapedText fuel (found :: taken) (movedOver behind (cs.take used)) (cs.drop used)
    else escapedText fuel (c :: taken) behind cs

/-- Reads a code point of exactly `count` hexadecimal digits. -/
def codePoint (count : Nat) (value : Nat) (reader : Reader) : Tokenized (Char × Reader) :=
  match count with
  | 0 =>
    match charOf? value with
    | some c => .ok (c, reader)
    | none => fail (.badCodePoint value) reader.position
  | count + 1 =>
    match reader.next? with
    | none => fail .endInCodePoint reader.position
    | some (c, reader) =>
      match digitValue? 16 c with
      | none => fail (.badHexDigit c) reader.position
      | some digit => codePoint count (value * 16 + digit) reader

/-- Reads the rest of a text with code points; `fuel` bounds the number of characters. -/
def unicodeText (fuel : Nat) (taken : List Char) (reader : Reader) :
    Tokenized (String × Reader) :=
  match fuel, reader.next? with
  | 0, _ => fail .unterminatedUnicode reader.position
  | _, none => fail .unterminatedUnicode reader.position
  | fuel + 1, some ('\'', reader) =>
    if reader.sees '\'' then unicodeText fuel ('\'' :: taken) reader.skip
    else .ok (String.ofList taken.reverse, reader)
  | fuel + 1, some ('\\', reader) => do
    if reader.sees '\\' then unicodeText fuel ('\\' :: taken) reader.skip
    else if reader.sees '+' then
      let (c, reader) ← codePoint 6 0 reader.skip
      unicodeText fuel (c :: taken) reader
    else
      let (c, reader) ← codePoint 4 0 reader
      unicodeText fuel (c :: taken) reader
  | fuel + 1, some (c, reader) => unicodeText fuel (c :: taken) reader

/-! ## Words and numbers -/

/-- Reads the rest of a word that begins with `first`. -/
def wordFrom (dialect : Dialect) (first : List Char) (reader : Reader) : Token × Reader :=
  let (rest, reader) := reader.span dialect.continuesWord
  (.word (Word.bare (String.ofList first ++ rest)), reader)

/-- Reads a word that begins with `first`, whose last character still stands at the reader. A word
of digits and periods is a number. -/
def identifierFrom (dialect : Dialect) (first : List Char) (reader : Reader) : Token × Reader :=
  let (rest, reader) := reader.skip.span dialect.continuesWord
  let text := String.ofList first ++ rest
  if text.toList.all fun c => Text.isAsciiDigit c || c == '.' then
    let (more, reader) := reader.span fun c => Text.isAsciiDigit c || c == '.'
    (.number (text ++ more) false, reader)
  else (.word (Word.bare text), reader)

/-- Reads the exponent of a number, if one follows. -/
def exponent (reader : Reader) : String × Reader :=
  match reader.rest with
  | e :: cs =>
    if e = 'e' || e = 'E' then
      let signed : Nat :=
        match cs with
        | '+' :: _ => 1
        | '-' :: _ => 1
        | _ => 0
      match (cs.drop signed).head? with
      | some c =>
        if Text.isAsciiDigit c then
          let lead := e :: cs.take signed
          let behind : Reader := if signed = 1 then reader.skip.skip else reader.skip
          let (digits, reader) := behind.span Text.isAsciiDigit
          (String.ofList lead ++ digits, reader)
        else ("", reader)
      | none => ("", reader)
    else ("", reader)
  | [] => ("", reader)

/-- Reads a number or a period. In dialects whose words may begin with a digit, a number that runs
on into letters is a word, unless the first of them is an `e`. -/
def number (dialect : Dialect) (reader : Reader) : Token × Reader :=
  let (whole, reader) := reader.span Text.isAsciiDigit
  if whole == "0" && reader.sees 'x' then
    let (digits, reader) := reader.skip.span Text.isAsciiHexDigit
    (.text .hexadecimal digits, reader)
  else
    let (point, reader) := if reader.sees '.' then (".", reader.skip) else ("", reader)
    let (fraction, reader) := reader.span Text.isAsciiDigit
    let text := whole ++ point ++ fraction
    if text == "." then (.symbol .period, reader)
    else
      let runsOn := dialect.wordsBeginWithDigits && !(reader.sees 'e' || reader.sees 'E')
      let (word, behind) := reader.span dialect.continuesWord
      if runsOn && !word.isEmpty then (.word (Word.bare (text ++ word)), behind)
      else
        let (power, reader) := exponent reader
        if reader.sees 'L' then (.number (text ++ power) true, reader.skip)
        else (.number (text ++ power) false, reader)

/-! ## Dollar signs -/

/-- Reads the text behind two dollar signs up to the next two. -/
def dollarText (taken : List Char) (behindDollar : Bool) (reader : Reader) :
    List Char → Tokenized (Token × Reader)
  | [] => fail .unterminatedDollarText reader.position
  | c :: cs =>
    let behind : Reader := ⟨cs, Reader.step c reader.position⟩
    if behindDollar then
      if c = '$' then .ok (.dollarText none (String.ofList taken.reverse), behind)
      else dollarText (c :: '$' :: taken) false behind cs
    else if c = '$' then dollarText taken true behind cs
    else dollarText (c :: taken) false behind cs

/-- Reads a text up to the fence that opened it; `taken` holds the text, reversed. -/
def fencedText (fence : List Char) (taken : List Char) (position : Position) :
    List Char → Option (String × Reader)
  | [] => none
  | c :: cs =>
    let taken := c :: taken
    let behind := Reader.step c position
    if fence.isPrefixOf taken then
      some (String.ofList (taken.drop fence.length).reverse, ⟨cs, behind⟩)
    else fencedText fence taken behind cs

/-- Reads what follows a dollar sign: a text between two dollar signs, a text between fences, or a
placeholder. -/
def dollar (dialect : Dialect) (reader : Reader) : Tokenized (Token × Reader) :=
  let placeholders := dialect.hasDollarPlaceholders
  if reader.sees '$' && !placeholders then
    let inner := reader.skip
    dollarText [] false inner inner.rest
  else
    let (name, reader) := reader.span fun c =>
      Text.isAlphanumeric c || c == '_' || (c == '$' && placeholders)
    if reader.sees '$' && !placeholders then
      let inner := reader.skip
      let fence := ("$" ++ name ++ "$").toList.reverse
      match fencedText fence [] inner.position inner.rest with
      | some (text, reader) => .ok (.dollarText (if name.isEmpty then none else some name) text, reader)
      | none => fail .unterminatedDollarFence (movedOver inner.position inner.rest)
    else .ok (.placeholder ("$" ++ name), reader)

/-! ## Comments -/

/-- Reads a comment to the end of its line, the line end included. -/
def lineComment (dialect : Dialect) (reader : Reader) : String × Reader :=
  let (text, reader) := reader.span fun c => !(c == '\n' || (c == '\r' && dialect == .postgresql))
  match reader.next? with
  | some (c, behind) => (text.push c, behind)
  | none => (text, reader)

/-- Reads a block comment behind its opening. `depth` counts the comments that are open inside the
outermost, and `taken` holds what was read, reversed. -/
def blockComment (nests : Bool) (depth : Nat) (taken : List Char) (position : Position) :
    List Char → Tokenized (String × Reader)
  | [] => fail .unterminatedComment position
  | [c] => fail .unterminatedComment (Reader.step c position)
  | c :: d :: cs =>
    let behind := Reader.step c position
    let both := d :: c :: taken
    if nests && c = '/' && d = '*' then
      blockComment nests (depth + 1) both (Reader.step d behind) cs
    else if c = '*' && d = '/' then
      match depth with
      | 0 => .ok (String.ofList both.reverse, ⟨cs, Reader.step d behind⟩)
      | depth + 1 => blockComment nests depth both (Reader.step d behind) cs
    else blockComment nests depth (c :: taken) behind (d :: cs)

/-! ## Operators -/

/-- The operator `symbol`, unless a dialect lets the characters that follow extend it to an operator
of its own. The reader stands behind the symbol. -/
def operator (dialect : Dialect) (symbol : Symbol) (reader : Reader) : Token × Reader :=
  let lead := if symbol = .neq then "<>" else symbol.spelling
  let (more, behind) := reader.span dialect.continuesOperator
  if more.isEmpty then (.symbol symbol, reader) else (.operator (lead ++ more), behind)

/-- What is cut off the front of a text: a token, or a blank or comment that no parser sees. -/
inductive Piece
  | token (token : Token)
  | gap (text : String)

/-- A piece and what stands behind it. -/
abbrev Scanned := Piece × Reader

/-- A token that needs no further reading. -/
def found (result : Token × Reader) : Tokenized Scanned :=
  .ok (.token result.1, result.2)

/-- A blank, or a comment with what opens it. -/
def skipped (opening : String) (result : String × Reader) : Tokenized Scanned :=
  .ok (.gap (opening ++ result.1), result.2)

/-- The symbol `symbol`, read up to `reader`. -/
def symbolAt (symbol : Symbol) (reader : Reader) : Tokenized Scanned :=
  found (.symbol symbol, reader)

/-- Reads an operator that begins with one of `- / % | = ! < > : & ^ ~`; the reader stands behind
that character. -/
def operatorFrom (dialect : Dialect) (first : Char) (reader : Reader) : Tokenized Scanned :=
  let op := fun symbol (reader : Reader) => found (operator dialect symbol reader)
  match first, reader.rest with
  | '-', '-' :: _ => skipped "--" (lineComment dialect reader.skip)
  | '-', '>' :: '>' :: _ => op .longArrow reader.skip.skip
  | '-', '>' :: _ => op .arrow reader.skip
  | '-', _ => op .minus reader
  | '/', '*' :: _ => do
    let inner := reader.skip
    skipped "/*" (← blockComment dialect.nestsComments 0 [] inner.position inner.rest)
  | '/', '/' :: _ =>
    if dialect == .snowflake then skipped "//" (lineComment dialect reader.skip)
    else if dialect == .duckdb || dialect == .generic then symbolAt .doubleSlash reader.skip
    else symbolAt .slash reader
  | '/', _ => symbolAt .slash reader
  | '%', c :: _ =>
    if Text.isBlank c then symbolAt .percent reader
    else if dialect.beginsWord '%' then found (identifierFrom dialect ['%', c] reader)
    else op .percent reader
  | '%', [] => op .percent reader
  | '|', '/' :: _ => op .squareRoot reader.skip
  | '|', '|' :: '/' :: _ => op .cubeRoot reader.skip.skip
  | '|', '|' :: _ => op .concat reader.skip
  | '|', _ => op .pipe reader
  | '=', '>' :: _ => symbolAt .rightArrow reader.skip
  | '=', '=' :: _ => symbolAt .doubleEq reader.skip
  | '=', _ => symbolAt .eq reader
  | '!', '=' :: _ => symbolAt .neq reader.skip
  | '!', '!' :: _ => symbolAt .doubleBang reader.skip
  | '!', '~' :: '*' :: _ => symbolAt .bangTildeStar reader.skip.skip
  | '!', '~' :: '~' :: '*' :: _ => symbolAt .bangDoubleTildeStar reader.skip.skip.skip
  | '!', '~' :: '~' :: _ => symbolAt .bangDoubleTilde reader.skip.skip
  | '!', '~' :: _ => symbolAt .bangTilde reader.skip
  | '!', _ => symbolAt .bang reader
  | '<', '=' :: '>' :: _ => op .spaceship reader.skip.skip
  | '<', '=' :: _ => op .ltEq reader.skip
  | '<', '>' :: _ => op .neq reader.skip
  | '<', '<' :: _ => op .shiftLeft reader.skip
  | '<', '@' :: _ => op .arrowAt reader.skip
  | '<', _ => op .lt reader
  | '>', '=' :: _ => op .gtEq reader.skip
  | '>', '>' :: _ => op .shiftRight reader.skip
  | '>', _ => op .gt reader
  | ':', ':' :: _ => symbolAt .doubleColon reader.skip
  | ':', '=' :: _ => symbolAt .assign reader.skip
  | ':', _ => symbolAt .colon reader
  | '&', '&' :: _ => op .overlap reader.skip
  | '&', _ => op .ampersand reader
  | '^', '@' :: _ => symbolAt .caretAt reader.skip
  | '^', _ => symbolAt .caret reader
  | '~', '*' :: _ => op .tildeStar reader.skip
  | '~', '~' :: '*' :: _ => op .doubleTildeStar reader.skip.skip
  | '~', '~' :: _ => op .doubleTilde reader.skip
  | _, _ => op .tilde reader

/-- Reads what follows `#` where it opens no comment. -/
def hashFrom (dialect : Dialect) (reader : Reader) : Tokenized Scanned :=
  let op := fun symbol (reader : Reader) => found (operator dialect symbol reader)
  match reader.rest with
  | '-' :: _ => op .hashMinus reader.skip
  | '>' :: '>' :: _ => op .hashLongArrow reader.skip.skip
  | '>' :: _ => op .hashArrow reader.skip
  | ' ' :: _ => symbolAt .sharp reader
  | c :: _ =>
    if dialect.beginsWord '#' then found (identifierFrom dialect ['#', c] reader)
    else op .sharp reader
  | [] => op .sharp reader

/-- Reads what follows `@`. -/
def atFrom (dialect : Dialect) (reader : Reader) : Tokenized Scanned :=
  match reader.rest with
  | '>' :: _ => symbolAt .atArrow reader.skip
  | '?' :: _ => symbolAt .atQuestion reader.skip
  | '@' :: ' ' :: _ => symbolAt .atAt reader.skip
  | '@' :: c :: _ =>
    if dialect.beginsWord '@' then found (identifierFrom dialect ['@', '@', c] reader.skip)
    else symbolAt .atAt reader.skip
  | '@' :: [] => symbolAt .atAt reader.skip
  | ' ' :: _ => symbolAt .atSign reader
  | '\'' :: _ => symbolAt .atSign reader
  | '"' :: _ => symbolAt .atSign reader
  | '`' :: _ => symbolAt .atSign reader
  | c :: _ =>
    if dialect.beginsWord '@' then found (identifierFrom dialect ['@', c] reader)
    else symbolAt .atSign reader
  | [] => symbolAt .atSign reader

/-- Reads what follows `?`. Where it is an operator, the character behind it is taken with it. -/
def questionFrom (dialect : Dialect) (reader : Reader) : Tokenized Scanned :=
  if dialect == .postgresql then
    match reader.rest with
    | '|' :: _ => symbolAt .questionPipe reader.skip
    | '&' :: _ => symbolAt .questionAnd reader.skip
    | _ => symbolAt .question reader.skip
  else
    let (digits, reader) := reader.span Text.isNumber
    found (.placeholder ("?" ++ digits), reader)

/-- The symbol that a character is by itself. -/
def punctuation? : Char → Option Symbol
  | '(' => some .lparen
  | ')' => some .rparen
  | ',' => some .comma
  | '+' => some .plus
  | '*' => some .star
  | ';' => some .semicolon
  | '\\' => some .backslash
  | '[' => some .lbracket
  | ']' => some .rbracket
  | '\x7b' => some .lbrace
  | '\x7d' => some .rbrace
  | _ => none

/-- Reads a token that begins with a letter that may also introduce a literal. -/
def letterFrom? (dialect : Dialect) (c : Char) (reader : Reader) :
    Option (Tokenized Scanned) :=
  let behind := reader.skip
  let word := found (wordFrom dialect [c] behind)
  let bytes := match dialect with
    | .bigquery | .postgresql | .mysql | .generic => true
    | _ => false
  let raws := dialect == .bigquery || dialect == .generic
  let literal := fun (kind : TextKind) => some do
    let (text, reader) ← singleQuoted dialect true behind
    found (.text kind text, reader)
  let byteText := fun (kind : TextKind) => some do
    found (← maybeTripleQuoted dialect kind false behind)
  let rawText := fun (kind : TextKind) => some do
    found (← tripleQuoted dialect kind false behind)
  match c.toLower, behind.peek? with
  | 'b', some '\'' => if bytes then byteText .byte else none
  | 'b', some '"' => if bytes then byteText .doubleQuotedByte else none
  | 'b', _ => if bytes then some word else none
  | 'r', some '\'' => if raws then rawText .raw else none
  | 'r', some '"' => if raws then rawText .doubleQuotedRaw else none
  | 'r', _ => if raws then some word else none
  | 'n', some '\'' => literal .national
  | 'n', _ => some word
  | 'e', some '\'' => some do
    let inner := behind.skip
    match escapedText (inner.rest.length + 1) [] inner.position inner.rest with
    | some (text, reader) => found (.text .escaped text, reader)
    | none => fail .unterminatedEscapes reader.position
  | 'e', _ => some word
  | 'u', some '&' =>
    if dialect.hasUnicodeStrings then
      if behind.skip.sees '\'' then some do
        let inner := behind.skip.skip
        let (text, reader) ← unicodeText (inner.rest.length + 1) [] inner
        found (.text .unicode text, reader)
      else some word
    else none
  | 'u', _ => if dialect.hasUnicodeStrings then some word else none
  | 'x', some '\'' => literal .hexadecimal
  | 'x', _ => some word
  | _, _ => none

/-- Reads the next piece, which begins with `c`. -/
def next (dialect : Dialect) (c : Char) (reader : Reader) : Tokenized Scanned :=
  let behind := reader.skip
  if c = ' ' || c = '\t' || c = '\n' then skipped "" (String.singleton c, behind)
  else if c = '\r' then skipped "" ("\n", if behind.sees '\n' then behind.skip else behind)
  else
    match letterFrom? dialect c reader with
    | some result => result
    | none =>
      if c = '\'' then do
        found (← maybeTripleQuoted dialect .plain dialect.backslashEscapes reader)
      else if c = '"' && !dialect.opensQuoted c && !dialect.beginsWord c then do
        found (← maybeTripleQuoted dialect .doubleQuoted dialect.backslashEscapes reader)
      else if dialect.opensQuoted c then do
        let (name, reader) ← quotedName c reader
        found (.word (Word.quoted name c), reader)
      else if Text.isAsciiDigit c || c = '.' then found (number dialect reader)
      else if c = '#' && dialect.hasHashComments then skipped "#" (lineComment dialect behind)
      else if c = '#' then hashFrom dialect behind
      else if c = '@' then atFrom dialect behind
      else if c = '?' then questionFrom dialect behind
      else if "-/%|=!<>:&^~".toList.contains c then operatorFrom dialect c behind
      else
        match (if dialect == .redshift then nestedQuote? dialect reader else none) with
        | some nested => do found (← nestedName nested reader)
        | none =>
          match punctuation? c with
          | some symbol => symbolAt symbol behind
          | none =>
            if dialect.beginsWord c then found (identifierFrom dialect [c] reader)
            else if c = '$' then do found (← dollar dialect behind)
            else if Text.isBlank c then skipped "" (" ", behind)
            else found (.char c, behind)

/-- Reads all tokens, and the end of the input as the last of them. `gap` is the first blank or
comment behind the last token taken. -/
def all (dialect : Dialect) (fuel : Nat) (gap : Option Gap) (taken : Array Lexeme)
    (reader : Reader) : Tokenized (Array Lexeme) :=
  match fuel, reader.rest with
  | 0, _ => .ok taken
  | _, [] => .ok (taken.push ⟨.eof, .none, gap⟩)
  | fuel + 1, c :: _ => do
    let start := reader.position
    match ← next dialect c reader with
    | (.gap text, behind) => all dialect fuel (gap <|> some ⟨text, start⟩) taken behind
    | (.token token, behind) => all dialect fuel none (taken.push ⟨token, start, gap⟩) behind

end Tokenize

/-- The tokens of a text in a dialect, ended by the end of the input. -/
def tokenize (dialect : Dialect) (text : String) : Tokenized (Array Lexeme) :=
  let cs := text.toList
  Tokenize.all dialect (cs.length + 1) none #[] (Reader.ofList cs)

end Grammar

end SqlLineage

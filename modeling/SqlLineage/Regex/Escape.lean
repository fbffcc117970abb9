import SqlLineage.Regex.Cursor

/-!
# Escape sequences

A backslash makes a character literal, or names a character, a class of characters or a condition.
-/

namespace SqlLineage

namespace Regex

/-- A part of a pattern without parts of its own. -/
inductive Primitive
  /-- A character. -/
  | literal (c : Char)
  /-- A set of characters. -/
  | set (set : CharSet)
  /-- A condition. -/
  | look (condition : Look)

namespace Parser

/-- Whether a character has a meaning of its own. -/
def isMeta (c : Char) : Bool :=
  "\\.+*?()|[]\x7b\x7d^$#&-~".toList.contains c

/-- Whether a backslash makes a character literal. -/
def isEscapable (c : Char) : Bool :=
  isMeta c ||
    (c.toNat < 128 && !Text.isAsciiLetter c && !Text.isAsciiDigit c && c != '<' && c != '>')

/-- The character that a letter behind a backslash stands for. -/
def namedChar? : Char → Option Char
  | 'a' => some '\x07'
  | 'f' => some '\x0c'
  | 't' => some '\t'
  | 'n' => some '\n'
  | 'r' => some '\r'
  | 'v' => some '\x0b'
  | _ => none

/-- The value of a hexadecimal digit. -/
def hexValue (c : Char) : Nat :=
  if Text.isAsciiDigit c then c.toNat - '0'.toNat
  else c.toLower.toNat - 'a'.toNat + 10

/-- The character with a hexadecimal code, if there is one. -/
def charOfHex? (digits : List Char) : Option Char :=
  let code := digits.foldl (fun n c => n * 16 + hexValue c) 0
  if code.isValidChar then some (Char.ofNat code) else none

/-- The character whose code is given by digits between two places. -/
def charOfDigits (digits : List Char) (start stop : Place) : Parser Char :=
  match charOfHex? digits with
  | some c => return c
  | none => fail .hexInvalid start stop

/-- Hexadecimal digits, of which more than none must come next. -/
def hexDigits : Nat → Parser (List Char)
  | 0 => return []
  | count + 1 => do
    match ← peek with
    | none => failHere .escapeUnexpectedEnd
    | some c =>
      if Text.isAsciiHexDigit c then
        bumpSkip
        return c :: (← hexDigits count)
      else failChar .hexInvalidDigit none

/-- Hexadecimal digits up to a closing brace, of which `brace` is the opening one. -/
def hexUntilBrace (brace : Place) : Nat → Parser (List Char)
  | 0 => return []
  | fuel + 1 => do
    match ← peek with
    | none => fail .escapeUnexpectedEnd brace (← here)
    | some '\x7d' => return []
    | some c =>
      if Text.isAsciiHexDigit c then
        bumpSkip
        return c :: (← hexUntilBrace brace fuel)
      else failChar .hexInvalidDigit none

/-- The character whose code comes next, in braces or with `count` digits. -/
def hexChar (count : Nat) : Parser Char := do
  bumpSkip
  match ← peek with
  | none => failHere .escapeUnexpectedEnd
  | some '\x7b' =>
    let brace ← here
    let start := brace.behind '\x7b'
    bumpSkip
    let digits ← hexUntilBrace brace ((← remaining) + 1)
    let stop ← here
    bumpSkip
    if digits.isEmpty then fail .hexEmpty brace (← here)
    else charOfDigits digits start stop
  | some _ =>
    let start ← here
    let digits ← hexDigits count
    charOfDigits digits start (← here)

/-- The characters up to a closing brace. -/
def nameUntilBrace : Nat → Parser (List Char)
  | 0 => return []
  | fuel + 1 => do
    match ← peek with
    | none => failHere .escapeUnexpectedEnd
    | some '\x7d' => return []
    | some c =>
      bumpSkip
      return c :: (← nameUntilBrace fuel)

/-- A name split at the first occurrence of `mark`. -/
def splitName? (mark : List Char) : List Char → Option (List Char × List Char)
  | [] => none
  | c :: cs =>
    if mark.isPrefixOf (c :: cs) then some ([], (c :: cs).drop mark.length)
    else (splitName? mark cs).map fun (name, value) => (c :: name, value)

/-- The set with a name and a value, or what is unknown about it. -/
def namedValue (name value : List Char) : Except FaultKind CharSet :=
  let find (set : Option CharSet) : Except FaultKind CharSet :=
    match set with
    | some set => .ok set
    | none => .error .propertyValueNotFound
  let value := CharSet.normalizeName value
  match CharSet.normalizeName name with
  | "gc" | "generalcategory" => find (CharSet.ofCategory? value)
  | "sc" | "script" | "scx" | "scriptextensions" => find (CharSet.ofScript? value)
  | _ => .error .propertyNotFound

/-- The set that the text in the braces of a class names. -/
def namedSet (text : List Char) : Except FaultKind CharSet :=
  match splitName? ['!', '='] text with
  | some (name, value) => (namedValue name value).map .compl
  | none =>
    match (splitName? [':'] text).orElse fun _ => splitName? ['='] text with
    | some (name, value) => namedValue name value
    | none =>
      match CharSet.ofName? text with
      | some set => .ok set
      | none => .error .propertyNotFound

/-- A class by a property, where `start` is the place of the backslash. -/
def unicodeClass (start : Place) (negated : Bool) : Parser CharSet := do
  bumpSkip
  let found ← match ← peek with
    | none => failHere .escapeUnexpectedEnd
    | some '\x7b' => do
      bumpSkip
      let text ← nameUntilBrace ((← remaining) + 1)
      bump
      pure (namedSet text)
    | some c => do
      if c = '\\' then failChar .unicodeClassInvalid none
      else
        bumpSkip
        pure (namedSet [c])
  let span : Span := ⟨start, ← here⟩
  let flags := (← get).flags
  if !flags.unicode then
    note .unicodeNotAllowed span
    return .none
  match found with
  | .ok set => return .negateIf negated (if flags.ignoreCase then .anyCase set else set)
  | .error kind =>
    note kind span
    return .none

/-- A class by a letter, where `start` is the place of the backslash. -/
def letterClass (start : Place) (letter : Char) : Parser CharSet := do
  bump
  let unicode := (← get).flags.unicode
  let set := match letter.toLower with
    | 'd' => if unicode then CharSet.digit else .asciiDigit
    | 's' => if unicode then .blank else .asciiBlank
    | _ => if unicode then .word else .asciiWord
  let negated := letter.isUpper
  if negated && !unicode then note .invalidUtf8 ⟨start, ← here⟩
  return .negateIf negated set

/-- Whether a character may stand in the name of a condition. -/
def isConditionChar (c : Char) : Bool :=
  Text.isAsciiLetter c || c == '-'

/-- The condition named in braces behind a word edge, if braces with a name come next. The edge
starts at `start`. -/
def namedEdge? (start : Place) (ascii : Bool) : Parser (Option Look) := do
  let before ← get
  if before.rest.head? != some '\x7b' then return none
  let brace ← here
  bumpSkip
  match ← peek with
  | none => fail .wordBoundaryUnexpectedEnd start (← here)
  | some c =>
    if !isConditionChar c then
      set before
      return none
    let nameStart ← here
    let name ← takeWhile isConditionChar (← remaining)
    if (← peek) != some '\x7d' then fail .wordBoundaryUnclosed brace (← here)
    let nameStop ← here
    bump
    match String.ofList name with
    | "start" => return some (.wordStart ascii)
    | "end" => return some (.wordEnd ascii)
    | "start-half" => return some (.noWordBefore ascii)
    | "end-half" => return some (.noWordBehind ascii)
    | _ => fail .wordBoundaryUnrecognized nameStart nameStop

/-- What a character behind a backslash stands for, where `start` is the place of the backslash and
the character has been read. -/
def simpleEscape (start : Place) (c : Char) : Parser Primitive := do
  let ascii := !(← get).flags.unicode
  if isEscapable c then return .literal c
  if let some named := namedChar? c then return .literal named
  match c with
  | 'A' => return .look .textStart
  | 'z' => return .look .textEnd
  | 'b' =>
    match ← namedEdge? start ascii with
    | some condition => return .look condition
    | none => return .look (.wordEdge ascii)
  | 'B' => return .look (.noWordEdge ascii)
  | '<' => return .look (.wordStart ascii)
  | '>' => return .look (.wordEnd ascii)
  | _ => fail .escapeUnrecognized start (← here)

/-- An escape sequence. -/
def escape : Parser Primitive := do
  let start ← here
  bump
  match ← peek with
  | none => fail .escapeUnexpectedEnd start (← here)
  | some c =>
    if Text.isAsciiDigit c then fail .unsupportedBackreference start (← charSpan).stop
    match c with
    | 'x' => return .literal (← hexChar 2)
    | 'u' => return .literal (← hexChar 4)
    | 'U' => return .literal (← hexChar 8)
    | 'p' => return .set (← unicodeClass start false)
    | 'P' => return .set (← unicodeClass start true)
    | 'd' | 's' | 'w' | 'D' | 'S' | 'W' => return .set (← letterClass start c)
    | _ =>
      bump
      simpleEscape start c

end Parser

end Regex

end SqlLineage

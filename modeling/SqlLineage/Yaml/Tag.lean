import SqlLineage.Yaml.Scalar

/-!
# Scanning names, tags and directives

An anchor names a part of a document, and an alias stands for the part that it names. A tag says what
a part is, by a handle, which a directive can give a meaning, and a suffix.
-/

namespace SqlLineage

namespace Yaml

namespace Scanning

/-- An anchor or an alias. -/
def namedPart (construct : String) (kind : String → TokenKind) : Scanning Unit := do
  saveKey
  allowKey false
  let start ← here
  skip 1
  let name ← takeWhile isNameChar
  let stop ← here
  let c ← peek
  let ended : Bool :=
    isGapOrEnd c || ['?', ':', ',', ']', '\x7d', '%', '@', '\x60'].any (some · == c)
  if name.isEmpty || !ended then
    fail construct start "did not find expected alphabetic or numeric character"
  emit (kind (String.ofList name)) start stop

/-- The handle of a tag, or the part of a tag that might have been one. -/
def tagHandle (directive : Bool) (start : Mark) : Scanning (List Char) := do
  if !(← next '!') then
    fail (if directive then "while scanning a tag directive" else "while scanning a tag") start
      "did not find expected '!'"
  skip 1
  let name ← takeWhile isNameChar
  if ← next '!' then
    skip 1
    return '!' :: name ++ ['!']
  if directive && !name.isEmpty then
    fail "while parsing a tag directive" start "did not find expected '!'"
  return '!' :: name

/-- Whether a character may stand in a tag; some may only if it is verbatim. -/
def isTagChar (verbatim : Bool) (c : Char) : Bool :=
  isNameChar c || ";/?:@&=+$.%!~*'()".toList.contains c || (verbatim && ",[]".toList.contains c)

/-- How many bytes an encoded character has whose first byte is given. -/
def encodedWidth (octet : Nat) : Nat :=
  if octet < 128 then 1
  else if 192 ≤ octet ∧ octet < 224 then 2
  else if 224 ≤ octet ∧ octet < 240 then 3
  else if 240 ≤ octet ∧ octet < 248 then 4
  else 0

/-- A byte that is written as a percent sign and two digits. -/
def escapedOctet (construct : String) (start : Mark) : Scanning Nat := do
  match (← get).rest with
  | '%' :: high :: low :: _ =>
    match hexValue? high, hexValue? low with
    | some high, some low => return high * 16 + low
    | _, _ => fail construct start "did not find URI escaped octet"
  | _ => fail construct start "did not find URI escaped octet"

/-- The bytes of an encoded character behind its first. -/
def trailingOctets (construct : String) (start : Mark) : Nat → Scanning (List Nat)
  | 0 => return []
  | count + 1 => do
    let octet ← escapedOctet construct start
    if octet < 128 || 192 ≤ octet then
      fail construct start "found an incorrect trailing UTF-8 octet"
    skip 3
    return octet :: (← trailingOctets construct start count)

/-- An encoded character. -/
def encodedChar (construct : String) (start : Mark) : Scanning Char := do
  let octet ← escapedOctet construct start
  let width := encodedWidth octet
  if width == 0 then fail construct start "found an incorrect leading UTF-8 octet"
  skip 3
  let others ← trailingOctets construct start (width - 1)
  let head := if width = 1 then octet else octet % Nat.pow 2 (7 - width)
  return Char.ofNat (others.foldl (fun n octet => n * 64 + octet % 64) head)

/-- The characters of a tag. -/
def tagChars (construct : String) (verbatim : Bool) (start : Mark) : Nat → Scanning (List Char)
  | 0 => return []
  | fuel + 1 => do
    match ← peek with
    | some c =>
      if c == '%' then
        let c ← encodedChar construct start
        return c :: (← tagChars construct verbatim start fuel)
      else if isTagChar verbatim c then
        skip 1
        return c :: (← tagChars construct verbatim start fuel)
      else return []
    | none => return []

/-- The rest of a tag behind `head`, which must not be empty together with it. -/
def tagUri (verbatim directive : Bool) (head : List Char) (start : Mark) :
    Scanning (List Char) := do
  let construct := if directive then "while parsing a %TAG directive" else "while parsing a tag"
  let chars ← tagChars construct verbatim start ((← remaining) + 1)
  if head.isEmpty && chars.isEmpty then fail construct start "did not find expected tag URI"
  return head.tail ++ chars

/-- The handle and the suffix of a tag. -/
def tagParts (start : Mark) : Scanning (List Char × List Char) := do
  if (← peekAt 1) == some '<' then
    skip 2
    let uri ← tagUri true false [] start
    if !(← next '>') then fail "while scanning a tag" start "did not find the expected '>'"
    skip 1
    return ([], uri)
  let handle ← tagHandle false start
  if handle.length > 1 && handle.getLast? == some '!' then
    return (handle, ← tagUri false false [] start)
  let uri ← tagUri false false handle start
  return if uri.isEmpty then ([], ['!']) else (['!'], uri)

/-- A tag. -/
def tagToken : Scanning Unit := do
  saveKey
  allowKey false
  let start ← here
  let (handle, uri) ← tagParts start
  let c ← peek
  let ended : Bool := isGapOrEnd c || ((← get).flowLevel != 0 && c == some ',')
  if !ended then
    fail "while scanning a tag" start "did not find expected whitespace or line break"
  emit (.tag (String.ofList handle) (String.ofList uri)) start (← here)

/-- A number in the version directive that starts at a place. -/
def versionNumber (start : Mark) : Scanning Nat := do
  let rec digits (value count : Nat) : Nat → Scanning (Nat × Nat)
    | 0 => return (value, count)
    | fuel + 1 => do
      match ← peek with
      | some c =>
        if '0' ≤ c && c ≤ '9' then
          if 9 ≤ count then
            fail "while scanning a %YAML directive" start "found extremely long version number"
          skip 1
          digits (value * 10 + (c.toNat - '0'.toNat)) (count + 1) fuel
        else return (value, count)
      | none => return (value, count)
  let (value, count) ← digits 0 0 ((← remaining) + 1)
  if count == 0 then
    fail "while scanning a %YAML directive" start "did not find expected version number"
  return value

/-- The value of a version directive that starts at a place. -/
def versionDirective (start : Mark) : Scanning TokenKind := do
  skipSpaces
  let major ← versionNumber start
  if !(← next '.') then
    fail "while scanning a %YAML directive" start "did not find expected digit or '.' character"
  skip 1
  return .version major (← versionNumber start)

/-- The value of a tag directive that starts at a place. -/
def tagDirective (start : Mark) : Scanning TokenKind := do
  skipSpaces
  let handle ← tagHandle true start
  if !((← peek).any isSpace) then
    fail "while scanning a %TAG directive" start "did not find expected whitespace"
  skipSpaces
  let uri ← tagUri true true [] start
  if !isGapOrEnd (← peek) then
    fail "while scanning a %TAG directive" start
      "did not find expected whitespace or line break"
  return .tagDirective (String.ofList handle) (String.ofList uri)

/-- A directive. -/
def directive : Scanning Unit := do
  closeBlocks (-1)
  removeKey
  allowKey false
  let start ← here
  let construct := "while scanning a directive"
  skip 1
  let name ← takeWhile isNameChar
  if name.isEmpty then fail construct start "could not find expected directive name"
  if !isGapOrEnd (← peek) then
    fail construct start "found unexpected non-alphabetical character"
  let kind ← match String.ofList name with
    | "YAML" => versionDirective start
    | "TAG" => tagDirective start
    | _ => fail construct start "found unknown directive name"
  let stop ← here
  skipSpaces
  skipComment
  if !isBreakOrEnd (← peek) then
    fail construct start "did not find expected comment or line break"
  let _ ← readBreak
  emit kind start stop

end Scanning

end Yaml

end SqlLineage

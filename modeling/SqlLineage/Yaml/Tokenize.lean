import SqlLineage.Yaml.Tag

/-!
# From characters to tokens

A token leaves the queue as soon as nothing can get in front of it. When scanning fails, the tokens
that have left by then still count.
-/

namespace SqlLineage

namespace Yaml

namespace Scanning

/-- The start of a flow collection. -/
def openFlow (kind : TokenKind) : Scanning Unit := do
  saveKey
  modify fun scanner =>
    { scanner with
      keys := SimpleKey.none :: scanner.keys
      flowLevel := scanner.flowLevel + 1
      keyAllowed := true }
  emitNext kind 1

/-- The end of a flow collection. -/
def closeFlow (kind : TokenKind) : Scanning Unit := do
  removeKey
  modify fun scanner =>
    if scanner.flowLevel = 0 then scanner
    else { scanner with keys := scanner.keys.tail, flowLevel := scanner.flowLevel - 1 }
  allowKey false
  emitNext kind 1

/-- A comma between entries. -/
def flowEntry : Scanning Unit := do
  removeKey
  allowKey true
  emitNext .flowEntry 1

/-- A mark that opens a block collection unless one is open at its column, where keys must be
allowed. -/
def openAt (kind : TokenKind) (reason : String) : Scanning Unit := do
  let scanner ← get
  if scanner.flowLevel == 0 then
    if !scanner.keyAllowed then throw (.malformed reason scanner.mark none)
    openBlock scanner.mark.column none kind scanner.mark

/-- A hyphen in front of an entry. -/
def blockEntry : Scanning Unit := do
  openAt .blockSequenceStart "block sequence entries are not allowed in this context"
  removeKey
  allowKey true
  emitNext .blockEntry 1

/-- A question mark in front of a key. -/
def keyMark : Scanning Unit := do
  openAt .blockMappingStart "mapping keys are not allowed in this context"
  removeKey
  allowKey ((← get).flowLevel == 0)
  emitNext .key 1

/-- A colon in front of a value. -/
def valueMark : Scanning Unit := do
  let key ← currentKey
  if key.possible then
    emitAt key.number .key key.mark
    openBlock key.mark.column (some key.number) .blockMappingStart key.mark
    setKey { key with possible := false }
    allowKey false
  else
    openAt .blockMappingStart "mapping values are not allowed in this context"
    allowKey ((← get).flowLevel == 0)
  emitNext .value 1

/-- The start or the end of a document. -/
def documentToken (kind : TokenKind) : Scanning Unit := do
  closeBlocks (-1)
  removeKey
  allowKey false
  emitNext kind 3

/-- The end of the text. -/
def streamEnd : Scanning Unit := do
  modify fun scanner =>
    if scanner.mark.column = 0 then scanner
    else { scanner with mark := ⟨scanner.mark.index, scanner.mark.line + 1, 0⟩ }
  closeBlocks (-1)
  removeKey
  allowKey false
  emitNext .streamEnd 0

/-- Whether a plain scalar starts with `c`, behind which `following` comes. -/
def startsPlain (flow : Bool) (c : Char) (following : Option Char) : Bool :=
  if c == '-' then !following.any isSpace
  else if c == '?' || c == ':' then !flow && !isGapOrEnd following
  else !(isSpace c || isBreak c || ",[]\x7b\x7d#&*!|>'\"%@\x60".toList.contains c)

/-- Puts the next tokens into the queue. -/
def fetch : Scanning Unit := do
  skipToToken ((← remaining) + 1)
  dropStaleKeys
  closeBlocks (← here).column
  match ← peek with
  | none => streamEnd
  | some c =>
    let flow := (← get).flowLevel != 0
    let following ← peekAt 1
    let alone := isGapOrEnd following
    if (← here).column == 0 && c == '%' then directive
    else if ← documentMark '-' then documentToken .documentStart
    else if ← documentMark '.' then documentToken .documentEnd
    else if c == '[' then openFlow .flowSequenceStart
    else if c == '\x7b' then openFlow .flowMappingStart
    else if c == ']' then closeFlow .flowSequenceEnd
    else if c == '\x7d' then closeFlow .flowMappingEnd
    else if c == ',' then flowEntry
    else if c == '-' && alone then blockEntry
    else if c == '?' && (flow || alone) then keyMark
    else if c == ':' && (flow || alone) then valueMark
    else if c == '*' then namedPart "while scanning an alias" .alias
    else if c == '&' then namedPart "while scanning an anchor" .anchor
    else if c == '!' then tagToken
    else if c == '|' && !flow then blockScalar false
    else if c == '>' && !flow then blockScalar true
    else if c == '\'' || c == '"' then quotedScalar c
    else if startsPlain flow c following then plainScalar
    else
      fail "while scanning for the next token" (← here)
        "found character that cannot start any token"

/-- Whether something may still get in front of the first token of the queue. -/
def needsMore : Scanning Bool := do
  if (← get).queue.isEmpty then return true
  dropStaleKeys
  let scanner ← get
  return scanner.keys.any fun key => key.possible && key.number == scanner.released

/-- The tokens that leave the queue from a state on, and why there are no more. -/
def releasedFrom (scanner : Scanner) : Nat → List Token × Option Error
  | 0 => ([], none)
  | fuel + 1 =>
    match needsMore.run scanner with
    | .error error => ([], some error)
    | .ok (more, scanner) =>
      match more, scanner.queue with
      | false, token :: queue =>
        let (tokens, error) :=
          if token.kind = .streamEnd then ([], none)
          else releasedFrom { scanner with queue, released := scanner.released + 1 } fuel
        (token :: tokens, error)
      | _, _ =>
        match fetch.run scanner with
        | .ok (_, scanner) => releasedFrom scanner fuel
        | .error error => ([], some error)

end Scanning

/-- Whether a text may hold a character. -/
def isAllowed (c : Char) : Bool :=
  c == '\t' || c == '\n' || c == '\r' || (' ' ≤ c && c ≤ '~') || c == '\x85' ||
    ('\xa0' ≤ c && c.toNat ≤ 0xd7ff) || (0xe000 ≤ c.toNat && c.toNat ≤ 0xfffd) ||
    0x10000 ≤ c.toNat

/-- How many bytes come before the first character that is not allowed. -/
def firstControl? (offset : Nat) : List Char → Option Nat
  | [] => none
  | c :: cs => if isAllowed c then firstControl? (offset + c.utf8Size) cs else some offset

/-- The tokens of a text, and why there are no more if it is not YAML. A byte order mark at the start
is no part of the text. -/
def tokens (text : String) : List Token × Option Error :=
  let cs := text.toList
  let (cs, offset) := if cs.head? = some '\ufeff' then (cs.tail, 3) else (cs, 0)
  match firstControl? offset cs with
  | some offset => ([], some (.control offset))
  | none =>
    let streamStart : Token := ⟨.streamStart, .start, .start⟩
    let (others, error) := Scanning.releasedFrom
      { rest := cs, mark := .start, flowLevel := 0, indent := -1, indents := [], keyAllowed := true,
        keys := [.none], queue := [], released := 1 } (6 * cs.length + 32)
    (streamStart :: others, error)

end Yaml

end SqlLineage

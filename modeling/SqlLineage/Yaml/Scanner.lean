import SqlLineage.Yaml.Token

/-!
# Scanning YAML texts

A scanner reads characters and puts tokens into a queue. It remembers the columns of the open block
collections and, for each open flow collection, where a key may have started: only a colon tells that
what stands there was a key, and then a token is put in front of it.
-/

namespace SqlLineage

namespace Yaml

/-- A place where a key on one line may have started. -/
structure SimpleKey where
  /-- Whether it may still turn out to be a key. -/
  possible : Bool
  /-- Whether nothing but a key can stand there. -/
  required : Bool
  /-- How many tokens come before it. -/
  number : Nat
  /-- Where it is. -/
  mark : Mark
deriving DecidableEq, Repr

/-- No key. -/
def SimpleKey.none : SimpleKey :=
  ⟨false, false, 0, .start⟩

/-- The state of scanning. -/
structure Scanner where
  /-- The characters that have not been read. -/
  rest : List Char
  /-- The place in front of them. -/
  mark : Mark
  /-- How many flow collections are open. -/
  flowLevel : Nat
  /-- The column of the innermost open block collection, or minus one. -/
  indent : Int
  /-- The columns of the collections around it. -/
  indents : List Int
  /-- Whether a key may start here. -/
  keyAllowed : Bool
  /-- Where a key may have started, for each open flow collection and outside of all. -/
  keys : List SimpleKey
  /-- The tokens that may still get others in front of them. -/
  queue : List Token
  /-- How many tokens have left the queue. -/
  released : Nat

/-- A step of scanning. -/
abbrev Scanning := StateT Scanner (Except Error)

/-- Whether a character ends a line. -/
def isBreak (c : Char) : Bool :=
  c == '\n' || c == '\r' || c == '\x85' || c == '\u2028' || c == '\u2029'

/-- Whether a character is a space or a tab. -/
def isSpace (c : Char) : Bool :=
  c == ' ' || c == '\t'

/-- Whether a character is missing or ends a line. -/
def isBreakOrEnd : Option Char → Bool
  | some c => isBreak c
  | none => true

/-- Whether a character is missing, ends a line or is a space. -/
def isGapOrEnd : Option Char → Bool
  | some c => isBreak c || isSpace c
  | none => true

/-- Whether a character may stand in a name. -/
def isNameChar (c : Char) : Bool :=
  ('0' ≤ c && c ≤ '9') || ('a' ≤ c && c ≤ 'z') || ('A' ≤ c && c ≤ 'Z') || c == '_' || c == '-'

namespace Scanning

/-- The place in the text. -/
def here : Scanning Mark :=
  return (← get).mark

/-- The character behind `count` others. -/
def peekAt (count : Nat) : Scanning (Option Char) :=
  return (← get).rest[count]?

/-- The next character. -/
def peek : Scanning (Option Char) :=
  return (← get).rest.head?

/-- How many characters have not been read. -/
def remaining : Scanning Nat :=
  return (← get).rest.length

/-- Whether `c` comes next. -/
def next (c : Char) : Scanning Bool :=
  return (← peek) == some c

/-- Fails for a reason in a construct that starts at a place. -/
def fail {α : Type} (construct : String) (start : Mark) (reason : String) : Scanning α := do
  throw (.malformed reason (← here) (some (construct, start)))

/-- Goes past `count` characters of a line. -/
def skip (count : Nat) : Scanning Unit :=
  modify fun scanner =>
    { scanner with
      rest := scanner.rest.drop count
      mark := ⟨scanner.mark.index + count, scanner.mark.line, scanner.mark.column + count⟩ }

/-- Goes past a line break and says what it stands for. -/
def readBreak : Scanning (List Char) := do
  let scanner ← get
  let pass (count : Nat) : Scanning Unit :=
    set { scanner with
      rest := scanner.rest.drop count
      mark := ⟨scanner.mark.index + count, scanner.mark.line + 1, 0⟩ }
  match scanner.rest with
  | '\r' :: '\n' :: _ =>
    pass 2
    return ['\n']
  | c :: _ =>
    if isBreak c then
      pass 1
      return if c == '\u2028' || c == '\u2029' then [c] else ['\n']
    return []
  | [] => return []

/-- Goes past the characters for which `accepts` holds, all in one line, and gives them. -/
def takeWhile (accepts : Char → Bool) : Scanning (List Char) := do
  let taken := (← get).rest.takeWhile accepts
  skip taken.length
  return taken

/-- Goes past spaces and tabs. -/
def skipSpaces : Scanning Unit := do
  let _ ← takeWhile isSpace

/-- Goes past a comment. -/
def skipComment : Scanning Unit := do
  if ← next '#' then
    let _ ← takeWhile (!isBreak ·)

/-- Whether three `c` come next at the start of a line, and then nothing of their line. -/
def documentMark (c : Char) : Scanning Bool := do
  let scanner ← get
  return scanner.mark.column == 0 && [c, c, c].isPrefixOf scanner.rest &&
    isGapOrEnd scanner.rest[3]?

/-- Whether a document starts or ends here. -/
def atDocumentMark : Scanning Bool :=
  return (← documentMark '-') || (← documentMark '.')

/-- Puts a token behind the others. -/
def emit (kind : TokenKind) (start stop : Mark) : Scanning Unit :=
  modify fun scanner => { scanner with queue := scanner.queue ++ [⟨kind, start, stop⟩] }

/-- Puts a token in front of the one that has a number. -/
def emitAt (number : Nat) (kind : TokenKind) (mark : Mark) : Scanning Unit :=
  modify fun scanner =>
    let index := number - scanner.released
    { scanner with
      queue := scanner.queue.take index ++ ⟨kind, mark, mark⟩ :: scanner.queue.drop index }

/-- Puts a token for the next `count` characters behind the others. -/
def emitNext (kind : TokenKind) (count : Nat) : Scanning Unit := do
  let start ← here
  skip count
  emit kind start (← here)

/-- Says whether a key may start here. -/
def allowKey (allowed : Bool) : Scanning Unit :=
  modify fun scanner => { scanner with keyAllowed := allowed }

/-- Fails because of a key that lacks its colon. -/
def failKey {α : Type} (key : SimpleKey) : Scanning α :=
  fail "while scanning a simple key" key.mark "could not find expected ':'"

/-- Puts another key in the place of the innermost one. -/
def setKey (key : SimpleKey) : Scanning Unit :=
  modify fun scanner => { scanner with keys := key :: scanner.keys.tail }

/-- The innermost place where a key may have started. -/
def currentKey : Scanning SimpleKey :=
  return (← get).keys.headD .none

/-- Forgets where a key may have started. -/
def removeKey : Scanning Unit := do
  let key ← currentKey
  if key.possible && key.required then failKey key
  setKey { key with possible := false }

/-- Notes that a key may start here. -/
def saveKey : Scanning Unit := do
  let scanner ← get
  if scanner.keyAllowed then
    let required := scanner.flowLevel == 0 && scanner.indent == scanner.mark.column
    removeKey
    setKey ⟨true, required, scanner.released + scanner.queue.length, scanner.mark⟩

/-- The keys without those that the scanner has left behind: a key stays on its line and takes at
most 1024 characters. -/
def freshKeys (mark : Mark) : List SimpleKey → Except SimpleKey (List SimpleKey)
  | [] => .ok []
  | key :: keys => do
    let keys ← freshKeys mark keys
    if key.possible && (key.mark.line < mark.line || key.mark.index + 1024 < mark.index) then
      if key.required then .error key
      else return { key with possible := false } :: keys
    else return key :: keys

/-- Forgets keys that the scanner has left behind. -/
def dropStaleKeys : Scanning Unit := do
  let scanner ← get
  match freshKeys scanner.mark scanner.keys with
  | .ok keys => set { scanner with keys }
  | .error key => failKey key

/-- Opens a block collection at a column that lies deeper than the innermost one, with a token in
front of the one that has a number or behind all others. -/
def openBlock (column : Nat) (number : Option Nat) (kind : TokenKind) (mark : Mark) :
    Scanning Unit := do
  let scanner ← get
  if scanner.flowLevel == 0 && scanner.indent < column then
    set { scanner with indents := scanner.indent :: scanner.indents, indent := column }
    match number with
    | some number => emitAt number kind mark
    | none => emit kind mark mark

/-- The open block collections that do not lie deeper than a column, and how many lie deeper. -/
def outdent (column indent : Int) : List Int → Int × List Int × Nat
  | [] => (indent, [], 0)
  | outer :: indents =>
    if column < indent then
      let (indent, indents, count) := outdent column outer indents
      (indent, indents, count + 1)
    else (indent, outer :: indents, 0)

/-- Closes the block collections that lie deeper than a column. -/
def closeBlocks (column : Int) : Scanning Unit := do
  let scanner ← get
  if scanner.flowLevel == 0 then
    let (indent, indents, count) := outdent column scanner.indent scanner.indents
    set { scanner with
      indent
      indents
      queue := scanner.queue ++
        List.replicate count (⟨.blockEnd, scanner.mark, scanner.mark⟩ : Token) }

/-- Goes past spaces, comments and line breaks, at most `fuel` lines. -/
def skipToToken : Nat → Scanning Unit
  | 0 => return
  | fuel + 1 => do
    if (← here).column == 0 && (← next '\ufeff') then skip 1
    let scanner ← get
    let tabs := scanner.flowLevel != 0 || !scanner.keyAllowed
    let _ ← takeWhile fun c => c == ' ' || (tabs && c == '\t')
    skipComment
    match ← peek with
    | some c =>
      if isBreak c then
        let _ ← readBreak
        if (← get).flowLevel == 0 then allowKey true
        skipToToken fuel
    | none => return

end Scanning

end Yaml

end SqlLineage

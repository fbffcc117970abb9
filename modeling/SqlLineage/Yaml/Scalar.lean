import SqlLineage.Yaml.Scanner

/-!
# Scanning scalars

A line break inside of a scalar folds: a single one becomes a space, and of several the first one is
dropped. Only in a literal block do line breaks stand for themselves.
-/

namespace SqlLineage

namespace Yaml

/-- What stands between two pieces of a scalar. -/
structure Gap where
  /-- The spaces, if there is no line break. -/
  spaces : List Char
  /-- Whether there is a line break. -/
  broken : Bool
  /-- The first line break. -/
  first : List Char
  /-- The other line breaks. -/
  others : List Char

namespace Gap

/-- Nothing. -/
def none : Gap :=
  ⟨[], false, [], []⟩

/-- The text that a gap stands for. -/
def render (gap : Gap) : List Char :=
  if !gap.broken then gap.spaces
  else if gap.first = ['\n'] then (if gap.others.isEmpty then [' '] else gap.others)
  else gap.first ++ gap.others

end Gap

namespace Scanning

/-- Reads spaces and line breaks. A tab in front of column `indent` in a line of its own makes a
plain scalar fail that starts at a place. -/
def readGap (plain : Option (Int × Mark)) (gap : Gap) : Nat → Scanning Gap
  | 0 => return gap
  | fuel + 1 => do
    match ← peek with
    | none => return gap
    | some c =>
      if isSpace c then
        if let some (indent, start) := plain then
          if gap.broken && (← here).column < indent && c == '\t' then
            fail "while scanning a plain scalar" start
              "found a tab character that violates indentation"
        skip 1
        let gap := if gap.broken then gap else { gap with spaces := gap.spaces ++ [c] }
        readGap plain gap fuel
      else if isBreak c then
        let text ← readBreak
        let gap := if gap.broken then { gap with others := gap.others ++ text }
          else ⟨[], true, text, []⟩
        readGap plain gap fuel
      else return gap

/-- The characters of a plain scalar up to spaces or a mark that ends it. -/
def plainRun (start : Mark) : Nat → Scanning (List Char)
  | 0 => return []
  | fuel + 1 => do
    match ← peek with
    | none => return []
    | some c =>
      if isSpace c || isBreak c then return []
      let flow := (← get).flowLevel != 0
      let following ← peekAt 1
      if c == ':' then
        if flow && [',', '?', '[', ']', '\x7b', '\x7d'].any (some · == following) then
          fail "while scanning a plain scalar" start "found unexpected ':'"
        if isGapOrEnd following then return []
      if flow && [',', '[', ']', '\x7b', '\x7d'].contains c then return []
      skip 1
      return c :: (← plainRun start fuel)

/-- The rest of a plain scalar behind `text`, which ends at `stop`, and a gap. -/
def plainRest (start : Mark) (indent : Int) (text : List Char) (stop : Mark) (gap : Gap) :
    Nat → Scanning (List Char × Mark × Gap)
  | 0 => return (text, stop, gap)
  | fuel + 1 => do
    let finished : Bool := (← atDocumentMark) || (← next '#')
    if finished then return (text, stop, gap)
    let run ← plainRun start fuel
    let (text, stop, gap) ←
      if run.isEmpty then pure (text, stop, gap)
      else pure (text ++ gap.render ++ run, ← here, Gap.none)
    match ← peek with
    | none => return (text, stop, gap)
    | some c =>
      if !(isSpace c || isBreak c) then return (text, stop, gap)
      let gap ← readGap (some (indent, start)) gap fuel
      let scanner ← get
      if scanner.flowLevel == 0 && scanner.mark.column < indent then return (text, stop, gap)
      plainRest start indent text stop gap fuel

/-- A plain scalar. A line break behind it lets a key start there. -/
def plainScalar : Scanning Unit := do
  saveKey
  allowKey false
  let start ← here
  let (text, stop, gap) ←
    plainRest start ((← get).indent + 1) [] start .none ((← remaining) + 1)
  emit (.scalar (String.ofList text) .plain) start stop
  if gap.broken then allowKey true

/-- The character that a letter behind a backslash stands for. -/
def escapedChar? : Char → Option Char
  | '0' => some '\x00'
  | 'a' => some '\x07'
  | 'b' => some '\x08'
  | 't' | '\t' => some '\t'
  | 'n' => some '\n'
  | 'v' => some '\x0b'
  | 'f' => some '\x0c'
  | 'r' => some '\r'
  | 'e' => some '\x1b'
  | ' ' => some ' '
  | '"' => some '"'
  | '/' => some '/'
  | '\\' => some '\\'
  | 'N' => some '\x85'
  | '_' => some '\xa0'
  | 'L' => some '\u2028'
  | 'P' => some '\u2029'
  | _ => none

/-- How many digits the code of a character has behind a letter. -/
def codeLength? : Char → Option Nat
  | 'x' => some 2
  | 'u' => some 4
  | 'U' => some 8
  | _ => none

/-- The value of a hexadecimal digit. -/
def hexValue? (c : Char) : Option Nat :=
  if '0' ≤ c ∧ c ≤ '9' then some (c.toNat - '0'.toNat)
  else if 'a' ≤ c ∧ c ≤ 'f' then some (c.toNat - 'a'.toNat + 10)
  else if 'A' ≤ c ∧ c ≤ 'F' then some (c.toNat - 'A'.toNat + 10)
  else none

/-- The number that hexadecimal digits stand for. -/
def hexNumber? (digits : List Char) : Option Nat :=
  digits.foldlM (fun n c => (hexValue? c).map (n * 16 + ·)) 0

/-- An escape sequence in a scalar that starts at a place. -/
def escapeSequence (start : Mark) : Scanning Char := do
  let failed {α : Type} (reason : String) : Scanning α :=
    fail "while parsing a quoted scalar" start reason
  let letter := (← peekAt 1).getD '\x00'
  match escapedChar? letter, codeLength? letter with
  | some c, _ =>
    skip 2
    return c
  | none, some length =>
    skip 2
    let digits := (← get).rest.take length
    match hexNumber? digits with
    | some code =>
      if digits.length < length then failed "did not find expected hexdecimal number"
      if !code.isValidChar then failed "found invalid Unicode character escape code"
      skip length
      return Char.ofNat code
    | none => failed "did not find expected hexdecimal number"
  | none, none => failed "found unknown escape character"

/-- The characters of a quoted scalar up to spaces or the closing quote, and whether an escaped line
break ends them. -/
def quotedRun (quote : Char) (start : Mark) : Nat → Scanning (List Char × Bool)
  | 0 => return ([], false)
  | fuel + 1 => do
    match ← peek with
    | none => return ([], false)
    | some c =>
      if isSpace c || isBreak c then return ([], false)
      let following ← peekAt 1
      let double := quote == '"'
      if !double && c == '\'' && following == some '\'' then
        skip 2
        let (run, escaped) ← quotedRun quote start fuel
        return ('\'' :: run, escaped)
      if c == quote then return ([], false)
      if double && c == '\\' then
        if following.any isBreak then
          skip 1
          let _ ← readBreak
          return ([], true)
        let e ← escapeSequence start
        let (run, escaped) ← quotedRun quote start fuel
        return (e :: run, escaped)
      skip 1
      let (run, escaped) ← quotedRun quote start fuel
      return (c :: run, escaped)

/-- The rest of a quoted scalar behind `text`. -/
def quotedRest (quote : Char) (start : Mark) (text : List Char) : Nat → Scanning (List Char)
  | 0 => return text
  | fuel + 1 => do
    if ← atDocumentMark then
      fail "while scanning a quoted scalar" start "found unexpected document indicator"
    if (← peek).isNone then
      fail "while scanning a quoted scalar" start "found unexpected end of stream"
    let (run, escaped) ← quotedRun quote start fuel
    if ← next quote then return text ++ run
    let gap ← readGap none ⟨[], escaped, [], []⟩ fuel
    quotedRest quote start (text ++ run ++ gap.render) fuel

/-- A scalar in quotes. -/
def quotedScalar (quote : Char) : Scanning Unit := do
  saveKey
  allowKey false
  let start ← here
  skip 1
  let text ← quotedRest quote start [] ((← remaining) + 1)
  skip 1
  emit (.scalar (String.ofList text) .quoted) start (← here)

/-- What is kept of the line breaks at the end of a block. -/
inductive Chomping
  /-- None. -/
  | strip
  /-- The first one. -/
  | clip
  /-- All. -/
  | keep
deriving DecidableEq, Repr

/-- The mark that says what is kept of line breaks. -/
def chomping? : Scanning (Option Chomping) := do
  match ← peek with
  | some '+' =>
    skip 1
    return some .keep
  | some '-' =>
    skip 1
    return some .strip
  | _ => return none

/-- The digit that says how deep a block is indented. -/
def indentation? (start : Mark) : Scanning (Option Nat) := do
  match ← peek with
  | some c =>
    if '0' ≤ c && c ≤ '9' then
      if c == '0' then
        fail "while scanning a block scalar" start "found an indentation indicator equal to 0"
      skip 1
      return some (c.toNat - '0'.toNat)
    return none
  | none => return none

/-- The marks of a block that starts at a place, in either order. -/
def blockHeader (start : Mark) : Scanning (Chomping × Option Nat) := do
  match ← chomping? with
  | some chomping => return (chomping, ← indentation? start)
  | none =>
    match ← indentation? start with
    | some increment => return ((← chomping?).getD .clip, some increment)
    | none => return (.clip, none)

/-- Reads empty lines and the indentation of the line behind them, which lies at column `indent` if
that is known. Gives the line breaks, the deepest column and the place behind the last break. -/
def blockBreaks (start : Mark) (indent : Option Int) (breaks : List Char) (deepest : Nat)
    (stop : Mark) : Nat → Scanning (List Char × Nat × Mark)
  | 0 => return (breaks, deepest, stop)
  | fuel + 1 => do
    let column := (← here).column
    let spaces := ((← get).rest.takeWhile (· == ' ')).length
    skip (match indent with
      | some indent => min spaces (indent - column).toNat
      | none => spaces)
    let column := (← here).column
    let deepest := max deepest column
    let shallow : Bool := match indent with
      | some indent => column < indent
      | none => true
    if shallow && (← next '\t') then
      fail "while scanning a block scalar" start
        "found a tab character where an indentation space is expected"
    match ← peek with
    | some c =>
      if isBreak c then
        let text ← readBreak
        blockBreaks start indent (breaks ++ text) deepest (← here) fuel
      else return (breaks, deepest, stop)
    | none => return (breaks, deepest, stop)

/-- A block behind `text`. The last line of it ended with `first` and is followed by the breaks
`others`; `spaced` tells whether it started with a space. -/
def blockRest (start : Mark) (folded : Bool) (indent : Int) (text first others : List Char)
    (spaced : Bool) (stop : Mark) : Nat → Scanning (List Char × List Char × List Char × Mark)
  | 0 => return (text, first, others, stop)
  | fuel + 1 => do
    let c ← peek
    if (← here).column != indent || c.isNone then return (text, first, others, stop)
    let spacedNow := c.any isSpace
    let fold := folded && first == ['\n'] && !spaced && !spacedNow
    let joint := if !fold then first else if others.isEmpty then [' '] else []
    let line ← takeWhile (!isBreak ·)
    let text := text ++ joint ++ others ++ line
    let first ← readBreak
    let (others, _, stop) ← blockBreaks start (some indent) [] 0 (← here) fuel
    blockRest start folded indent text first others spacedNow stop fuel

/-- A block scalar. -/
def blockScalar (folded : Bool) : Scanning Unit := do
  removeKey
  allowKey true
  let start ← here
  let outer := (← get).indent
  skip 1
  let (chomping, increment) ← blockHeader start
  skipSpaces
  skipComment
  if !isBreakOrEnd (← peek) then
    fail "while scanning a block scalar" start "did not find expected comment or line break"
  let _ ← readBreak
  let fuel := (← remaining) + 1
  let given := increment.map fun increment =>
    if 0 ≤ outer then outer + increment else (increment : Int)
  let (breaks, deepest, stop) ← blockBreaks start given [] 0 (← here) fuel
  let indent := given.getD (max (max (deepest : Int) (outer + 1)) 1)
  let (text, first, others, stop) ←
    blockRest start folded indent [] [] breaks false stop fuel
  let text := match chomping with
    | .strip => text
    | .clip => text ++ first
    | .keep => text ++ first ++ others
  emit (.scalar (String.ofList text) (if folded then .folded else .literal)) start stop

end Scanning

end Yaml

end SqlLineage

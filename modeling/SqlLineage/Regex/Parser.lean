import SqlLineage.Regex.Bracket

/-!
# The grammar of patterns

A pattern is alternatives of sequences of repeated parts. A flag in a group holds from where it
stands to the end of the group, for later alternatives too.
-/

namespace SqlLineage

namespace Regex

namespace Parser

/-- The expression of a character. -/
def literal (c : Char) : Parser Regex := do
  return .one ((← get).flags.fold (.single c))

/-- The expression of a dot that takes the part `span`. -/
def dot (span : Span) : Parser Regex := do
  let flags := (← get).flags
  if !flags.unicode then note .invalidUtf8 span
  if flags.dotAll then return .one .all
  if flags.crlf then return .one (.compl (.ofList ['\r', '\n']))
  return .one (.compl (.single '\n'))

/-- A part without parts of its own. -/
def atom (fuel : Nat) (c : Char) : Parser Regex := do
  match c with
  | '[' => return .one (← bracket fuel)
  | '\\' =>
    match ← escape with
    | .literal c => literal c
    | .set set => return .one set
    | .look condition => return .look condition
  | _ =>
    let span ← charSpan
    bump
    let flags := (← get).flags
    match c with
    | '.' => dot span
    | '^' => return .look (if flags.multiLine then .lineStart flags.crlf else .textStart)
    | '$' => return .look (if flags.multiLine then .lineEnd flags.crlf else .textEnd)
    | _ => literal c

/-- The flags in which one has a value. -/
def setFlag (flags : Flags) (letter : Char) (value : Bool) : Flags :=
  match letter with
  | 'i' => { flags with ignoreCase := value }
  | 'm' => { flags with multiLine := value }
  | 's' => { flags with dotAll := value }
  | 'u' => { flags with unicode := value }
  | 'R' => { flags with crlf := value }
  | 'x' => { flags with verbose := value }
  | _ => flags

/-- The flags that are set up to a colon or a closing parenthesis, which is left, where `seen` are
the letters before, the last one first. -/
def flagLetters (seen : List (Char × Span)) : Nat → Parser (List Char)
  | 0 => failHere .flagUnexpectedEnd
  | fuel + 1 => do
    match ← peek with
    | none => failHere .flagUnexpectedEnd
    | some c =>
      if c = ':' ∨ c = ')' then
        match seen with
        | ('-', span) :: _ => throw ⟨.flagDanglingNegation, span, none⟩
        | _ => return (seen.map Prod.fst).reverse
      else
        if !"-imsUuRx".toList.contains c then failChar .flagUnrecognized none
        match seen.find? (·.1 == c) with
        | some (_, span) =>
          failChar (if c = '-' then .flagRepeatedNegation else .flagDuplicate) (some span)
        | none =>
          let span ← charSpan
          bump
          flagLetters ((c, span) :: seen) fuel

/-- The flags after letters, of which those behind a hyphen are turned off. -/
def applyLetters (flags : Flags) (value : Bool) : List Char → Flags
  | [] => flags
  | '-' :: letters => applyLetters flags false letters
  | letter :: letters => applyLetters (setFlag flags letter value) value letters

/-- Whether a character may stand in the name of a group. -/
def isNameChar (first : Bool) (c : Char) : Bool :=
  if first then c == '_' || Text.isAlphabetic c
  else ['_', '.', '[', ']'].contains c || Text.isAlphanumeric c

/-- The name of a group and the closing bracket behind it. -/
def groupName (first : Bool) : Nat → Parser (List Char)
  | 0 => failHere .groupNameUnexpectedEnd
  | fuel + 1 => do
    match ← peek with
    | none => failHere .groupNameUnexpectedEnd
    | some '>' =>
      return []
    | some c =>
      if isNameChar first c then
        bump
        return c :: (← groupName false fuel)
      else failChar .groupNameInvalid none

/-- Reads the name of a group, which no other group may have. -/
def namedGroup : Parser Unit := do
  let start ← here
  let name := String.ofList (← groupName true ((← remaining) + 1))
  let span : Span := ⟨start, ← here⟩
  bump
  if name.isEmpty then fail .groupNameEmpty start start
  match (← get).names.find? (·.1 == name) with
  | some (_, other) => throw ⟨.groupNameDuplicate, span, some other⟩
  | none => modify fun cursor => { cursor with names := (name, span) :: cursor.names }

/-- What an opening parenthesis opens. -/
inductive Opening
  /-- A group. -/
  | group
  /-- Flags, which take the parentheses for themselves. -/
  | flags

/-- Reads an opening parenthesis, which is next, and what says its kind. -/
def opening : Parser Opening := do
  let start ← here
  let parenthesis ← charSpan
  bumpSkip
  for mark in ["?=", "?!", "?<=", "?<!"] do
    if ← bumpIf mark then fail .unsupportedLookAround start (← here)
  let inner ← here
  if ← bumpIf "?P<" then
    namedGroup
    return .group
  if ← bumpIf "?<" then
    namedGroup
    return .group
  if ← bumpIf "?" then
    if ← atEnd then throw ⟨.groupUnclosed, parenthesis, none⟩
    let letters ← flagLetters [] ((← remaining) + 1)
    let closing := (← peek) == some ')'
    bump
    if closing && letters.isEmpty then fail .repetitionMissing inner inner
    modify fun cursor => { cursor with flags := applyLetters cursor.flags true letters }
    return if closing then .flags else .group
  return .group

/-- The part that a repetition repeats, and the parts before it. Flags cannot be repeated. -/
def repeatable (items : List (Option Regex)) : Parser (Regex × List (Option Regex)) :=
  match items with
  | some item :: items => return (item, items)
  | _ => failHere .repetitionMissing

/-- Goes past the mark of a lazy repetition. -/
def lazyMark : Parser Unit := do
  let _ ← bumpIf "?"

/-- The counts of a repetition in braces, whose opening brace is next. -/
def counts : Parser (Nat × Option Nat) := do
  let start ← here
  let checkEnd : Parser Unit := do
    if ← atEnd then fail .countUnclosed start (← here)
  bumpSkip
  checkEnd
  let least ← decimal?
  checkEnd
  let range : Nat × Option Nat ←
    if (← peek) == some ',' then do
      bumpSkip
      checkEnd
      let low ← if (← peek) == some '\x7d' then pure none else some <$> liftM least
      match low with
      | some low => pure (low, some (← liftM (← decimal?)))
      | none => pure (← liftM least, none)
    else do
      let count ← liftM least
      pure (count, some count)
  if (← peek) != some '\x7d' then fail .countUnclosed start (← here)
  bumpSkip
  lazyMark
  match range with
  | (low, some high) => if high < low then fail .countInvalid start (← here)
  | _ => pure ()
  return range

/-- The expression of parts, the last one first. -/
def sequenceOf (items : List (Option Regex)) : Regex :=
  match items.filterMap id with
  | [] => .empty
  | last :: others => others.foldl (fun behind item => .seq item behind) last

/-- The expression of alternatives, the last one first. -/
def alternativesOf (last : Regex) (others : List Regex) : Regex :=
  others.foldl (fun behind item => .alt item behind) last

/-- Alternatives up to a closing parenthesis, which is left, or the end, where `done` are the
alternatives before and `items` the parts of this one, the last ones first. -/
def alternatives : Nat → List Regex → List (Option Regex) → Parser Regex
  | 0, done, items => return alternativesOf (sequenceOf items) done
  | fuel + 1, done, items => do
    let repetition (least : Nat) (most : Option Nat) : Parser Regex := do
      let (item, items) ← repeatable items
      bump
      lazyMark
      alternatives fuel done (some (.repeated item least most) :: items)
    skip
    match ← peek with
    | none => return alternativesOf (sequenceOf items) done
    | some c =>
      match c with
      | ')' => return alternativesOf (sequenceOf items) done
      | '|' =>
        bump
        alternatives fuel (sequenceOf items :: done) []
      | '(' =>
        let parenthesis ← charSpan
        let flags := (← get).flags
        match ← opening with
        | .flags => alternatives fuel done (none :: items)
        | .group =>
          let inner ← alternatives fuel [] []
          if ← atEnd then throw ⟨.groupUnclosed, parenthesis, none⟩
          modify fun cursor => { cursor with flags }
          bump
          alternatives fuel done (some inner :: items)
      | '?' => repetition 0 (some 1)
      | '*' => repetition 0 none
      | '+' => repetition 1 none
      | '\x7b' =>
        let (item, items) ← repeatable items
        let (least, most) ← counts
        alternatives fuel done (some (.repeated item least most) :: items)
      | _ =>
        let item ← atom fuel c
        alternatives fuel done (some item :: items)

/-- A whole pattern. -/
def pattern : Parser Regex := do
  let regex ← alternatives ((← remaining) + 1) [] []
  if !(← atEnd) then failChar .groupUnopened none
  match (← get).meaning with
  | some fault => throw fault
  | none => return regex

end Parser

/-- The expression of a pattern. -/
def parse (pattern : String) : Except Fault Regex :=
  (Parser.pattern.run ⟨pattern.toList, .start, .standard, [], none⟩).map Prod.fst

end Regex

end SqlLineage

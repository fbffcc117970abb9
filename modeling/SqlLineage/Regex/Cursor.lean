import SqlLineage.Regex.Basic
import SqlLineage.Regex.Fault
import SqlLineage.Text.MachineWord

/-!
# Reading a pattern

A parser of patterns reads characters from a cursor, which knows its place in the pattern and the
flags that are in force. Faults of form win over faults of meaning, wherever they are: a fault of
meaning is kept in the cursor until the whole pattern has been read.
-/

namespace SqlLineage

namespace Regex

/-- The flags of a pattern. -/
structure Flags where
  /-- Case does not count. -/
  ignoreCase : Bool
  /-- Lines start and end at line breaks. -/
  multiLine : Bool
  /-- A dot is any character. -/
  dotAll : Bool
  /-- Classes are those of Unicode. -/
  unicode : Bool
  /-- Lines may end with a carriage return. -/
  crlf : Bool
  /-- Blanks and comments between characters do not count. -/
  verbose : Bool
deriving DecidableEq, Repr

/-- The flags in force where a pattern starts. -/
def Flags.standard : Flags :=
  ⟨false, false, false, true, false, false⟩

/-- Where a parser stands. -/
structure Cursor where
  /-- The characters that have not been read. -/
  rest : List Char
  /-- The place in front of them. -/
  place : Place
  /-- The flags in force. -/
  flags : Flags
  /-- The names of groups with their places. -/
  names : List (String × Span)
  /-- The first fault of meaning. -/
  meaning : Option Fault

/-- A parser that gives an `α`. -/
abbrev Parser := StateT Cursor (Except Fault)

namespace Parser

/-- The place in the pattern. -/
def here : Parser Place :=
  return (← get).place

/-- The next character. -/
def peek : Parser (Option Char) :=
  return (← get).rest.head?

/-- Whether the pattern ends. -/
def atEnd : Parser Bool :=
  return (← peek).isNone

/-- Goes past the next character. -/
def bump : Parser Unit :=
  modify fun cursor =>
    match cursor.rest with
    | [] => cursor
    | c :: cs => { cursor with rest := cs, place := cursor.place.behind c }

/-- Goes past `count` characters. -/
def bumps : Nat → Parser Unit
  | 0 => return
  | count + 1 => do
    bump
    bumps count

/-- Goes past `text` if it comes next. -/
def bumpIf (text : String) : Parser Bool := do
  if text.toList.isPrefixOf (← get).rest then
    bumps text.length
    return true
  return false

/-- The characters behind blanks and comments with their number, where `comment` tells whether they
are in a comment. -/
def blanks (comment : Bool) (count : Nat) : List Char → Nat
  | [] => count
  | c :: cs =>
    if comment then blanks (c != '\n') (count + 1) cs
    else if Text.isBlank c then blanks false (count + 1) cs
    else if c = '#' then blanks true (count + 1) cs
    else count

/-- Goes past blanks and comments where they do not count. -/
def skip : Parser Unit := do
  let cursor ← get
  if cursor.flags.verbose then bumps (blanks false 0 cursor.rest)

/-- Goes past the next character and what does not count. -/
def bumpSkip : Parser Unit := do
  bump
  skip

/-- Fails because of the part between two places. -/
def fail {α : Type} (kind : FaultKind) (start stop : Place) : Parser α :=
  throw ⟨kind, ⟨start, stop⟩, none⟩

/-- Fails at the place where the parser stands. -/
def failHere {α : Type} (kind : FaultKind) : Parser α := do
  let place ← here
  fail kind place place

/-- The part that the next character takes. -/
def charSpan : Parser Span := do
  let place ← here
  return ⟨place, place.behind ((← peek).getD ' ')⟩

/-- Fails because of the next character. -/
def failChar {α : Type} (kind : FaultKind) (other : Option Span) : Parser α := do
  throw ⟨kind, ← charSpan, other⟩

/-- Notes a fault of meaning, unless there is one already. -/
def note (kind : FaultKind) (span : Span) : Parser Unit :=
  modify fun cursor =>
    { cursor with meaning := cursor.meaning.orElse fun _ => some ⟨kind, span, none⟩ }

/-- The characters that are read while `accepts` holds, going past what does not count. -/
def takeWhile (accepts : Char → Bool) : Nat → Parser (List Char)
  | 0 => return []
  | fuel + 1 => do
    match ← peek with
    | some c =>
      if accepts c then
        bumpSkip
        return c :: (← takeWhile accepts fuel)
      else return []
    | none => return []

/-- How many characters have not been read. -/
def remaining : Parser Nat :=
  return (← get).rest.length

/-- Goes past blanks, which never count around numbers. -/
def skipBlanks : Parser Unit := do
  bumps ((← get).rest.takeWhile Text.isBlank).length

/-- A decimal number, or why none comes next. -/
def decimal? : Parser (Except Fault Nat) := do
  skipBlanks
  let start ← here
  let digits ← takeWhile Text.isAsciiDigit (← remaining)
  let span : Span := ⟨start, ← here⟩
  skipBlanks
  if digits.isEmpty then return .error ⟨.countDecimalEmpty, span, none⟩
  match Text.wordFrom Text.wordLimit 0 digits with
  | .ok n => return if n < Nat.pow 2 32 then .ok n else .error ⟨.decimalInvalid, span, none⟩
  | .error _ => return .error ⟨.decimalInvalid, span, none⟩

end Parser

end Regex

end SqlLineage

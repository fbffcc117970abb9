import SqlLineage.Regex.Escape

/-!
# Classes in brackets

A class in brackets is a union of characters, ranges and classes, or several such unions joined by
operators, all of which bind alike and to the left.
-/

namespace SqlLineage

namespace Regex

/-- An operator between unions. -/
inductive ClassOperator
  /-- What is in both. -/
  | intersection
  /-- What is in the first only. -/
  | difference
  /-- What is in one only. -/
  | symmetricDifference
deriving DecidableEq, Repr

/-- What an operator makes of two sets. -/
def ClassOperator.apply (operator : ClassOperator) (a b : CharSet) : CharSet :=
  match operator with
  | intersection => .inter a b
  | difference => .diff a b
  | symmetricDifference => .symmDiff a b

namespace Flags

/-- The set with what differs in case only, where case does not count. -/
def fold (flags : Flags) (set : CharSet) : CharSet :=
  if !flags.ignoreCase then set
  else if flags.unicode then .anyCase set
  else .anyAsciiCase set

end Flags

namespace Parser

/-- The class by a name in colons with which a text starts, and how many characters it takes. -/
def asciiClass? : List Char → Option (CharSet × Nat)
  | '[' :: ':' :: cs =>
    let negated := cs.head? == some '^'
    let cs := if negated then cs.tail else cs
    let name := cs.takeWhile (· != ':')
    if [':', ']'].isPrefixOf (cs.drop name.length) then
      (CharSet.ofAsciiName? (String.ofList name)).map fun set =>
        (.negateIf negated set, name.length + if negated then 5 else 4)
    else none
  | _ => none

/-- The character behind the next one and what does not count. -/
def peekBehind : Parser (Option Char) := do
  let cursor ← get
  let cs := cursor.rest.tail
  if cursor.flags.verbose then
    return (cs.drop (blanks false 0 cs)).head?
  return cs.head?

/-- Fails because the class that was opened at `opened` has no end. -/
def unclosed {α : Type} (opened : Span) : Parser α :=
  throw ⟨.classUnclosed, opened, none⟩

/-- A character or an escape sequence in a class, with the part it takes. -/
def classPrimitive : Parser (Primitive × Span) := do
  let start ← here
  match ← peek with
  | some '\\' =>
    let primitive ← escape
    return (primitive, ⟨start, ← here⟩)
  | some c =>
    bump
    return (.literal c, ⟨start, ← here⟩)
  | none => failHere .classUnclosed

/-- Notes a character that the class of a pattern without Unicode must not name. -/
def checkLiteral (c : Char) (span : Span) : Parser Unit := do
  if !(← get).flags.unicode && 128 ≤ c.toNat then note .unicodeNotAllowed span

/-- The character at an end of a range. -/
def rangeEnd (primitive : Primitive) (span : Span) : Parser Char :=
  match primitive with
  | .literal c => return c
  | _ => throw ⟨.classRangeLiteral, span, none⟩

/-- A character, an escape sequence or a range. -/
def classItem (opened : Span) : Parser CharSet := do
  let (first, firstSpan) ← classPrimitive
  skip
  if ← atEnd then unclosed opened
  let single : Bool :=
    (← peek) != some '-' || [some ']', some '-'].contains (← peekBehind)
  if single then
    match first with
    | .literal c =>
      checkLiteral c firstSpan
      return .single c
    | .set set => return set
    | .look _ => throw ⟨.classEscapeInvalid, firstSpan, none⟩
  else
    bumpSkip
    if ← atEnd then unclosed opened
    let (last, lastSpan) ← classPrimitive
    let low ← rangeEnd first firstSpan
    let high ← rangeEnd last lastSpan
    if high < low then fail .classRangeInvalid firstSpan.start lastSpan.stop
    checkLiteral low firstSpan
    checkLiteral high lastSpan
    return .range low high

/-- Hyphens at the start of a class. -/
def leadingHyphens (start : Place) : Nat → Parser Bool
  | 0 => return false
  | fuel + 1 => do
    if (← peek) == some '-' then
      bumpSkip
      if ← atEnd then fail .classUnclosed start start
      let _ ← leadingHyphens start fuel
      return true
    return false

/-- The start of a class: whether it is negated, and the characters that its first places make
literal. -/
def classStart : Parser (Bool × CharSet × Span) := do
  let start ← here
  let step : Parser Unit := do
    bumpSkip
    if ← atEnd then fail .classUnclosed start (← here)
  step
  let negated := (← peek) == some '^'
  if negated then step
  let hyphens ← leadingHyphens start (← remaining)
  let closing := !hyphens && (← peek) == some ']'
  if closing then step
  let set := if hyphens then CharSet.single '-' else if closing then .single ']' else .none
  return (negated, set, ⟨start, ← here⟩)

/-- The operator that comes next. -/
def classOperator? : Parser (Option ClassOperator) := do
  if ← bumpIf "&&" then return some .intersection
  if ← bumpIf "--" then return some .difference
  if ← bumpIf "~~" then return some .symmetricDifference
  return none

/-- The set on the left of an operator and what is on its right. -/
def joinSets (left : Option (CharSet × ClassOperator)) (set : CharSet) : Parser CharSet := do
  match left with
  | some (a, operator) =>
    let flags := (← get).flags
    return operator.apply (flags.fold a) (flags.fold set)
  | none => return set

mutual

/-- A class in brackets. -/
def bracket : Nat → Parser CharSet
  | 0 => failHere .classUnclosed
  | fuel + 1 => do
    let (negated, set, opened) ← classStart
    let set ← bracketBody fuel opened none set
    let flags := (← get).flags
    let result := CharSet.negateIf negated (flags.fold set)
    if !flags.unicode && result.contains '\x80' then note .invalidUtf8 ⟨opened.start, ← here⟩
    return result

/-- The rest of a class and its closing bracket, behind an operator with its left side and a part of
a union. -/
def bracketBody : Nat → Span → Option (CharSet × ClassOperator) → CharSet → Parser CharSet
  | 0, opened, _, _ => unclosed opened
  | fuel + 1, opened, left, set => do
    skip
    match ← peek with
    | none => unclosed opened
    | some '[' =>
      match asciiClass? (← get).rest with
      | some (named, count) =>
        bumps count
        bracketBody fuel opened left (.union set ((← get).flags.fold named))
      | none =>
        let inner ← bracket fuel
        bracketBody fuel opened left (.union set inner)
    | some ']' =>
      bump
      joinSets left set
    | some _ =>
      match ← classOperator? with
      | some operator => bracketBody fuel opened (some (← joinSets left set, operator)) .none
      | none =>
        let item ← classItem opened
        bracketBody fuel opened left (.union set item)

end

end Parser

end Regex

end SqlLineage

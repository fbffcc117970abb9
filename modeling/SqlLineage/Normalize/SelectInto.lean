import SqlLineage.Text.Case
import SqlLineage.Text.Class

/-!
# Selections into variables

`SELECT ... INTO a, b` puts its row into variables when it stands in a procedure. The list of
variables is removed if it ends the statement; a table behind `INTO` is followed by more of the
statement, and stays.
-/

namespace SqlLineage

namespace Normalize

/-- Whether the end of a word lies between two characters. -/
def isBoundary (before after : Option Char) : Bool :=
  before.any Text.isWordChar != after.any Text.isWordChar

/-- What is behind `word`, if a text begins with it in any case of letters. -/
def behindWord? : List Char → List Char → Option (List Char)
  | [], cs => some cs
  | _ :: _, [] => none
  | w :: word, c :: cs =>
    if Text.foldChar c = w then behindWord? word cs else none

/-- Whether a character begins the name of a variable. -/
def beginsVariable (c : Char) : Bool :=
  Text.isLetter c || c == '_' || c == '\u0345'

/-- Whether a character continues the name of a variable. -/
def continuesVariable (c : Char) : Bool :=
  beginsVariable c || Text.isNumber c

/-- The characters without the blanks in front. -/
def skipBlanks (cs : List Char) : List Char :=
  cs.dropWhile Text.isBlank

/-- What is behind a variable, if one stands here. -/
def behindVariable? (cs : List Char) : Option (List Char) :=
  let cs := match cs with
    | '@' :: rest => rest
    | other => other
  match cs with
  | [] => none
  | c :: rest => if beginsVariable c then some (rest.dropWhile continuesVariable) else none

/-- What is behind more variables, each with a comma in front of it; at most `fuel` of them. -/
def behindVariables : Nat → List Char → List Char
  | 0, cs => cs
  | fuel + 1, cs =>
    match skipBlanks cs with
    | ',' :: rest =>
      match behindVariable? (skipBlanks rest) with
      | some behind => behindVariables fuel behind
      | none => cs
    | _ => cs

/-- The end of a statement behind blanks: its terminator, and what is behind it. -/
def terminator? (cs : List Char) : Option (List Char × List Char) :=
  match skipBlanks cs with
  | [] => some ([], [])
  | ';' :: rest => some ([';'], rest)
  | _ => none

/-- The terminator behind `INTO` and a list of variables, and what is behind it, if all of that
stands here behind blanks; `before` is the character in front. -/
def intoVariables? (before : Option Char) (cs : List Char) : Option (List Char × List Char) :=
  let here := skipBlanks cs
  let previous := if here.length = cs.length then before else some ' '
  if isBoundary previous here.head? then
    match behindWord? ['i', 'n', 't', 'o'] here with
    | some behind =>
      if behind.head?.any Text.isBlank then
        (behindVariable? (skipBlanks behind)).bind fun rest =>
          terminator? (behindVariables rest.length rest)
      else none
    | none => none
  else none

/-- What a selection looks like without its variables. -/
structure Shortened where
  /-- The characters in front of the variables, the last one first. -/
  kept : List Char
  /-- The terminator of the statement. -/
  terminator : List Char
  /-- What is behind the statement. -/
  rest : List Char

/-- The selection of which the characters `kept` were read, reversed, without its variables; nothing
if it has none. -/
def shorten? (kept : List Char) (cs : List Char) : Option Shortened :=
  match intoVariables? kept.head? cs with
  | some (terminator, rest) => some ⟨kept, terminator, rest⟩
  | none =>
    match cs with
    | [] => none
    | c :: rest => if c = ';' then none else shorten? (c :: kept) rest

/-- The selection that begins here without its variables, if it has any; `before` is the character
in front. -/
def shortenedSelect? (before : Option Char) (cs : List Char) : Option Shortened :=
  if isBoundary before cs.head? then
    match behindWord? ['s', 'e', 'l', 'e', 'c', 't'] cs with
    | some behind =>
      let kept := (cs.take (cs.length - behind.length)).reverse
      if isBoundary kept.head? behind.head? then shorten? kept behind else none
    | none => none
  else none

/-- The characters without the variables of selections, where at most `fuel` characters are read;
`before` is the character in front. -/
def dropInto : Nat → Option Char → List Char → List Char
  | 0, _, cs => cs
  | fuel + 1, before, cs =>
    match cs with
    | [] => []
    | c :: rest =>
      match shortenedSelect? before (c :: rest) with
      | some shortened =>
        let last := match shortened.terminator.getLast? with
          | some c => some c
          | none => before
        shortened.kept.reverse ++ ' ' :: shortened.terminator ++
          dropInto fuel last shortened.rest
      | none => c :: dropInto fuel (some c) rest

/-- The text without the variables that selections put their rows into. -/
def withoutSelectTargets (text : String) : String :=
  let cs := text.toList
  String.ofList (dropInto cs.length none cs)

end Normalize

end SqlLineage

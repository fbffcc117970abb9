/-!
# Lines

Comments that begin with a hash sign become SQL comments, assignments become equations, and runs of
empty lines collapse. Everything else is kept character by character.
-/

namespace SqlLineage

namespace Normalize

/-- Whether a character may stand in front of a comment on its line. -/
def isIndent (c : Char) : Bool :=
  c == ' ' || c == '\t'

/-- The characters with `--` in place of a hash sign that only indentation separates from the
beginning of its line; `indented` says whether only indentation was met on the current line. -/
def hashComments (indented : Bool) : List Char → List Char
  | [] => []
  | c :: cs =>
    if c = '\n' then c :: hashComments true cs
    else if indented && c == '#' then '-' :: '-' :: ' ' :: hashComments false cs
    else c :: hashComments (indented && isIndent c) cs

/-- The characters with `=` in place of every `:=`. -/
def equations : List Char → List Char
  | [] => []
  | [c] => [c]
  | c :: d :: cs =>
    if c = ':' ∧ d = '=' then '=' :: equations cs else c :: equations (d :: cs)

/-- The text with SQL comments in place of hash comments and equations in place of assignments. -/
def withStandardMarks (text : String) : String :=
  String.ofList (equations (hashComments true text.toList))

/-- What is behind the end of a line, if the line ends here. -/
def lineEnd? : List Char → Option (List Char)
  | '\n' :: cs => some cs
  | '\r' :: '\n' :: cs => some cs
  | _ => none

/-- How many lines at the beginning of a text are empty, and what is behind them; a line is empty if
it holds indentation only. At most `fuel` lines are counted. -/
def emptyLines : Nat → List Char → Nat × List Char
  | 0, cs => (0, cs)
  | fuel + 1, cs =>
    match lineEnd? (cs.dropWhile isIndent) with
    | some rest =>
      let (count, behind) := emptyLines fuel rest
      (count + 1, behind)
    | none => (0, cs)

/-- What is behind the end of a line and three or more empty lines, if they stand here. -/
def gap? (cs : List Char) : Option (List Char) :=
  match lineEnd? cs with
  | none => none
  | some rest =>
    let (count, behind) := emptyLines rest.length rest
    if 3 ≤ count then some behind else none

/-- The characters with one empty line in place of three or more, where at most `fuel` characters
are read. -/
def collapse : Nat → List Char → List Char
  | 0, cs => cs
  | fuel + 1, cs =>
    match cs with
    | [] => []
    | c :: rest =>
      match gap? (c :: rest) with
      | some behind => '\n' :: '\n' :: collapse fuel behind
      | none => c :: collapse fuel rest

/-- The text with one empty line in place of three or more. -/
def collapseBlankLines (text : String) : String :=
  let cs := text.toList
  String.ofList (collapse cs.length cs)

end Normalize

end SqlLineage

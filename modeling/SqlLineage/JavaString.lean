import SqlLineage.Text.Trim

/-!
# Java string expressions

Job designers write a query as a Java expression that puts string literals and variables together.
Such an expression is split into string literals and code, and into the operands of its
concatenation, without evaluating anything. A literal that never ends reaches to the end of the
expression.
-/

namespace SqlLineage

namespace JavaString

/-- A piece of an expression. -/
inductive Segment
  /-- A string literal with its quotes. -/
  | literal (text : String)
  /-- What stands outside of string literals. -/
  | code (text : String)
deriving DecidableEq, Repr

namespace Segment

/-- The characters of a segment. -/
def text : Segment → String
  | literal text => text
  | code text => text

end Segment

/-- The characters up to and including the first `quote` that no backslash escapes, and what is
behind it. -/
def quotedRest (quote : Char) : List Char → List Char × List Char
  | [] => ([], [])
  | [c] => ([c], [])
  | c :: d :: cs =>
    if c = quote then ([c], d :: cs)
    else if c = '\\' then
      let (taken, rest) := quotedRest quote cs
      (c :: d :: taken, rest)
    else
      let (taken, rest) := quotedRest quote (d :: cs)
      (c :: taken, rest)

/-- What is behind a quoted text is not longer. -/
theorem length_quotedRest_le (quote : Char) (cs : List Char) :
    (quotedRest quote cs).2.length ≤ cs.length := by
  fun_induction quotedRest quote cs <;> simp_all <;> omega

/-- Code that was read, as a segment if there is any; `code` is reversed. -/
def codeSegment (code : List Char) : List Segment :=
  if code.isEmpty then [] else [.code (String.ofList code.reverse)]

/-- The segments of `expression`, in front of which the code `code` was read, reversed. A character
literal is code, so a double quote inside it opens no string literal. -/
def segmentsFrom (code : List Char) (expression : List Char) : List Segment :=
  match expression with
  | [] => codeSegment code
  | c :: cs =>
    if c = '\'' then
      let split := quotedRest '\'' cs
      segmentsFrom (split.1.reverse ++ c :: code) split.2
    else if c = '"' then
      let split := quotedRest '"' cs
      codeSegment code ++ .literal (String.ofList (c :: split.1)) :: segmentsFrom [] split.2
    else segmentsFrom (c :: code) cs
termination_by expression.length
decreasing_by
  · have bound := length_quotedRest_le '\'' cs
    simp
    omega
  · have bound := length_quotedRest_le '"' cs
    simp
    omega
  · simp

/-- The string literals of an expression and the code between them. -/
def segments (expression : String) : List Segment :=
  segmentsFrom [] expression.toList

/-- The state of splitting a concatenation. -/
structure Splitting where
  /-- The operands that have ended, the last one first. -/
  operands : List String
  /-- The characters of the operand that has not ended, reversed. -/
  current : List Char
  /-- How many more parentheses were opened than closed. The number is unbounded; from `2 ^ 31` open
  parentheses on it differs from a count of 32 bits. -/
  depth : Int

namespace Splitting

/-- The splitting behind one character of code: a plus outside of parentheses ends an operand. -/
def code (splitting : Splitting) (c : Char) : Splitting :=
  if c = '+' ∧ splitting.depth ≤ 0 then
    ⟨String.ofList splitting.current.reverse :: splitting.operands, [], splitting.depth⟩
  else
    let depth :=
      if c = '(' then splitting.depth + 1
      else if c = ')' then splitting.depth - 1
      else splitting.depth
    ⟨splitting.operands, c :: splitting.current, depth⟩

/-- The splitting behind a segment. -/
def segment (splitting : Splitting) : Segment → Splitting
  | .literal text =>
    { splitting with current := text.toList.reverse ++ splitting.current }
  | .code text => text.toList.foldl code splitting

/-- All operands, where the one that has not ended is the last. -/
def finish (splitting : Splitting) : List String :=
  (String.ofList splitting.current.reverse :: splitting.operands).reverse

end Splitting

/-- The operands between the plus signs of an expression that stand outside of string literals and
parentheses. -/
def operands (expression : String) : List String :=
  ((segments expression).foldl Splitting.segment ⟨[], [], 0⟩).finish

/-- The characters that escape sequences stand for. -/
def decodeList : List Char → List Char
  | [] => []
  | [c] => [c]
  | c :: d :: cs =>
    if c = '\\' then
      (match d with
        | 'n' => '\n'
        | 't' => '\t'
        | 'r' => '\r'
        | other => other) :: decodeList cs
    else c :: decodeList (d :: cs)

/-- The text in which escape sequences are resolved. -/
def decode (text : String) : String :=
  String.ofList (decodeList text.toList)

/-- A character inside a string literal. -/
def escapeChar : Char → List Char
  | '"' => ['\\', '"']
  | '\\' => ['\\', '\\']
  | '\n' => ['\\', 'n']
  | '\r' => ['\\', 'r']
  | '\t' => ['\\', 't']
  | c => [c]

/-- A text as a string literal. -/
def literalOf (text : String) : String :=
  String.ofList ('"' :: text.toList.flatMap escapeChar ++ ['"'])

/-- An operand without blanks and parentheses around it, where at most `fuel` pairs of parentheses
are removed. -/
def bare : Nat → List Char → List Char
  | 0, cs => cs
  | fuel + 1, cs =>
    match cs with
    | '(' :: inner =>
      if inner.getLast? == some ')' then
        bare fuel (Text.trimEndList (Text.trimStartList inner.dropLast))
      else cs
    | _ => cs

/-- Whether a text ends with a backslash that is not itself escaped. -/
def endsWithEscape (cs : List Char) : Bool :=
  (cs.reverse.takeWhile (· == '\\')).length % 2 == 1

/-- The characters between the quotes of a string literal, of which the closing one may be
missing. -/
def literalBody (literal : List Char) : List Char :=
  let inner := literal.tail
  if inner.getLast? == some '"' && !endsWithEscape inner.dropLast then inner.dropLast else inner

/-- The text of an operand that is a single string literal, with or without parentheses around
it. -/
def textOfLiteral? (operand : String) : Option String :=
  let cs := (Text.trim operand).toList
  match segmentsFrom [] (bare cs.length cs) with
  | [.literal text] => some (String.ofList (decodeList (literalBody text.toList)))
  | _ => none

end JavaString

end SqlLineage

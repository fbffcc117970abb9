/-!
# Faults of regular expressions

A fault points at a span of the pattern, and sometimes at another one that it conflicts with. The
report shows the pattern line by line, with carets under the spans.
-/

namespace SqlLineage

namespace Regex

/-- A place in a pattern. -/
structure Place where
  /-- The line, counted from one. -/
  line : Nat
  /-- The column, counted from one. -/
  column : Nat
deriving DecidableEq, Repr

namespace Place

/-- The place where a pattern starts. -/
def start : Place :=
  ⟨1, 1⟩

/-- The place behind a character. -/
def behind (place : Place) (c : Char) : Place :=
  if c = '\n' then ⟨place.line + 1, 1⟩ else ⟨place.line, place.column + 1⟩

end Place

/-- A part of a pattern. -/
structure Span where
  /-- Where it starts. -/
  start : Place
  /-- The place behind it. -/
  stop : Place
deriving DecidableEq, Repr

/-- What can be wrong with a pattern. -/
inductive FaultKind
  | classEscapeInvalid
  | classRangeInvalid
  | classRangeLiteral
  | classUnclosed
  | decimalInvalid
  | hexEmpty
  | hexInvalid
  | hexInvalidDigit
  | escapeUnexpectedEnd
  | escapeUnrecognized
  | flagDanglingNegation
  | flagDuplicate
  | flagRepeatedNegation
  | flagUnexpectedEnd
  | flagUnrecognized
  | groupNameDuplicate
  | groupNameEmpty
  | groupNameInvalid
  | groupNameUnexpectedEnd
  | groupUnclosed
  | groupUnopened
  | countInvalid
  | countDecimalEmpty
  | countUnclosed
  | repetitionMissing
  | wordBoundaryUnclosed
  | wordBoundaryUnrecognized
  | wordBoundaryUnexpectedEnd
  | unicodeClassInvalid
  | unsupportedBackreference
  | unsupportedLookAround
  | unicodeNotAllowed
  | invalidUtf8
  | propertyNotFound
  | propertyValueNotFound
deriving DecidableEq, Repr

/-- The message for a user. -/
def FaultKind.message : FaultKind → String
  | classEscapeInvalid => "invalid escape sequence found in character class"
  | classRangeInvalid => "invalid character class range, the start must be <= the end"
  | classRangeLiteral => "invalid range boundary, must be a literal"
  | classUnclosed => "unclosed character class"
  | decimalInvalid => "decimal literal invalid"
  | hexEmpty => "hexadecimal literal empty"
  | hexInvalid => "hexadecimal literal is not a Unicode scalar value"
  | hexInvalidDigit => "invalid hexadecimal digit"
  | escapeUnexpectedEnd => "incomplete escape sequence, reached end of pattern prematurely"
  | escapeUnrecognized => "unrecognized escape sequence"
  | flagDanglingNegation => "dangling flag negation operator"
  | flagDuplicate => "duplicate flag"
  | flagRepeatedNegation => "flag negation operator repeated"
  | flagUnexpectedEnd => "expected flag but got end of regex"
  | flagUnrecognized => "unrecognized flag"
  | groupNameDuplicate => "duplicate capture group name"
  | groupNameEmpty => "empty capture group name"
  | groupNameInvalid => "invalid capture group character"
  | groupNameUnexpectedEnd => "unclosed capture group name"
  | groupUnclosed => "unclosed group"
  | groupUnopened => "unopened group"
  | countInvalid => "invalid repetition count range, the start must be <= the end"
  | countDecimalEmpty => "repetition quantifier expects a valid decimal"
  | countUnclosed => "unclosed counted repetition"
  | repetitionMissing => "repetition operator missing expression"
  | wordBoundaryUnclosed =>
    "special word boundary assertion is either unclosed or contains an invalid character"
  | wordBoundaryUnrecognized =>
    "unrecognized special word boundary assertion, valid choices are: start, end, " ++
      "start-half or end-half"
  | wordBoundaryUnexpectedEnd =>
    "found either the beginning of a special word boundary or a bounded repetition on a \\b " ++
      "with an opening brace, but no closing brace"
  | unicodeClassInvalid => "invalid Unicode character class"
  | unsupportedBackreference => "backreferences are not supported"
  | unsupportedLookAround => "look-around, including look-ahead and look-behind, is not supported"
  | unicodeNotAllowed => "Unicode not allowed here"
  | invalidUtf8 => "pattern can match invalid UTF-8"
  | propertyNotFound => "Unicode property not found"
  | propertyValueNotFound => "Unicode property value not found"

/-- A fault of a pattern. -/
structure Fault where
  /-- What is wrong. -/
  kind : FaultKind
  /-- Where it is wrong. -/
  span : Span
  /-- Another part with which the span conflicts. -/
  other : Option Span
deriving DecidableEq, Repr

namespace Fault

/-- The lines of a pattern; a line break at the end starts no line. -/
def lines : List Char → List (List Char)
  | [] => []
  | c :: cs =>
    if c = '\n' then [] :: lines cs
    else
      match lines cs with
      | [] => [[c]]
      | line :: others => (c :: line) :: others

/-- A line without the carriage return of its line break. -/
def withoutReturn (line : List Char) : List Char :=
  if line.getLast? = some '\r' then line.dropLast else line

/-- The spans of a fault that start before others first. -/
def spans (fault : Fault) : List Span :=
  match fault.other with
  | none => [fault.span]
  | some other =>
    if other.start.line < fault.span.start.line ∨
        other.start.line = fault.span.start.line ∧ other.start.column ≤ fault.span.start.column then
      [other, fault.span]
    else [fault.span, other]

/-- The carets under spans of a line, behind `column` columns. -/
def carets (column : Nat) : List Span → List Char
  | [] => []
  | span :: others =>
    let gap := span.start.column - 1 - column
    let width := max 1 (span.stop.column - span.start.column)
    List.replicate gap ' ' ++ List.replicate width '^' ++ carets (column + gap + width) others

/-- A number with blanks in front. -/
def padded (width n : Nat) : String :=
  let digits := (toString n).toList
  String.ofList (List.replicate (width - digits.length) ' ' ++ digits)

/-- A line of the pattern and the carets under it, where `width` is the width of line numbers, zero
for none. -/
def lineReport (width : Nat) (spans : List Span) (number : Nat) (line : List Char) : String :=
  let label := if width = 0 then "    " else padded width number ++ ": "
  let marked := spans.filter fun span => span.start.line = number ∧ span.stop.line = number
  label ++ String.ofList line ++ "\n" ++
    if marked.isEmpty then ""
    else String.ofList (List.replicate label.length ' ' ++ carets 0 marked) ++ "\n"

/-- The reports of lines, the first of which has a number. -/
def lineReports (width : Nat) (spans : List Span) (number : Nat) : List (List Char) → String
  | [] => ""
  | line :: others =>
    lineReport width spans number line ++ lineReports width spans (number + 1) others

/-- The lines over which a span goes. -/
def linesNote (span : Span) : String :=
  s!"on line {span.start.line} (column {span.start.column}) through line {span.stop.line} " ++
    s!"(column {span.stop.column - 1})"

/-- The report on a fault of a pattern. -/
def report (pattern : String) (fault : Fault) : String :=
  let cs := pattern.toList
  let shown := (lines cs).map withoutReturn
  let count := shown.length + if cs.getLast? = some '\n' then 1 else 0
  let width := if count ≤ 1 then 0 else (toString count).length
  let body := lineReports width fault.spans 1 shown
  let failure := "error: " ++ fault.kind.message
  if cs.contains '\n' then
    let divider := String.ofList (List.replicate 79 '~') ++ "\n"
    let long := fault.spans.filter fun span => span.start.line ≠ span.stop.line
    let notes := if long.isEmpty then "" else String.intercalate "\n" (long.map linesNote) ++ "\n"
    "regex parse error:\n" ++ divider ++ body ++ divider ++ notes ++ failure
  else "regex parse error:\n" ++ body ++ failure

end Fault

end Regex

end SqlLineage

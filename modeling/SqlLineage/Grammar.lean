import SqlLineage.Grammar.Parser.Statement
import SqlLineage.Grammar.Survey
import SqlLineage.Text.Trim

/-!
# SQL by its grammar

A grammar of a dialect turns a text into statements or an error, and the facts of the statements are
their lineage. An error says where in the text it stands, which is read back from the message, since
the message is all that a grammar reports.
-/

namespace SqlLineage

/-- Why SQL has no facts. -/
inductive SqlError
  /-- The text is not SQL. -/
  | parse (message : String) (line column : Nat)
  /-- There is no text. -/
  | empty
  /-- There is no such dialect. -/
  | unknownDialect (name : String)
deriving DecidableEq, Repr

namespace SqlError

/-- The message for a user. -/
def message : SqlError → String
  | parse message line column =>
    s!"[S001] SQL parse error at line {line}, column {column}: " ++ message
  | empty => "[S002] SQL is empty"
  | unknownDialect name => "[S003] Unknown SQL dialect: " ++ name

/-- The characters behind the first occurrence of `marker`. -/
def behind? (marker : List Char) : List Char → Option (List Char)
  | [] => if marker.isEmpty then some [] else none
  | c :: cs =>
    if marker.isPrefixOf (c :: cs) then some ((c :: cs).drop marker.length)
    else behind? marker cs

/-- The number behind the first occurrence of `marker` and blanks, if it fits a machine word. -/
def numberBehind? (marker : String) (message : String) : Option Nat := do
  let rest ← behind? marker.toList message.toList
  let digits := (rest.dropWhile Text.isBlank).takeWhile Text.isAsciiDigit
  (Text.readWord (String.ofList digits)).toOption

/-- The error that a grammar reports with `message`; its position is read from the message, and zero
if the message names none. -/
def ofMessage (message : String) : SqlError :=
  match numberBehind? "Line: " message, numberBehind? "Column: " message with
  | some line, some column => parse message line column
  | _, _ => parse message 0 0

end SqlError

/-- The grammar of a dialect, with a limit on nesting. -/
structure SqlGrammar where
  /-- The dialect. -/
  dialect : Grammar.Dialect
  /-- The name by which the dialect was asked for, in lowercase. -/
  dialectName : String
  /-- How deep expressions, queries and statements may be nested. -/
  nestingLimit : Nat
deriving DecidableEq, Repr

namespace SqlGrammar

/-- How deep a text may be nested unless something else is asked for. -/
def standardNestingLimit : Nat :=
  50

/-- The grammar of the generic dialect. -/
def generic : SqlGrammar :=
  ⟨.generic, "generic", standardNestingLimit⟩

/-- The grammar of the dialect called `name`. -/
def ofName (name : String) : Except SqlError SqlGrammar :=
  match Grammar.Dialect.ofName? name with
  | some dialect => .ok ⟨dialect, Text.lower name, standardNestingLimit⟩
  | none => .error (.unknownDialect name)

/-- The grammar with another limit on nesting. -/
def withNestingLimit (grammar : SqlGrammar) (nestingLimit : Nat) : SqlGrammar :=
  { grammar with nestingLimit }

/-- The statements of a text. -/
def parse (grammar : SqlGrammar) (text : String) : Except SqlError (List Grammar.Statement) :=
  let text := Text.trim text
  if text.isEmpty then .error .empty
  else
    match Grammar.parseStatements grammar.dialect grammar.nestingLimit text with
    | .ok statements => .ok statements
    | .error error => .error (.ofMessage error.message)

/-- The facts of a text. -/
def facts (grammar : SqlGrammar) (text : String) : Except SqlError Facts :=
  (grammar.parse text).map Grammar.factsOf

end SqlGrammar

end SqlLineage

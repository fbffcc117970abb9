import SqlLineage.Lineage
import SqlLineage.Report.Timestamp

/-!
# The report for programs

A result is written as a JSON document, one member or element to a line, indented by two spaces a
level. Control characters, quotes and backslashes are escaped, and all other characters stand for
themselves.
-/

namespace SqlLineage

namespace Report

/-- A value of a JSON document. -/
inductive JsonValue
  /-- A number. -/
  | number (n : Nat)
  /-- A string. -/
  | text (s : String)
  /-- An array. -/
  | list (elements : List JsonValue)
  /-- An object. -/
  | object (members : List (String × JsonValue))

namespace JsonValue

/-- A hexadecimal digit. -/
def hexDigit (n : Nat) : Char :=
  if n < 10 then Char.ofNat ('0'.toNat + n) else Char.ofNat ('a'.toNat + (n - 10))

/-- A character inside of a string. -/
def escapeChar (c : Char) : List Char :=
  match c with
  | '"' => ['\\', '"']
  | '\\' => ['\\', '\\']
  | '\n' => ['\\', 'n']
  | '\r' => ['\\', 'r']
  | '\t' => ['\\', 't']
  | '\x08' => ['\\', 'b']
  | '\x0c' => ['\\', 'f']
  | c =>
    if c.toNat < 32 then ['\\', 'u', '0', '0', hexDigit (c.toNat / 16), hexDigit (c.toNat % 16)]
    else [c]

/-- A string with its quotes. -/
def quote (s : String) : String :=
  String.ofList ('"' :: s.toList.flatMap escapeChar ++ ['"'])

/-- The line break in front of an entry at a level. -/
def newline (level : Nat) : String :=
  String.ofList ('\n' :: List.replicate (2 * level) ' ')

mutual

/-- The text of a value at a level. -/
def render (level : Nat) : JsonValue → String
  | number n => toString n
  | text s => quote s
  | list [] => "[]"
  | list (element :: elements) =>
    "[" ++ newline (level + 1) ++ render (level + 1) element ++
      renderElements (level + 1) elements ++ newline level ++ "]"
  | object [] => "\x7b\x7d"
  | object ((key, value) :: members) =>
    "\x7b" ++ newline (level + 1) ++ quote key ++ ": " ++ render (level + 1) value ++
      renderMembers (level + 1) members ++ newline level ++ "\x7d"

/-- The text of the elements behind another element. -/
def renderElements (level : Nat) : List JsonValue → String
  | [] => ""
  | element :: elements =>
    "," ++ newline level ++ render level element ++ renderElements level elements

/-- The text of the members behind another member. -/
def renderMembers (level : Nat) : List (String × JsonValue) → String
  | [] => ""
  | (key, value) :: members =>
    "," ++ newline level ++ quote key ++ ": " ++ render level value ++ renderMembers level members

end

/-- An array of strings. -/
def texts (items : List String) : JsonValue :=
  list (items.map text)

end JsonValue

/-- What the report says about a job. -/
def jobJson (result : LineageResult) (job : Job) : JsonValue :=
  .object [
    ("name", .text job.name),
    ("version", .text job.version),
    ("path", .text job.location.text),
    ("input_tables", .texts (LineageResult.members result.inputTables job)),
    ("output_tables", .texts (LineageResult.members result.outputTables job)),
    ("functions", .texts (LineageResult.members result.functions job)),
    ("input_tables_per_component",
      .object ((result.components job.name).map fun (id, tables) => (id, .texts tables)))]

/-- The report on a result that was generated at a point in time. -/
def json (result : LineageResult) (stats : SearchStats) (generatedAt : Timestamp) : String :=
  JsonValue.render 0 (.object [
    ("generated_at", .text generatedAt.render),
    ("jobs_found", .number stats.jobsFound),
    ("jobs_failed", .number stats.jobsFailed),
    ("jobs", .list (result.jobs.map (jobJson result)))])

end Report

end SqlLineage

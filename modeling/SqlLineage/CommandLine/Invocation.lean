import SqlLineage.CommandLine.Arguments
import SqlLineage.Path

/-!
# Invocations

An invocation is what the arguments ask for, with a field for each option.
-/

namespace SqlLineage

namespace CommandLine

/-- How the result of a search is shown. -/
inductive ReportFormat
  /-- As text. -/
  | text
  /-- As JSON. -/
  | json
  /-- As a graph. -/
  | dot
deriving DecidableEq, Repr

/-- The text with lowercase letters of the ASCII alphabet. -/
def lowered (text : String) : String :=
  String.ofList (text.toList.map Char.toLower)

/-- The format of a name, in which case does not count. -/
def ReportFormat.ofName? (name : String) : Option ReportFormat :=
  match lowered name with
  | "text" => some text
  | "json" => some json
  | "dot" => some dot
  | _ => none

/-- The options of a search. -/
structure SearchOptions where
  /-- The directory of the jobs. -/
  jobsPath : Option Path
  /-- The pattern of the names of jobs. -/
  pattern : Option String
  /-- Whether all versions are searched. -/
  allVersions : Bool
  /-- The name of the dialect. -/
  dialect : Option String
  /-- Whether the grammar is not used. -/
  patternOnly : Bool
  /-- The name of the format of the report. -/
  format : String
deriving DecidableEq, Repr

/-- The options of an extraction. -/
structure ExtractOptions where
  /-- The SQL. -/
  sql : Option String
  /-- The file with the SQL. -/
  file : Option Path
  /-- The name of the dialect. -/
  dialect : Option String
  /-- Whether the grammar is not used. -/
  patternOnly : Bool
  /-- Whether the SQL is shown in normal form. -/
  normalized : Bool
deriving DecidableEq, Repr

/-- The options of a validation. -/
structure ValidateOptions where
  /-- The directory of the jobs. -/
  jobsPath : Option Path
  /-- Whether only errors are shown. -/
  quiet : Bool
deriving DecidableEq, Repr

/-- What is to be done. -/
inductive Command
  /-- Collect the lineage of jobs. -/
  | search (options : SearchOptions)
  /-- Extract the lineage of SQL. -/
  | extract (options : ExtractOptions)
  /-- Validate job documents. -/
  | validate (options : ValidateOptions)
  /-- Show the version. -/
  | version
deriving DecidableEq, Repr

/-- What the arguments ask for. -/
structure Invocation where
  /-- The file of the configuration. -/
  config : Option Path
  /-- Whether every step is logged. -/
  verbose : Bool
  /-- What is to be done. -/
  command : Command
deriving DecidableEq, Repr

namespace Invocation

/-- The path that an option of a name has. -/
def path? (given : Given) (option : OptionSpec) : Option Path :=
  (given.value? option).map Path.mk

/-- The value of an option of a command that has a name. -/
def text? (given : Given) (command : CommandSpec) (name : String) : Option String :=
  match command.options.find? (·.name == name) with
  | none => none
  | some option => given.value? option <|> option.standard

/-- Whether a switch of a name is given. -/
def has (given : Given) (name : String) : Bool :=
  given.switches.contains name

/-- What a command is to do with the options behind it. -/
def commandOf (spec : CommandSpec) (given : Given) : Command :=
  if spec = searchSpec then
    .search {
      jobsPath := path? given jobsPathOption
      pattern := text? given spec "pattern"
      allVersions := has given "all-versions"
      dialect := given.value? dialectOption
      patternOnly := given.has patternOnlyOption
      format := (text? given spec "format").getD "" }
  else if spec = extractSpec then
    .extract {
      sql := text? given spec "sql"
      file := (text? given spec "file").map Path.mk
      dialect := given.value? dialectOption
      patternOnly := given.has patternOnlyOption
      normalized := has given "normalized" }
  else if spec = validateSpec then
    .validate {
      jobsPath := path? given jobsPathOption
      quiet := has given "quiet" }
  else .version

/-- What arguments ask for. An option that stands both in front of the command and behind it has the
value behind it. -/
def ofArguments (arguments : List String) : Except Stop Invocation := do
  let (spec, before, behind) ← readArguments arguments
  return {
    config := path? behind configOption <|> path? before configOption
    verbose := before.has verboseOption || behind.has verboseOption
    command := commandOf spec behind }

end Invocation

end CommandLine

end SqlLineage

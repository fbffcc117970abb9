import SqlLineage.Collector
import SqlLineage.CommandLine.Help
import SqlLineage.CommandLine.Invocation
import SqlLineage.ConfigFile
import SqlLineage.DirectoryValidation
import SqlLineage.Graph
import SqlLineage.Report.Text

/-!
# The program

What the program writes, and whether it fails, as a function of its arguments, of the files and of
the setting in which it runs.
-/

namespace SqlLineage

/-- What the program finds around it. -/
structure Setting (m : Type → Type) where
  /-- Whether text is colored. -/
  color : Bool
  /-- Whether nothing is logged. -/
  silent : Bool
  /-- The directory in which the program runs. -/
  directory : Path
  /-- The time that records of the log show. -/
  logTime : String
  /-- The time that the report for programs shows. -/
  time : Report.Timestamp
  /-- How long the program has been running. -/
  elapsed : m String

/-- Something that is told beside the output. -/
inductive Note
  /-- A record of the log. -/
  | record (record : LogRecord)
  /-- A line for the user. -/
  | line (text : String)
deriving DecidableEq, Repr

/-- What the program writes, and how it ends. -/
structure Transcript where
  /-- The output. -/
  output : String
  /-- What is told beside it. -/
  notes : List Note
  /-- The code with which the program ends. -/
  exitCode : Nat
deriving DecidableEq, Repr, Inhabited

namespace Transcript

/-- Output only. -/
def ofOutput (text : String) : Transcript :=
  ⟨text, [], 0⟩

/-- Records only. -/
def ofRecords (records : List LogRecord) : Transcript :=
  ⟨"", records.map .record, 0⟩

/-- A line beside the output only. -/
def ofLine (line : String) : Transcript :=
  ⟨"", [.line line], 0⟩

/-- The end by an error, told with its causes. -/
def failure (messages : List String) : Transcript :=
  ⟨"", [.line ("Error: " ++ String.intercalate ": " messages)], 1⟩

/-- The first transcript and then the second, which tells how the program ends. -/
def andThen (first second : Transcript) : Transcript :=
  ⟨first.output ++ second.output, first.notes ++ second.notes, second.exitCode⟩

instance : Append Transcript :=
  ⟨andThen⟩

/-- What is told beside the output. -/
def errorText {m : Type → Type} (setting : Setting m) (verbose : Bool)
    (transcript : Transcript) : String :=
  String.join (transcript.notes.map fun
    | .line text => text ++ "\n"
    | .record record =>
      if !setting.silent && record.level.isShown verbose then
        record.render setting.logTime ++ "\n"
      else "")

end Transcript

namespace Program

open CommandLine

variable {m : Type → Type} [Monad m]

/-! ## Searching jobs -/

/-- The configuration with what the options of a search say. -/
def searchConfig (options : SearchOptions) (config : Config) : Config :=
  { config with
    jobsPath := options.jobsPath.getD config.jobsPath
    jobNamePattern := options.pattern.getD config.jobNamePattern
    onlyLatestVersion := config.onlyLatestVersion && !options.allVersions
    dialect := options.dialect.getD config.dialect
    preferGrammar := config.preferGrammar && !options.patternOnly }

/-- The report on what a search found in a span of time. -/
def searchReport (setting : Setting m) (elapsed : String) (format : ReportFormat)
    (stats : SearchStats) (result : LineageResult) : String :=
  match format with
  | .text =>
    Report.text setting.color result ++ "\n" ++ Report.statsLine setting.color stats ++ " in " ++
      elapsed ++ "\n"
  | .json => Report.json result stats setting.time ++ "\n"
  | .dot => (LineageGraph.ofResult result).toDot

/-- The end of a search by an error. -/
def searchFailure (config : Config) (error : LineageError) : Transcript :=
  .failure (("Search in " ++ config.jobsPath.text ++ " failed") :: error.message :: error.causes)

/-- The transcript of a search in jobs that were selected. -/
def searchJobs (setting : Setting m) (elapsed : String) (config : Config) (format : ReportFormat)
    (grammar : SqlGrammar) (found : List JobFindings) : Transcript :=
  let stats := SearchStats.ofFindings found
  let result := found.foldl LineageResult.adopt .empty
  .ofRecords (found.flatMap (·.records grammar) ++ [stats.logRecord]) ++
    .ofOutput (searchReport setting elapsed format stats result) ++
    if stats.jobsFound = 0 then .ofLine ("No jobs found in " ++ config.jobsPath.text)
    else .ofOutput ""

/-- The line that announces a search in a report for people. -/
def announcement (setting : Setting m) (config : Config) : ReportFormat → String
  | .text =>
    Report.Style.green.apply setting.color ("Searching jobs in: " ++ config.jobsPath.text) ++ "\n"
  | _ => ""

/-- Searches jobs. -/
def search (files : FileAccess m) (setting : Setting m) (config : Config) (format : ReportFormat) :
    m Transcript := do
  match SqlGrammar.ofName config.dialect with
  | .error error => return .failure [error.message]
  | .ok grammar =>
    let grammar := grammar.withNestingLimit config.nestingLimit
    let start := Transcript.ofOutput (announcement setting config format)
    match ← JobFile.jobs files config.jobsPath with
    | .error error => return start ++ searchFailure config error
    | .ok jobs =>
      let start := start ++ .ofRecords [⟨.debug, "repository::yaml", "Scanned job repository",
        [("root", config.jobsPath.text), ("count", toString jobs.length)]⟩]
      match JobSelection.select config.jobNamePattern config.onlyLatestVersion jobs with
      | .error error => return start ++ searchFailure config error
      | .ok selected =>
        let found ← selected.mapM fun job => do
          return JobFindings.ofDocument grammar config.policy job (← JobFile.document files job)
        return start ++ searchJobs setting (← setting.elapsed) config format grammar found

/-- The format that options ask for, and what is told if there is none of that name. -/
def chooseFormat (name : String) : ReportFormat × Transcript :=
  match ReportFormat.ofName? name with
  | some format => (format, .ofOutput "")
  | none =>
    (.text, .ofOutput ("Unsupported output format: " ++ lowered name ++
      ". Using text format instead.\n"))

/-! ## Extracting from SQL -/

/-- A title and its items. -/
def itemList (setting : Setting m) (title : String) (items : UniqueList String) : String :=
  Report.Style.bold.apply setting.color title ++ ":\n" ++
    String.join (items.toList.map fun item => "  • " ++ item ++ "\n")

/-- The SQL in normal form, if it is to be shown. -/
def normalForm (setting : Setting m) (options : ExtractOptions) (sql : String) : String :=
  if options.normalized then
    "--- " ++ Report.Style.green.apply setting.color "Normalized SQL" ++ " ---\n" ++
      Normalize.normalize sql ++ "\n\n"
  else ""

/-- Extracts the lineage of SQL. -/
def extractSql (setting : Setting m) (options : ExtractOptions) (config : Config) (sql : String) :
    Transcript :=
  match SqlGrammar.ofName (options.dialect.getD config.dialect) with
  | .error error => .failure [error.message]
  | .ok grammar =>
    let grammar := grammar.withNestingLimit config.nestingLimit
    let policy := if options.patternOnly then .patternOnly else config.policy
    let reading := Reading.ofSql grammar policy sql
    let lineage := reading.addTo snippetName .empty
    .ofRecords (reading.records grammar snippetName) ++
      .ofOutput (normalForm setting options sql ++
        itemList setting "Input tables" lineage.inputs ++
        itemList setting "Output tables" lineage.outputs ++
        itemList setting "Functions" lineage.functions)

/-- Extracts the lineage of the SQL that options give. -/
def extract (files : FileAccess m) (setting : Setting m) (options : ExtractOptions)
    (config : Config) : m Transcript := do
  match options.sql, options.file with
  | some sql, none => return extractSql setting options config sql
  | none, some file =>
    match ← files.text file with
    | .ok sql => return extractSql setting options config sql
    | .error reason => return .failure ["Failed to read " ++ file.text, reason.message]
  | _, _ => return .failure ["Pass exactly one of --sql or --file"]

/-! ## Validating documents -/

/-- What is told about a document. -/
def validationLines (quiet : Bool) (result : ValidationResult) : Transcript :=
  if result.isValid then
    if quiet then .ofOutput ""
    else .ofOutput ("✅ Valid job document: " ++ result.path.text ++ "\n")
  else
    ⟨"", (.line ("❌ Invalid job document: " ++ result.path.text) ::
      result.errors.map fun error => .line ("   - " ++ error)), 0⟩

/-- How many documents are valid. -/
def validationSummary (results : List ValidationResult) : String :=
  let total := results.length
  let valid := results.countP ValidationResult.isValid
  s!"\nValidation summary:\n  Valid jobs: {valid}\n  Invalid jobs: {total - valid}\n" ++
    s!"  Total jobs checked: {total}\n"

/-- What is told about documents. -/
def validationTranscript (quiet : Bool) (results : List ValidationResult) : Transcript :=
  let told := results.foldl (fun told result => told ++ validationLines quiet result)
    (.ofOutput "")
  let valid := results.all ValidationResult.isValid
  let summary := if quiet && valid then "" else validationSummary results
  told ++ ⟨summary, [], if valid then 0 else 1⟩

/-! ## Commands -/

/-- The version of the program and what it is for. -/
def versionText (setting : Setting m) : String :=
  Report.banner setting.color ++ "\n" ++
    "job_lineage CLI version " ++ programVersion ++ "\n" ++
    "Table and function lineage discovery for SQL embedded in ETL job definitions\n"

/-- Goes on with the configuration of the project. -/
def withConfig (files : FileAccess m) (setting : Setting m) (path : Option Path)
    (next : Config → m Transcript) : m Transcript := do
  let (config, records) ← ConfigFile.read files setting.directory path
  match config with
  | .error error => return .ofRecords records ++ .failure [error.message]
  | .ok config => return .ofRecords records ++ (← next config)

/-- Does what an invocation asks for. -/
def perform (files : FileAccess m) (setting : Setting m) (invocation : Invocation) :
    m Transcript := do
  match invocation.command with
  | .version => return .ofOutput (versionText setting)
  | .search options =>
    withConfig files setting invocation.config fun config => do
      let (format, told) := chooseFormat options.format
      return told ++ (← search files setting (searchConfig options config) format)
  | .extract options =>
    withConfig files setting invocation.config (extract files setting options)
  | .validate options =>
    match options.jobsPath with
    | some root =>
      return validationTranscript options.quiet (← Validation.ofDirectory files root)
    | none =>
      withConfig files setting invocation.config fun config => do
        return validationTranscript options.quiet
          (← Validation.ofDirectory files config.jobsPath)

/-- What the program leaves behind: its output, what is told beside it, and its exit code. -/
structure Outcome where
  /-- The output. -/
  output : String
  /-- What is told beside it. -/
  errors : String
  /-- The exit code. -/
  exitCode : Nat
deriving DecidableEq, Repr

/-- The outcome of arguments that do not ask for a command. -/
def stopped (setting : Setting m) : Stop → Outcome
  | .help command => ⟨Help.text setting.color command, "", 0⟩
  | .version => ⟨programName ++ " " ++ programVersion ++ "\n", "", 0⟩
  | .misuse error => ⟨"", error.message ++ "\n", 2⟩

/-- Runs the program with arguments. -/
def run (files : FileAccess m) (setting : Setting m) (arguments : List String) : m Outcome := do
  match Invocation.ofArguments arguments with
  | .error stop => return stopped setting stop
  | .ok invocation =>
    let transcript ← perform files setting invocation
    return ⟨transcript.output, transcript.errorText setting invocation.verbose,
      transcript.exitCode⟩

end Program

end SqlLineage

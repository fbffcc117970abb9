/-!
# Commands and their options

What may be written on the command line: the commands of the program, the options of each of them,
and the options that may stand with any command. Nothing else of the program knows their spelling.
-/

namespace SqlLineage

namespace CommandLine

/-- What an option takes. -/
inductive OptionValue
  /-- Nothing: the option is given or not. -/
  | switch
  /-- A text, which help shows by a name. -/
  | text (shown : String)
  /-- A path, which help shows by a name, and which is not empty. -/
  | path (shown : String)
deriving DecidableEq, Repr

/-- An option. -/
structure OptionSpec where
  /-- The letter behind one dash, if there is a short form. -/
  letter : Option Char
  /-- The name behind two dashes. -/
  name : String
  /-- What it takes. -/
  value : OptionValue
  /-- What it is for. -/
  purpose : String
  /-- The value that is taken if none is given. -/
  standard : Option String
deriving DecidableEq, Repr

/-- A command. -/
structure CommandSpec where
  /-- The name. -/
  name : String
  /-- What it is for. -/
  purpose : String
  /-- Its own options. -/
  options : List OptionSpec
deriving DecidableEq, Repr

/-- The name of the program. -/
def programName : String :=
  "jl"

/-- The version of the program. -/
def programVersion : String :=
  "0.1.0"

/-- What the program is for. -/
def programPurpose : String :=
  "Table and function lineage for ETL job repositories"

/-- The option for the configuration. -/
def configOption : OptionSpec :=
  ⟨some 'c', "config", .path "CONFIG",
    "Path to the project configuration (defaults to ./lineage_project.yaml)", none⟩

/-- The option for a log of every step. -/
def verboseOption : OptionSpec :=
  ⟨some 'v', "verbose", .switch, "Log debug output to stderr", none⟩

/-- The option for help. -/
def helpOption : OptionSpec :=
  ⟨some 'h', "help", .switch, "Print help", none⟩

/-- The option for the version. -/
def versionOption : OptionSpec :=
  ⟨some 'V', "version", .switch, "Print version", none⟩

/-- The option for the directory of the jobs. -/
def jobsPathOption : OptionSpec :=
  ⟨some 'j', "jobs-path", .path "JOBS_PATH", "Directory holding the job documents", none⟩

/-- The option for the dialect. -/
def dialectOption : OptionSpec :=
  ⟨some 'd', "dialect", .text "DIALECT", "SQL dialect of the grammar parser", none⟩

/-- The option against the grammar. -/
def patternOnlyOption : OptionSpec :=
  ⟨none, "pattern-only", .switch, "Skip the grammar parser and match patterns only", none⟩

/-- The command that searches jobs. -/
def searchSpec : CommandSpec :=
  ⟨"search", "Collect lineage for the jobs of a repository",
    [jobsPathOption,
      ⟨some 'p', "pattern", .text "PATTERN", "Regex a job name has to match", none⟩,
      ⟨none, "all-versions", .switch, "Search every version, not only the latest", none⟩,
      dialectOption,
      patternOnlyOption,
      ⟨some 'f', "format", .text "FORMAT", "Output format for the report (text, json, dot)",
        some "text"⟩]⟩

/-- The command that reads SQL. -/
def extractSpec : CommandSpec :=
  ⟨"extract", "Extract lineage from a single SQL snippet",
    [⟨some 's', "sql", .text "SQL", "SQL text", none⟩,
      ⟨some 'f', "file", .path "FILE", "File holding the SQL text", none⟩,
      dialectOption,
      patternOnlyOption,
      ⟨some 'n', "normalized", .switch, "Print the normalized SQL", none⟩]⟩

/-- The command that validates job documents. -/
def validateSpec : CommandSpec :=
  ⟨"validate", "Validate job documents against the component parameter contracts",
    [jobsPathOption,
      ⟨some 'q', "quiet", .switch, "Quiet mode - only output errors", none⟩]⟩

/-- The command that shows the version. -/
def versionSpec : CommandSpec :=
  ⟨"version", "Show version information", []⟩

/-- The commands of the program. -/
def commands : List CommandSpec :=
  [searchSpec, extractSpec, validateSpec, versionSpec]

/-- The name of the command that shows help. -/
def helpCommand : String :=
  "help"

/-- What the command that shows help is for. -/
def helpPurpose : String :=
  "Print this message or the help of the given subcommand(s)"

/-- The options that may stand with any command. -/
def sharedOptions : List OptionSpec :=
  [configOption, verboseOption]

end CommandLine

end SqlLineage

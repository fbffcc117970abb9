import SqlLineage.Extraction
import SqlLineage.Yaml.Decode

/-!
# Project configuration

A project says where its jobs are, which of them are searched, and how their SQL is read. Whatever
it does not say has a default.
-/

namespace SqlLineage

/-- The configuration of a project. -/
structure Config where
  /-- The name of the project. -/
  name : String
  /-- The directory of the job documents. -/
  jobsPath : Path
  /-- The pattern of the names of jobs that are searched. -/
  jobNamePattern : String
  /-- Whether only the latest version of a job is searched. -/
  onlyLatestVersion : Bool
  /-- The name of the dialect in which SQL is read. -/
  dialect : String
  /-- Whether the grammar is used. -/
  preferGrammar : Bool
  /-- Whether scanning is used. -/
  preferPattern : Bool
  /-- How deep a statement may be nested. -/
  nestingLimit : Nat
deriving DecidableEq, Repr

namespace Config

/-- The configuration of a project that says nothing. -/
def standard : Config where
  name := "lineage_project"
  jobsPath := ⟨"jobs"⟩
  jobNamePattern := ".*"
  onlyLatestVersion := true
  dialect := "generic"
  preferGrammar := true
  preferPattern := true
  nestingLimit := 50

instance : Inhabited Config :=
  ⟨standard⟩

/-- How SQL is read in the project. -/
def policy (config : Config) : ExtractionPolicy :=
  .ofPreferences config.preferGrammar config.preferPattern

section Format

open Yaml
open Yaml.Decoder

/-- What a text says of a configuration. -/
structure Members where
  name : Option String := none
  jobsPath : Option String := none
  jobNamePattern : Option String := none
  onlyLatestVersion : Option Bool := none
  dialect : Option String := none
  preferGrammar : Option Bool := none
  preferPattern : Option Bool := none
  nestingLimit : Option Nat := none

/-- Reads a member of the configuration on a route. -/
def member (route : Route) (mark : Mark) (members : Members) (key : String) (inner : Route) :
    Decoder Members := do
  let text (current : Option String) : Decoder (Option String) :=
    once route mark key current (string "a string" inner)
  let switch (current : Option Bool) : Decoder (Option Bool) :=
    once route mark key current (boolean inner)
  match key with
  | "name" => return { members with name := ← text members.name }
  | "jobs_path" =>
    let path ← once route mark key members.jobsPath (string "path string" inner)
    return { members with jobsPath := path }
  | "job_name_pattern" => return { members with jobNamePattern := ← text members.jobNamePattern }
  | "only_latest_version" =>
    return { members with onlyLatestVersion := ← switch members.onlyLatestVersion }
  | "dialect" => return { members with dialect := ← text members.dialect }
  | "prefer_grammar_parser" =>
    return { members with preferGrammar := ← switch members.preferGrammar }
  | "prefer_pattern_parser" =>
    return { members with preferPattern := ← switch members.preferPattern }
  | "recursion_limit" =>
    let limit ← once route mark key members.nestingLimit (word "usize" inner)
    return { members with nestingLimit := limit }
  | _ =>
    skipValue
    return members

/-- A configuration in a document. -/
def decoder (route : Route) : Decoder Config := do
  let (members, _) ← mapping "struct LineageConfig" (member route) ({} : Members) route
  return {
    name := members.name.getD standard.name
    jobsPath := (members.jobsPath.map Path.mk).getD standard.jobsPath
    jobNamePattern := members.jobNamePattern.getD standard.jobNamePattern
    onlyLatestVersion := members.onlyLatestVersion.getD standard.onlyLatestVersion
    dialect := members.dialect.getD standard.dialect
    preferGrammar := members.preferGrammar.getD standard.preferGrammar
    preferPattern := members.preferPattern.getD standard.preferPattern
    nestingLimit := members.nestingLimit.getD standard.nestingLimit }

end Format

/-- The configuration that a text describes. -/
def ofText (text : String) : Except Yaml.Error Config :=
  Yaml.Decoder.ofText decoder text

end Config

/-- Why a project has no configuration. -/
inductive ConfigError
  /-- The text is no configuration. -/
  | format (error : Yaml.Error)
  /-- The file that was asked for is not there. -/
  | missing (path : Path)
  /-- The file cannot be read. -/
  | unreadable (path : Path) (reason : String)
  /-- The text of the file is no configuration. -/
  | invalid (path : Path) (error : Yaml.Error)

namespace ConfigError

/-- What is wrong with the text of a configuration. -/
def formatMessage (error : Yaml.Error) : String :=
  "Invalid project configuration: " ++ error.message

/-- The message for a user. -/
def message : ConfigError → String
  | format error => formatMessage error
  | missing path => "Configuration file not found at: " ++ path.text
  | unreadable path reason => "Failed to read " ++ path.text ++ ": " ++ reason
  | invalid path error => "Failed to load " ++ path.text ++ ": " ++ formatMessage error

end ConfigError

end SqlLineage

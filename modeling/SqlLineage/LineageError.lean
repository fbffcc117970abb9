import SqlLineage.Files.Access
import SqlLineage.Job
import SqlLineage.Regex.Parser
import SqlLineage.Yaml.Error

/-!
# Why lineage cannot be collected

A job fails because of its document or because of a variable without a value. A search fails as a
whole only because of the directory of the jobs or because of the pattern of their names.
-/

namespace SqlLineage

/-- Why a document cannot be read. -/
inductive DocumentFault
  /-- The job has none. -/
  | absent
  /-- Its file cannot be read. -/
  | unreadable (reason : FileFault)
deriving DecidableEq, Repr

/-- The reason for a user. -/
def DocumentFault.message : DocumentFault → String
  | absent => "no document"
  | unreadable reason => reason.message

/-- Why lineage cannot be collected. -/
inductive LineageError
  /-- A component refers to a variable without a value. -/
  | unresolved (component name : String)
  /-- The document of a job cannot be read. -/
  | unreadable (job : Job) (reason : DocumentFault)
  /-- The document of a job is not valid. -/
  | malformed (job : Job) (error : Yaml.Error)
  /-- The jobs below a directory cannot be listed. -/
  | unlisted (root : Path) (fault : WalkFault)
  /-- The pattern of the names of jobs is not valid. -/
  | invalidPattern (pattern : String) (fault : Regex.Fault)

namespace LineageError

/-- The message for a user. -/
def message : LineageError → String
  | unresolved component name =>
    "[L001] Replace context vars failed for component " ++ component ++
      ": unresolved variable context." ++ name
  | unreadable job reason =>
    "[L002] Failed to read document of job " ++ job.display ++ " at " ++ job.location.text ++ ": " ++
      reason.message
  | malformed job error =>
    "[L003] Invalid document of job " ++ job.display ++ " at " ++ job.location.text ++ ": " ++
      error.message
  | unlisted root fault =>
    "[L004] Failed to read job repository at " ++ root.text ++ ": " ++ fault.message
  | invalidPattern pattern fault => "[L005] Invalid job name pattern: " ++ fault.report pattern

/-- What lies behind the error, from the nearest cause to the farthest. -/
def causes : LineageError → List String
  | unresolved _ _ => []
  | unreadable _ reason => [reason.message]
  | malformed _ error => [error.message]
  | unlisted _ fault => [fault.message, fault.reason.message]
  | invalidPattern pattern fault => [fault.report pattern]

end LineageError

end SqlLineage

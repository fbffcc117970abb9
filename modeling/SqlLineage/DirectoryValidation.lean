import SqlLineage.Repository
import SqlLineage.Validation

/-!
# Validation of directories

All job documents below a directory are validated. What cannot be read is not valid either, and of a
directory that cannot be gone through that is all that is told.
-/

namespace SqlLineage

namespace Validation

variable {m : Type → Type} [Monad m]

/-- Validates the document of a job, if there is one. -/
def ofJob (job : Job) (document : Except LineageError JobDocument) : ValidationResult :=
  match document with
  | .ok document => ofDocument job.location document
  | .error error => .invalid job.location [error.message]

/-- Validates the documents of all jobs below a directory. -/
def ofDirectory (files : FileAccess m) (root : Path) : m (List ValidationResult) := do
  if ← files.isDirectory root then
    match ← JobFile.jobs files root with
    | .error error => return [.invalid root [error.message]]
    | .ok jobs => jobs.mapM fun job => return ofJob job (← JobFile.document files job)
  else return [.invalid root ["Path is not a directory: " ++ root.text]]

end Validation

end SqlLineage
